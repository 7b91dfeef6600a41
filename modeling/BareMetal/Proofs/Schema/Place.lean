/-
# The place of a mismatch

The path of a mismatch leads through the value that was read and, step by step, through the shape
that it was read by (`Datum.follow`, `Shape.along`). The value there is the one that was found, the
shape there rejects it by itself, and nothing before it is wrong (`Shape.IsFirst`). In a list or a
map what comes before is the items or the entries in front; in a map that is read by a schema it is
the fields that are declared in front, wherever the map has them (`Schema.IsFirst`).

| expected | found |
| --- | --- |
| a number that is not negative | the whole number that the value at the place stands for |
| any other form | the value at the place |

The path says nothing of preparations. So what a preparation puts in the place of a value must not
be at fault itself (`Shape.Sound`).
-/

import BareMetal.Proofs.Json.Names
import BareMetal.Proofs.Collections
import BareMetal.Proofs.Wire.Value
import Mathlib

namespace BareMetal

/-- The value that a path leads to. -/
def Datum.follow : List Step → Datum → Option Datum
  | [], d => some d
  | .name k :: path, .map es => (Entries.get? k es).bind (follow path)
  | .index i :: path, .list ds => ds[i]?.bind (follow path)
  | _ :: _, _ => none

/-- The values that come before a step into a list or a map. -/
def Datum.before : Step → Datum → List Datum
  | .name k, .map es => (es.takeWhile fun e => e.1 ≠ k).map Prod.snd
  | .index i, .list ds => ds.take i
  | _, _ => []

/-- Where no name is repeated, what comes before a name is what is written before it. -/
theorem Datum.before_name {before after : Entries Datum} {k : String} {d : Datum}
    (distinct : (Entries.names (before ++ (k, d) :: after)).Nodup) :
    Datum.before (.name k) (.map (before ++ (k, d) :: after)) = before.map Prod.snd := by
  have other : ∀ e ∈ before, decide (e.1 ≠ k) = true := by
    intro e he
    rw [decide_eq_true_iff]
    rintro rfl
    rw [Entries.names, List.map_append] at distinct
    exact (List.nodup_append.1 distinct).2.2 _ (List.mem_map_of_mem he) _ (by simp) rfl
  rw [Datum.before, List.takeWhile_append_of_pos other, List.takeWhile_cons_of_neg (by simp),
    List.append_nil]

/-- The mismatch shows the value at its place, or what it was converted to. -/
def Mismatch.Shows (m : Mismatch) (d : Datum) : Prop :=
  if m.expected = .unsignedNumber then ∃ n : ℤ, n < 0 ∧ Denotes d n ∧ m.got = .int n
  else m.got = d

namespace Shape

/-- The shape of the values at a path. -/
def along : Shape → List Step → Option Shape
  | s, [] => some s
  | list item, .index _ :: path => item.along path
  | map value, .name _ :: path => value.along path
  | nullable s, step :: path => s.along (step :: path)
  | prepared _ s, step :: path => s.along (step :: path)
  | _, _ :: _ => none

/-- What a preparation changes, the shape takes. -/
def Sound : Shape → Prop
  | list item => item.Sound
  | map value => value.Sound
  | nullable s => s.Sound
  | prepared p s => s.Sound ∧ ∀ d, p.apply d ≠ d → ∃ c, s.read (p.apply d) = .ok c
  | _ => True

/-- The mismatch points at the first value that is wrong: the shape at its path rejects the value
at its path, and on the way to it takes whatever comes before. -/
structure IsFirst (s : Shape) (d : Datum) (m : Mismatch) : Prop where
  rejected : ∃ t e, s.along m.path = some t ∧ d.follow m.path = some e ∧
    t.read e = .error { m with path := [] } ∧ m.Shows e
  earlier : ∀ front step rest, m.path = front ++ step :: rest →
    ∃ t e, s.along (front ++ [step]) = some t ∧ d.follow front = some e ∧
      ∀ b ∈ e.before step, ∃ c, t.read b = .ok c

/-- The empty path leads to the shape itself. -/
theorem along_nil (s : Shape) : s.along [] = some s := by
  cases s <;> rfl

namespace IsFirst

variable {s t : Shape} {d e : Datum} {m : Mismatch}

/-- A value that is rejected as a whole is the first that is wrong. -/
theorem here (wrong : s.read d = .error m) (path : m.path = []) (shows : m.Shows d) :
    s.IsFirst d m := by
  obtain ⟨expected, got, place⟩ := m
  dsimp only at path
  subst path
  refine ⟨⟨s, d, s.along_nil, rfl, wrong, shows⟩, fun front step rest h => ?_⟩
  exact absurd h.symm (List.append_ne_nil_of_right_ne_nil _ (List.cons_ne_nil _ _))

/-- The same one step further out, if nothing before that step is wrong. -/
theorem under {step : Step} (h : t.IsFirst e m)
    (shape : ∀ path, s.along (step :: path) = t.along path)
    (value : ∀ path, d.follow (step :: path) = e.follow path)
    (earlier : ∀ b ∈ d.before step, ∃ c, t.read b = .ok c) : s.IsFirst d (m.under step) := by
  obtain ⟨u, x, hu, hx, wrong, shows⟩ := h.rejected
  refine ⟨⟨u, x, (shape _).trans hu, (value _).trans hx, wrong, shows⟩, ?_⟩
  intro front step' rest place
  cases front with
  | nil =>
    obtain ⟨rfl, -⟩ := List.cons.inj place
    exact ⟨t, d, (shape []).trans t.along_nil, rfl, earlier⟩
  | cons first front =>
    obtain ⟨rfl, inner⟩ := List.cons.inj place
    obtain ⟨u, x, hu, hx, taken⟩ := h.earlier front step' rest inner
    exact ⟨u, x, (shape _).trans hu, (value _).trans hx, taken⟩

/-- The same for a shape around it that rejects the value as it does. -/
theorem around (h : t.IsFirst d m) (wrong : s.read d = .error m)
    (shape : ∀ step path, s.along (step :: path) = t.along (step :: path)) : s.IsFirst d m := by
  obtain ⟨u, x, hu, hx, wrong', shows⟩ := h.rejected
  refine ⟨?_, fun front step rest place => ?_⟩
  · obtain ⟨expected, got, path⟩ := m
    cases path with
    | nil =>
      obtain rfl : d = x := Option.some.inj hx
      exact ⟨s, d, s.along_nil, rfl, wrong, shows⟩
    | cons step path => exact ⟨u, x, (shape step path).trans hu, hx, wrong', shows⟩
  · obtain ⟨u, x, hu, hx, taken⟩ := h.earlier front step rest place
    refine ⟨u, x, ?_, hx, taken⟩
    cases front with
    | nil => exact (shape _ _).trans hu
    | cons first front => exact (shape _ _).trans hu

end IsFirst

variable {α : Type} {read : Datum → Except Mismatch α} {m : Mismatch}

/-- Of items that cannot be read the first one decides. -/
theorem exists_of_readItems_eq_error {n : ℕ} {ds : List Datum}
    (h : readItems read n ds = .error m) : ∃ i d m', ds[i]? = some d ∧ read d = .error m' ∧
      m = m'.under (.index (n + i)) ∧ ∀ b ∈ ds.take i, ∃ c, read b = .ok c := by
  induction ds generalizing n with
  | nil => cases h
  | cons d ds ih =>
    rw [readItems] at h
    cases hd : read d with
    | error m' =>
      rw [hd] at h
      cases h
      exact ⟨0, d, m', rfl, hd, rfl, List.forall_mem_nil _⟩
    | ok c =>
      rw [hd] at h
      obtain ⟨i, d', m', place, wrong, rfl, taken⟩ := ih (map_eq_error_iff.1 h)
      refine ⟨i + 1, d', m', place, wrong, by rw [Nat.add_assoc, Nat.add_comm 1], ?_⟩
      exact List.forall_mem_cons.2 ⟨⟨c, hd⟩, taken⟩

/-- Of entries that cannot be read the first one decides. -/
theorem exists_of_readEntries_eq_error {es : Entries Datum} (h : readEntries read es = .error m) :
    ∃ before k d after m', es = before ++ (k, d) :: after ∧ read d = .error m' ∧
      m = m'.under (.name k) ∧ ∀ e ∈ before, ∃ c, read e.2 = .ok c := by
  induction es with
  | nil => cases h
  | cons e es ih =>
    obtain ⟨k, d⟩ := e
    rw [readEntries] at h
    cases hd : read d with
    | error m' =>
      rw [hd] at h
      cases h
      exact ⟨[], k, d, es, m', rfl, hd, rfl, List.forall_mem_nil _⟩
    | ok c =>
      rw [hd] at h
      obtain ⟨before, k', d', after, m', rfl, wrong, rfl, taken⟩ := ih (map_eq_error_iff.1 h)
      exact ⟨(k, d) :: before, k', d', after, m', rfl, wrong, rfl,
        List.forall_mem_cons.2 ⟨⟨c, hd⟩, taken⟩⟩

/-- A number that is missed is missed as the value itself. -/
theorem readNumber_eq_error {d : Datum} (h : readNumber d = .error m) :
    m.expected ≠ .unsignedNumber ∧ m.got = d ∧ m.path = [] := by
  have refused {x : Binary64} (h : truncated d x = .error m) :
      m.expected ≠ .unsignedNumber ∧ m.got = d ∧ m.path = [] := by
    rw [truncated] at h
    split at h <;> cases h
    exact ⟨nofun, rfl, rfl⟩
  unfold readNumber at h
  split at h
  · cases h
  · exact refused h
  · split at h
    · cases h
    · split at h
      · exact refused h
      · cases h
        exact ⟨nofun, rfl, rfl⟩
  · cases h
    exact ⟨nofun, rfl, rfl⟩

/-- A size that is missed is missed as a number, or is a negative one. -/
theorem readSize_eq_error {d : Datum} (h : readSize d = .error m) : m.Shows d ∧ m.path = [] := by
  unfold readSize at h
  split at h
  · next wrong =>
    obtain rfl := Except.error.inj h
    obtain ⟨other, got, path⟩ := readNumber_eq_error wrong
    exact ⟨(if_neg other).mpr got, path⟩
  · cases h
  · next n nonnegative reads =>
    obtain rfl := Except.error.inj h
    refine ⟨(if_pos rfl).mpr ⟨n, ?_, readNumber_eq_ok_iff.1 reads, rfl⟩, rfl⟩
    cases n with
    | ofNat n => exact (nonnegative n rfl).elim
    | negSucc n => exact Int.negSucc_lt_zero n

/-- What a shape rejects it rejects at the first value that is wrong. The induction is on the
shape; a list and a map lead one step further in. -/
theorem isFirst_of_read_eq_error {s : Shape} (sound : s.Sound) {d : Datum}
    (distinct : d.HasDistinctNames) {m : Mismatch} (h : s.read d = .error m) : s.IsFirst d m := by
  induction s generalizing d m with
  | any => cases h
  | text =>
    cases d with
    | text s => cases h
    | _ =>
      obtain rfl := Except.error.inj h
      exact .here h rfl rfl
  | flag =>
    cases d with
    | bool b => cases h
    | _ =>
      obtain rfl := Except.error.inj h
      exact .here h rfl rfl
  | number =>
    obtain ⟨other, got, path⟩ := readNumber_eq_error h
    exact .here h path ((if_neg other).mpr got)
  | size =>
    obtain ⟨shows, path⟩ := readSize_eq_error h
    exact .here h path shows
  | list item ih =>
    cases d with
    | list ds =>
      obtain ⟨i, e, m', place, wrong, rfl, taken⟩ := exists_of_readItems_eq_error h
      rw [Nat.zero_add]
      have inside : item.IsFirst e m' := ih sound (distinct.of_getElem? place) wrong
      exact inside.under (fun _ => rfl) (fun path => by rw [Datum.follow, place]; rfl) taken
    | _ =>
      obtain rfl := Except.error.inj h
      exact .here h rfl rfl
  | map value ih =>
    cases distinct with
    | map names values =>
      obtain ⟨before, k, e, after, m', rfl, wrong, rfl, taken⟩ := exists_of_readEntries_eq_error h
      have mem : (k, e) ∈ before ++ (k, e) :: after := by simp
      have inside : value.IsFirst e m' := ih sound (values _ mem) wrong
      have found : Entries.get? k (before ++ (k, e) :: after) = some e :=
        Entries.get?_of_mem names mem
      refine inside.under (fun _ => rfl) (fun path => by rw [Datum.follow, found]; rfl) ?_
      rw [Datum.before_name names]
      exact List.forall_mem_map.2 taken
    | _ =>
      obtain rfl := Except.error.inj h
      exact .here h rfl rfl
  | nullable s ih =>
    by_cases given : d = .null
    · subst given
      cases h
    · exact (ih sound distinct (map_eq_error_iff.1 (read_nullable given ▸ h))).around h
        fun _ _ => by rw [along]
  | prepared p s ih =>
    by_cases same : p.apply d = d
    · have inner : s.read d = .error m := same ▸ h
      exact (ih sound.1 distinct inner).around h fun _ _ => by rw [along]
    · obtain ⟨c, takes⟩ := sound.2 d same
      exact absurd (takes.symm.trans h) nofun

end Shape

/-- The value that a field is read from; null if the map lacks it. -/
def Field.source (f : Field) (es : Entries Datum) : Datum := (es.get? f.name).getD .null

/-- The mismatch of a field is that of its value, with the name of the field in front. -/
theorem Field.exists_of_read_eq_error {f : Field} {es : Entries Datum} {m : Mismatch}
    (h : f.read es = .error m) :
    ∃ m', f.shape.read (f.source es) = .error m' ∧ m = m'.under (.name f.name) := by
  rw [Field.read] at h
  rw [Field.source]
  split at h
  · next found =>
    obtain ⟨m', wrong, rfl⟩ := mapError_eq_error_iff.1 h
    exact ⟨m', found ▸ wrong, rfl⟩
  · cases h
  · next absent _ =>
    obtain ⟨m', wrong, rfl⟩ := mapError_eq_error_iff.1 h
    exact ⟨m', absent ▸ wrong, rfl⟩

namespace Schema

/-- The mismatch points at the first value that is wrong in a map that a schema reads, or at a
value that is no map. The fields declared before the one at its path are read, and in the value of
that field it points at the first value that is wrong. -/
inductive IsFirst (s : Schema) : Datum → Mismatch → Prop
  | noMap {d : Datum} (other : ∀ es, d ≠ .map es) : IsFirst s d { expected := .map, got := d }
  | field {es : Entries Datum} {before after : Schema} {f : Field} {path : List Step}
      {m : Mismatch} (declared : s = before ++ f :: after) (place : m.path = .name f.name :: path)
      (earlier : ∀ g ∈ before, ∃ c, g.read es = .ok c)
      (first : f.shape.IsFirst (f.source es) { m with path }) : IsFirst s (.map es) m

variable {s : Schema}

/-- The mismatch of a schema points at the first of its fields that is wrong; the induction
is on the fields. -/
theorem isFirst_of_readEntries_eq_error (sound : ∀ f ∈ s, f.shape.Sound) {es : Entries Datum}
    (distinct : (Datum.map es).HasDistinctNames) {m : Mismatch}
    (h : s.readEntries es = .error m) : s.IsFirst (.map es) m := by
  induction s with
  | nil => cases h
  | cons f s ih =>
    rw [List.forall_mem_cons] at sound
    rw [readEntries] at h
    cases hf : f.read es with
    | error m' =>
      rw [hf] at h
      obtain rfl := Except.error.inj h
      obtain ⟨m', wrong, rfl⟩ := Field.exists_of_read_eq_error hf
      have given : (f.source es).HasDistinctNames := by
        rw [Field.source]
        cases hd : es.get? f.name with
        | none => exact .null
        | some d => exact distinct.of_get? hd
      have alone : f :: s = [] ++ f :: s := rfl
      exact .field alone rfl (List.forall_mem_nil _)
        (Shape.isFirst_of_read_eq_error sound.1 given wrong)
    | ok c =>
      rw [hf] at h
      cases ih sound.2 (map_eq_error_iff.1 h) with
      | noMap other => exact absurd rfl (other es)
      | field declared place earlier first =>
        exact .field (congrArg (List.cons f) declared) place
          (List.forall_mem_cons.2 ⟨⟨c, hf⟩, earlier⟩) first

/-- What a schema rejects it rejects at the first value that is wrong. -/
theorem isFirst_of_read_eq_error (sound : ∀ f ∈ s, f.shape.Sound) {d : Datum}
    (distinct : d.HasDistinctNames) {m : Mismatch} (h : s.read d = .error m) : s.IsFirst d m := by
  cases d with
  | map es => exact isFirst_of_readEntries_eq_error sound distinct h
  | _ =>
    obtain rfl := Except.error.inj h
    exact .noMap nofun

end Schema
end BareMetal
