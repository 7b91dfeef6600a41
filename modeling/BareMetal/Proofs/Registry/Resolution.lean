/-
# What a registry resolves to after any declarations

A registry is filled by declarations, each with the text of a version and a
decoder. A text that is no version fails, and the registry stays as it was. After
any declarations at all the decoder at a version is that of the last declaration
of it, under whatever spelling (`get?_ofDeclarations`), and the versions of the
registry are those that were declared (`mem_versions_ofDeclarations`). So a version
resolves to the last decoder of the greatest declared version that is not newer
(`resolve_ofDeclarations_eq_ok_iff`), and the order of declarations of different
versions does not count (`resolve_eq_of_perm`).
-/

import BareMetal.Proofs.Registry.Invariant
import Mathlib

namespace BareMetal

variable {δ : Type}

/-- A declaration: the text of a version, and a decoder. -/
structure Declaration (δ : Type) where
  text : String
  decoder : δ

/-- The text of a declaration is a spelling of `v`. -/
def Declaration.Declares (x : Declaration δ) (v : Version) : Prop :=
  ∃ u, Version.ofText x.text = .ok u ∧ u.Same v

namespace Registry

/-- The registry after a declaration; one that fails changes nothing. -/
def declare (r : Registry δ) (x : Declaration δ) : Registry δ :=
  match r.register x.text x.decoder with
  | .ok r' => r'
  | .error _ => r

/-- A new registry after declarations, the first one first. -/
def ofDeclarations (kind : String) (xs : List (Declaration δ)) : Registry δ :=
  xs.foldl declare { kind := kind }

/-- A declaration whose text is a version inserts its decoder there. -/
theorem declare_of_ok (r : Registry δ) {x : Declaration δ} {v : Version}
    (h : Version.ofText x.text = .ok v) : r.declare x = r.insert v x.decoder := by
  simp [declare, register, h, Except.map]

/-- A declaration whose text is no version changes nothing. -/
theorem declare_of_error (r : Registry δ) {x : Declaration δ} {e : Failure}
    (h : Version.ofText x.text = .error e) : r.declare x = r := by
  simp [declare, register, h, Except.map]

/-- A registry stays well formed under a declaration, whether its text is a version or not. -/
theorem WellFormed.declare {r : Registry δ} (h : r.WellFormed) (x : Declaration δ) :
    (r.declare x).WellFormed := by
  cases hv : Version.ofText x.text with
  | ok v => rw [declare_of_ok r hv]; exact h.insert v x.decoder
  | error e => rw [declare_of_error r hv]; exact h

/-- A declaration leaves the kind of the registry as it was. -/
theorem kind_declare (r : Registry δ) (x : Declaration δ) : (r.declare x).kind = r.kind := by
  cases hv : Version.ofText x.text with
  | ok v => rw [declare_of_ok r hv]; rfl
  | error e => rw [declare_of_error r hv]

/-- After a declaration a version has the new decoder if it was the one declared, and
else the decoder that it had. -/
theorem get?_declare (r : Registry δ) (x : Declaration δ) (v : Version) (d : δ) :
    (r.declare x).decoders.get? v = some d ↔
      (x.Declares v ∧ x.decoder = d) ∨ (¬ x.Declares v ∧ r.decoders.get? v = some d) := by
  cases hw : Version.ofText x.text with
  | ok w =>
    have hd : x.Declares v ↔ w.Same v := by simp [Declaration.Declares, hw]
    rw [declare_of_ok r hw, insert, DecoderTable.get?_put, hd]
    by_cases hs : w.Same v <;> simp [hs]
  | error e =>
    have hd : ¬ x.Declares v := by simp [Declaration.Declares, hw]
    simp [declare_of_error r hw, hd]

/-- Every registry that declarations lead to is well formed. -/
theorem wellFormed_ofDeclarations (kind : String) (xs : List (Declaration δ)) :
    (ofDeclarations kind xs).WellFormed := by
  have run : ∀ r : Registry δ, r.WellFormed → (xs.foldl declare r).WellFormed := by
    induction xs with
    | nil => exact fun r h => h
    | cons x xs ih => exact fun r h => ih _ (h.declare x)
  exact run _ (wellFormed_new kind)

/-- After any declarations the registry is of the kind that it was made for. -/
theorem kind_ofDeclarations (kind : String) (xs : List (Declaration δ)) :
    (ofDeclarations kind xs).kind = kind := by
  have run : ∀ r : Registry δ, (xs.foldl declare r).kind = r.kind := by
    induction xs with
    | nil => exact fun r => rfl
    | cons x xs ih => exact fun r => (ih _).trans (kind_declare r x)
  exact run _

/-- The last declaration of `v` has the decoder `d`. -/
def IsLast (xs : List (Declaration δ)) (v : Version) (d : δ) : Prop :=
  ∃ before x after, xs = before ++ x :: after ∧ x.Declares v ∧ x.decoder = d ∧
    ∀ y ∈ after, ¬ y.Declares v

/-- In a longer list the first declaration is the last of its version only if no later one
declares it. -/
theorem isLast_cons {x : Declaration δ} {xs : List (Declaration δ)} {v : Version} {d : δ} :
    IsLast (x :: xs) v d ↔
      IsLast xs v d ∨ (∀ y ∈ xs, ¬ y.Declares v) ∧ x.Declares v ∧ x.decoder = d := by
  constructor
  · rintro ⟨before, y, after, heq, hv, hd, hafter⟩
    cases before with
    | nil =>
      obtain ⟨rfl, rfl⟩ := List.cons.inj heq
      exact Or.inr ⟨hafter, hv, hd⟩
    | cons first before =>
      obtain ⟨rfl, rfl⟩ := List.cons.inj heq
      exact Or.inl ⟨before, y, after, rfl, hv, hd, hafter⟩
  · rintro (⟨before, y, after, rfl, hv, hd, hafter⟩ | ⟨hafter, hv, hd⟩)
    · exact ⟨x :: before, y, after, rfl, hv, hd, hafter⟩
    · exact ⟨[], x, xs, rfl, hv, hd, hafter⟩

/-- The decoder at a version is that of its last declaration. -/
theorem get?_ofDeclarations (kind : String) (xs : List (Declaration δ)) (v : Version) (d : δ) :
    (ofDeclarations kind xs).decoders.get? v = some d ↔ IsLast xs v d := by
  -- from any registry on, what it had counts only if nothing is declared at `v`
  have run : ∀ r : Registry δ, (xs.foldl declare r).decoders.get? v = some d ↔
      IsLast xs v d ∨ (∀ y ∈ xs, ¬ y.Declares v) ∧ r.decoders.get? v = some d := by
    induction xs with
    | nil => simp [IsLast]
    | cons x xs ih =>
      intro r
      rw [List.foldl_cons, ih, get?_declare, isLast_cons]
      by_cases hx : x.Declares v <;> simp [hx]
  rw [ofDeclarations, run]
  simp [DecoderTable.get?]

/-- A version has a last declaration exactly if it is declared. -/
theorem exists_isLast_iff {xs : List (Declaration δ)} {v : Version} :
    (∃ d, IsLast xs v d) ↔ ∃ x ∈ xs, x.Declares v := by
  induction xs with
  | nil => simp [IsLast]
  | cons x xs ih =>
    simp only [isLast_cons, exists_or, ih, List.mem_cons, exists_eq_or_imp]
    by_cases h : ∃ y ∈ xs, y.Declares v
    · simp [h]
    · have none_declares : ∀ y ∈ xs, ¬ y.Declares v := fun y hy hv => h ⟨y, hy, hv⟩
      simpa [h] using fun _ => none_declares

/-- A registry has the versions that were declared, each in one spelling. -/
theorem mem_versions_ofDeclarations (kind : String) {xs : List (Declaration δ)} {v : Version} :
    (∃ u ∈ (ofDeclarations kind xs).versions, u.Same v) ↔ ∃ x ∈ xs, x.Declares v := by
  rw [← (wellFormed_ofDeclarations kind xs).contains_iff, contains, Option.isSome_iff_exists,
    ← exists_isLast_iff]
  simp only [get?_ofDeclarations]

/-- `v` is the greatest declared version that is not newer than the target. -/
def IsSelected (xs : List (Declaration δ)) (target v : Version) : Prop :=
  IsGreatest {u | (∃ x ∈ xs, x.Declares u) ∧ u ≤ target} v

/-- The version that is selected among those of a registry is the one that is
selected among the declared ones, up to its spelling. -/
theorem isSelected_iff (kind : String) {xs : List (Declaration δ)} {target v : Version} :
    IsSelected xs target v ↔
      ∃ w, IsGreatest {u | u ∈ (ofDeclarations kind xs).versions ∧ u ≤ target} w ∧ w.Same v := by
  simp only [IsSelected, ← mem_versions_ofDeclarations kind]
  constructor
  · rintro ⟨⟨⟨w, hw, hs⟩, hle⟩, hmax⟩
    refine ⟨w, ⟨⟨hw, le_trans hs.le hle⟩, ?_⟩, hs⟩
    rintro u ⟨hu, hut⟩
    exact le_trans (hmax ⟨⟨u, hu, .refl u⟩, hut⟩) hs.symm.le
  · rintro ⟨w, ⟨⟨hw, hle⟩, hmax⟩, hs⟩
    refine ⟨⟨⟨w, hw, hs⟩, le_trans hs.symm.le hle⟩, ?_⟩
    rintro u ⟨⟨x, hx, hxu⟩, hut⟩
    have hxw : x ≤ w := hmax ⟨hx, le_trans hxu.le hut⟩
    exact le_trans hxu.symm.le (le_trans hxw hs.le)

/-- After any declarations a version resolves to the last decoder of the greatest declared
version that is not newer. -/
theorem resolve_ofDeclarations_eq_ok_iff {kind : String} {xs : List (Declaration δ)}
    {target : Version} {d : δ} :
    (ofDeclarations kind xs).resolve target = .ok d ↔
      ∃ v, IsSelected xs target v ∧ IsLast xs v d := by
  rw [(wellFormed_ofDeclarations kind xs).resolve_eq_ok_iff]
  simp only [isSelected_iff kind, ← get?_ofDeclarations kind xs]
  constructor
  · rintro ⟨v, hv, hd⟩
    exact ⟨v, ⟨v, hv, .refl v⟩, hd⟩
  · rintro ⟨v, ⟨w, hw, hs⟩, hd⟩
    exact ⟨w, hw, DecoderTable.get?_congr hs _ ▸ hd⟩

/-- After any declarations a version does not resolve exactly if every declared version is
newer, and the failure names the kind and the release. -/
theorem resolve_ofDeclarations_eq_error_iff {kind : String} {xs : List (Declaration δ)}
    {target : Version} {e : Failure} :
    (ofDeclarations kind xs).resolve target = .error e ↔
      (∀ x ∈ xs, ∀ v, x.Declares v → ¬ v ≤ target) ∧
        e = .plain .unsupportedVersion
          s!"no {kind} read func for version {target.releaseText}" := by
  rw [(wellFormed_ofDeclarations kind xs).resolve_eq_error_iff, kind_ofDeclarations]
  refine and_congr_left fun _ => ⟨fun h x hx v hv hle => ?_, fun h u hu hle => ?_⟩
  · obtain ⟨u, hu, hs⟩ := (mem_versions_ofDeclarations kind).2 ⟨x, hx, hv⟩
    exact h u hu (le_trans hs.le hle)
  · obtain ⟨x, hx, hv⟩ := (mem_versions_ofDeclarations kind).1 ⟨u, hu, .refl u⟩
    exact h x hx u hv hle

/-- Two declarations are not of the same version. -/
def Distinct (x y : Declaration δ) : Prop := ∀ v, x.Declares v → ¬ y.Declares v

/-- Where every version is declared once, each declaration is the last one. -/
theorem isLast_iff_of_distinct {xs : List (Declaration δ)} (h : xs.Pairwise Distinct)
    {v : Version} {d : δ} : IsLast xs v d ↔ ∃ x ∈ xs, x.Declares v ∧ x.decoder = d := by
  constructor
  · rintro ⟨before, x, after, rfl, hv, hd, -⟩
    exact ⟨x, by simp, hv, hd⟩
  · rintro ⟨x, hx, hv, hd⟩
    obtain ⟨before, after, rfl⟩ := List.append_of_mem hx
    have hafter := (List.pairwise_cons.1 (List.pairwise_append.1 h).2.1).1
    exact ⟨before, x, after, rfl, hv, hd, fun y hy => hafter y hy v hv⟩

/-- The order of declarations of different versions does not count. -/
theorem resolve_eq_of_perm {kind : String} {xs ys : List (Declaration δ)} (hp : xs.Perm ys)
    (h : xs.Pairwise Distinct) (target : Version) :
    (ofDeclarations kind xs).resolve target = (ofDeclarations kind ys).resolve target := by
  have symm : ∀ {x y : Declaration δ}, Distinct x y → Distinct y x :=
    fun hxy v hy hx => hxy v hx hy
  have h' : ys.Pairwise Distinct := hp.pairwise h symm
  cases hr : (ofDeclarations kind xs).resolve target with
  | ok d =>
    rw [resolve_ofDeclarations_eq_ok_iff] at hr
    refine (resolve_ofDeclarations_eq_ok_iff.2 ?_).symm
    simpa [IsSelected, isLast_iff_of_distinct h, isLast_iff_of_distinct h', hp.mem_iff] using hr
  | error e =>
    rw [resolve_ofDeclarations_eq_error_iff] at hr
    refine (resolve_ofDeclarations_eq_error_iff.2 ?_).symm
    simpa [hp.mem_iff] using hr

/-- **What a text of a version resolves to after any declarations.** A declaration whose
text is no version fails and changes nothing. The result is the decoder of the last
declaration of the greatest declared version that is not newer; resolving fails exactly
if every declared version is newer; and declarations of different versions may come in
any order. -/
theorem resolve_after_declarations (kind : String) (xs : List (Declaration δ)) {text : String}
    {target : Version} (parses : Version.ofText text = .ok target) :
    (∀ x ∈ xs, ∀ e, Version.ofText x.text = .error e → ∀ r : Registry δ,
      r.register x.text x.decoder = .error e ∧ r.declare x = r) ∧
    (∀ d, (Version.ofText text >>= (ofDeclarations kind xs).resolve) = .ok d ↔
      ∃ v, IsSelected xs target v ∧ IsLast xs v d) ∧
    (∀ e, (Version.ofText text >>= (ofDeclarations kind xs).resolve) = .error e ↔
      (∀ x ∈ xs, ∀ v, x.Declares v → ¬ v ≤ target) ∧
        e = .plain .unsupportedVersion
          s!"no {kind} read func for version {target.releaseText}") ∧
    ∀ ys, xs.Perm ys → xs.Pairwise Distinct →
      (Version.ofText text >>= (ofDeclarations kind xs).resolve) =
        Version.ofText text >>= (ofDeclarations kind ys).resolve := by
  have hbind : ∀ r : Registry δ, (Version.ofText text >>= r.resolve) = r.resolve target :=
    fun r => by rw [parses]; rfl
  simp only [hbind]
  refine ⟨fun x _ e he r => ⟨?_, declare_of_error r he⟩,
    fun d => resolve_ofDeclarations_eq_ok_iff, fun e => resolve_ofDeclarations_eq_error_iff,
    fun ys hp h => resolve_eq_of_perm hp h target⟩
  rw [register, he]
  rfl

/-- Two spellings of one version, an older version and a text that is none: the last
decoder at `2.0` is found for a candidate of `2.1`. -/
theorem resolve_after_respelling :
    Version.ofText "2.1rc1" = .ok { release := [2, 1], pre := some (.candidate, 1) } ∧
      ∃ v, IsSelected [⟨"2.0", 1⟩, ⟨"nonsense", 2⟩, ⟨"v1.0", 3⟩, ⟨"2.0.0", 4⟩, ⟨"2.1", 5⟩]
          { release := [2, 1], pre := some (.candidate, 1) } v ∧
        IsLast [⟨"2.0", 1⟩, ⟨"nonsense", 2⟩, ⟨"v1.0", 3⟩, ⟨"2.0.0", 4⟩, ⟨"2.1", 5⟩] v 4 := by
  have parses : Version.ofText "2.1rc1" =
      .ok { release := [2, 1], pre := some (.candidate, 1) } := rfl
  exact ⟨parses, ((resolve_after_declarations "machine" _ parses).2.1 4).1 (by cbv)⟩

end Registry
end BareMetal
