/-
# Entries, maps and sets in any order

Entries whose names are all different are looked up alike in any order
(`Entries.get?_of_perm`, `Entries.get?_eq_of_perm`). A map from names is what entries with its
names make in any order, and a set of names is what any list with its members makes.
-/

import BareMetal.NameMap
import BareMetal.NameSet
import Mathlib.Data.List.Nodup

namespace BareMetal

/-- Ascending names are all different. -/
theorem nodup_of_ascending {ns : List String} (h : ns.Pairwise (· < ·)) : ns.Nodup :=
  h.imp fun lt => String.ne_of_lt lt

namespace Entries

variable {α : Type}

/-- An entry is found under its name if no name stands twice. -/
theorem get?_of_mem {es : Entries α} (distinct : es.names.Nodup) {e : String × α}
    (mem : e ∈ es) : es.get? e.1 = some e.2 := by
  induction es with
  | nil => cases mem
  | cons f es ih =>
    obtain ⟨hf, hes⟩ := List.nodup_cons.1 distinct
    rcases List.mem_cons.1 mem with rfl | mem
    · simp [get?]
    · have ne : f.1 ≠ e.1 := fun h => hf (h ▸ List.mem_map_of_mem mem)
      rw [get?, if_neg ne, ih hes mem]

/-- The order of entries with different names does not count. -/
theorem get?_of_perm {es fs : Entries α} (perm : fs.Perm es) (distinct : es.names.Nodup)
    {e : String × α} (mem : e ∈ es) : fs.get? e.1 = some e.2 :=
  get?_of_mem ((perm.map Prod.fst).nodup_iff.2 distinct) (perm.mem_iff.2 mem)

/-- What is found under a name stands among the entries. -/
theorem mem_of_get? {es : Entries α} {name : String} {value : α}
    (h : es.get? name = some value) : (name, value) ∈ es := by
  induction es with
  | nil => cases h
  | cons e es ih =>
    rw [get?] at h
    split at h
    · next hk =>
      rw [← hk, ← Option.some.inj h]
      exact List.mem_cons_self ..
    · exact List.mem_cons_of_mem _ (ih h)

/-- The order of the entries does not count if no name stands twice. -/
theorem get?_eq_of_perm {es fs : Entries α} (perm : fs.Perm es) (distinct : es.names.Nodup)
    (name : String) : fs.get? name = es.get? name := by
  have distinct' : fs.names.Nodup := (perm.map Prod.fst).nodup_iff.2 distinct
  cases hes : es.get? name with
  | some value => exact get?_of_perm perm distinct (mem_of_get? hes)
  | none =>
    cases hfs : fs.get? name with
    | none => rfl
    | some value =>
      have found := get?_of_perm perm.symm distinct' (mem_of_get? hfs)
      rw [hes] at found
      cases found

/-- A name that is not there is written at the end. -/
theorem put_of_not_mem {es : Entries α} {name : String}
    (h : name ∉ es.names) (value : α) : es.put name value = es ++ [(name, value)] := by
  induction es with
  | nil => rfl
  | cons e es ih =>
    obtain ⟨other, rest⟩ := not_or.1 (mt List.mem_cons.2 h)
    rw [put, if_neg (Ne.symm other), ih rest]
    rfl

/-- The entries without those of a name. -/
def erase (name : String) (es : Entries α) : Entries α := es.filter (·.1 ≠ name)

/-- A name that was erased has no value. -/
@[simp] theorem get?_erase_self (es : Entries α) (name : String) :
    (es.erase name).get? name = none := by
  cases h : (es.erase name).get? name with
  | none => rfl
  | some value =>
    have kept := List.of_mem_filter (mem_of_get? h)
    simp at kept

/-- Erasing a name leaves the values of the other names as they were. -/
theorem get?_erase_of_ne (es : Entries α) {name other : String} (h : name ≠ other) :
    (es.erase name).get? other = es.get? other := by
  unfold erase
  induction es with
  | nil => rfl
  | cons e es ih =>
    obtain ⟨k, v⟩ := e
    rw [List.filter_cons]
    by_cases hk : k = name
    · have hother : k ≠ other := fun hko => h (hk.symm.trans hko)
      simp only [hk, ne_eq, not_true_eq_false, decide_false, Bool.false_eq_true, if_false]
      rw [ih, get?, if_neg (hk ▸ hother)]
    · simp only [hk, ne_eq, not_false_eq_true, decide_true, if_true]
      rw [get?, get?, ih]

end Entries

namespace NameMap

variable {α : Type}

/-- The entries of a map stand in the strict order of their names. -/
theorem ascending_entries (m : NameMap α) : m.entries.Pairwise fun e f => e.1 < f.1 :=
  List.pairwise_map.1 m.ascending

/-- Maps with the same entries are equal, since there is one order for them. -/
theorem ext {m n : NameMap α} (perm : m.entries.Perm n.entries) : m = n := by
  have entries : m.entries = n.entries :=
    perm.eq_of_pairwise (fun _ _ _ _ h h' => absurd (String.lt_trans h h') (String.lt_irrefl _))
      m.ascending_entries n.ascending_entries
  cases m
  cases n
  cases entries
  rfl

/-- Up to their order, writing a value under a new name adds this entry to the others. -/
theorem insertEntry_perm {name : String} (value : α) {es : Entries α}
    (new : name ∉ es.map Prod.fst) : (insertEntry name value es).Perm ((name, value) :: es) := by
  induction es with
  | nil => exact List.Perm.refl _
  | cons e es ih =>
    obtain ⟨k, v⟩ := e
    rw [List.map_cons, List.mem_cons, not_or] at new
    simp only [insertEntry]
    split
    · exact List.Perm.refl _
    · split
      · exact ((ih new.2).cons _).trans (List.Perm.swap ..)
      · next h h' =>
        exact absurd (String.le_antisymm (String.not_lt.1 h') (String.not_lt.1 h)) new.1

/-- Entries with new names are added to those of a map. -/
theorem foldl_insert_perm (m : NameMap α) {es : Entries α}
    (distinct : ((m.entries ++ es).map Prod.fst).Nodup) :
    (es.foldl (fun m e => m.insert e.1 e.2) m).entries.Perm (m.entries ++ es) := by
  induction es generalizing m with
  | nil => simp
  | cons e es ih =>
    have toFront : (m.entries ++ e :: es).Perm (e :: m.entries ++ es) := List.perm_middle
    have distinct' := ((toFront.map Prod.fst).nodup_iff.1 distinct)
    have new : e.1 ∉ m.entries.map Prod.fst := fun h =>
      (List.nodup_cons.1 distinct').1 (List.map_append ▸ List.mem_append_left _ h)
    have step : ((m.insert e.1 e.2).entries ++ es).Perm (e :: m.entries ++ es) :=
      (insertEntry_perm e.2 new).append_right es
    have next := ih (m.insert e.1 e.2) ((step.map Prod.fst).nodup_iff.2 distinct')
    exact next.trans (step.trans toFront.symm)

/-- The entries of a map make the map again, in any order. -/
theorem ofEntries_of_perm (m : NameMap α) {es : Entries α} (perm : es.Perm m.entries) :
    ofEntries es = m := by
  have distinct : (es.map Prod.fst).Nodup :=
    (perm.map Prod.fst).nodup_iff.2 (nodup_of_ascending m.ascending)
  exact ext ((foldl_insert_perm empty distinct).trans perm)

end NameMap

namespace NameSet

/-- Sets with the same members are equal, since there is one order for them. -/
theorem ext {s t : NameSet} (h : ∀ x, x ∈ s ↔ x ∈ t) : s = t := by
  have perm : s.names.Perm t.names :=
    (List.perm_ext_iff_of_nodup (nodup_of_ascending s.ascending)
      (nodup_of_ascending t.ascending)).2 h
  have names : s.names = t.names :=
    perm.eq_of_pairwise (fun _ _ _ _ h h' => absurd (String.lt_trans h h') (String.lt_irrefl _))
      s.ascending t.ascending
  cases s
  cases t
  cases names
  rfl

/-- The members of a set make the set again, in any order. -/
theorem ofList_of_perm (s : NameSet) {ns : List String} (perm : ns.Perm s.names) :
    ofList ns = s :=
  ext fun _ => mem_ofList.trans perm.mem_iff

end NameSet
end BareMetal
