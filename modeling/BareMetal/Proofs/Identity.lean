/-
# A list of entities as a store

Looking an entity up by its identifier and writing a newer state of it back follow the
laws of a store, although the identifiers need not be all different.

| after a write | is |
| --- | --- |
| the entity found by the identifier written | the one written, if there was one before |
| the entity found by another identifier | the one found before |
| the sequence of identifiers | the same |
| a write to another identifier, before or after | the same in either order |
| the list after a second write to the same identifier | what the second write alone makes of it |
| the list after writing back what was found, if no identifier is repeated | the same |
-/

import BareMetal.Identity
import Mathlib.Data.List.Forall2
import Mathlib.Data.List.Nodup

namespace BareMetal

variable {α : Type} {idOf : α → Int} {new other : α} {id : Int} {xs : List α}

/-- Place by place, the entities with the identifier of `new` have become `new`, and the
others have stayed. -/
def Rewritten (idOf : α → Int) (new : α) (xs ys : List α) : Prop :=
  List.Forall₂ (fun x y => (idOf x = idOf new → y = new) ∧ (idOf x ≠ idOf new → y = x)) xs ys

/-- Replacing by identity rewrites the list: the new one stands where its identity stood,
and nothing else has changed. -/
theorem rewritten_replaceById : Rewritten idOf new xs (replaceById idOf new xs) := by
  unfold Rewritten replaceById
  rw [List.forall₂_map_right_iff, List.forall₂_same]
  intro x _
  refine ⟨fun h => ?_, fun h => ?_⟩
  · rw [if_pos h]
  · rw [if_neg h]

/-- Nothing is found exactly if no member has the identity. -/
theorem findById_eq_none_iff : findById idOf id xs = none ↔ ∀ x ∈ xs, idOf x ≠ id := by
  simp [findById]

/-- What is found is a member with the identity. -/
theorem mem_of_findById {x : α} (h : findById idOf id xs = some x) : x ∈ xs ∧ idOf x = id := by
  refine ⟨List.mem_of_find?_eq_some h, ?_⟩
  simpa using List.find?_some h

/-- In two lists, one after the other, the first one counts before the second. -/
theorem findById_append (ys : List α) :
    findById idOf id (xs ++ ys) = (findById idOf id xs).or (findById idOf id ys) :=
  List.find?_append

/-- A write decides what is found by its identifier, and nothing else. -/
theorem findById_replaceById :
    findById idOf id (replaceById idOf new xs) =
      (findById idOf id xs).map fun x => if idOf new = id then new else x := by
  induction xs with
  | nil => rfl
  | cons x xs ih =>
    have hhead : idOf (if idOf x = idOf new then new else x) = idOf x := by
      split
      · next h => exact h.symm
      · rfl
    unfold findById replaceById at ih ⊢
    rw [List.map_cons, List.find?_cons, List.find?_cons, hhead]
    by_cases hx : idOf x = id
    · simp only [hx, BEq.rfl, Option.map_some, eq_comm (a := id)]
    · have hne : (idOf x == id) = false := by simpa using hx
      rw [hne]
      exact ih

/-- Without an entity to replace nothing changes. -/
theorem replaceById_eq_self (h : ∀ x ∈ xs, idOf x ≠ idOf new) : replaceById idOf new xs = xs := by
  unfold replaceById
  conv_rhs => rw [← List.map_id xs]
  refine List.map_congr_left fun x hx => ?_
  rw [if_neg (h x hx)]
  rfl

/-- Writes to different identifiers do not interfere. -/
theorem replaceById_comm (h : idOf new ≠ idOf other) :
    replaceById idOf new (replaceById idOf other xs) =
      replaceById idOf other (replaceById idOf new xs) := by
  unfold replaceById
  rw [List.map_map, List.map_map]
  refine List.map_congr_left fun x _ => ?_
  simp only [Function.comp]
  by_cases hnew : idOf x = idOf new
  · simp [hnew, h]
  · by_cases hother : idOf x = idOf other
    · simp [hother, Ne.symm h]
    · simp [hnew, hother]

/-- Of two writes to the same identifier the last one counts. -/
theorem replaceById_replaceById (h : idOf new = idOf other) :
    replaceById idOf other (replaceById idOf new xs) = replaceById idOf other xs := by
  unfold replaceById
  rw [List.map_map]
  refine List.map_congr_left fun x _ => ?_
  simp only [Function.comp]
  by_cases hnew : idOf x = idOf new
  · simp [hnew, h]
  · simp [hnew]

/-- Where no identifier is repeated, what was found can be written back. -/
theorem replaceById_of_findById (distinct : (xs.map idOf).Nodup) {x : α}
    (h : findById idOf id xs = some x) : replaceById idOf x xs = xs := by
  have mem := (mem_of_findById h).1
  unfold replaceById
  conv_rhs => rw [← List.map_id xs]
  refine List.map_congr_left fun y hy => ?_
  split
  · next same => exact (List.inj_on_of_nodup_map distinct hy mem same).symm
  · rfl

/-- What is in the list after a write was there before, or is what was written. -/
theorem mem_replaceById {x : α} (h : x ∈ replaceById idOf new xs) :
    x = new ∨ x ∈ xs ∧ idOf x ≠ idOf new := by
  obtain ⟨y, hy, rfl⟩ := List.mem_map.1 h
  split
  · exact .inl rfl
  · next hne => exact .inr ⟨hy, hne⟩

end BareMetal
