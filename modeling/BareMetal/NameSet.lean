/-
# Sets of names

A set of names is kept as a list in ascending order of code points, so two sets
with the same members are equal.
-/

namespace BareMetal

/-- A set of names. -/
structure NameSet where
  names : List String
  ascending : names.Pairwise (· < ·)
deriving DecidableEq, Repr

namespace NameSet

/-- Puts a name at its place in an ascending list, unless it is there. -/
def insertName (name : String) : List String → List String
  | [] => [name]
  | n :: ns =>
    if name < n then name :: n :: ns
    else if n < name then n :: insertName name ns
    else n :: ns

/-- Putting a name into a list adds this name and loses none. -/
theorem mem_insertName {name x : String} {ns : List String} :
    x ∈ insertName name ns ↔ x = name ∨ x ∈ ns := by
  induction ns with
  | nil => simp [insertName]
  | cons n ns ih =>
    simp only [insertName]
    split
    · simp
    · next h =>
      split
      · simp only [List.mem_cons, ih]
        constructor
        · rintro (h | h | h) <;> simp [h]
        · rintro (h | h | h) <;> simp [h]
      · next h' =>
        have : n = name := String.le_antisymm (String.not_lt.1 h) (String.not_lt.1 h')
        subst this
        simp

/-- A name is put at its place, so the list stays ascending; this is what makes the result a
set again. -/
theorem ascending_insertName {name : String} {ns : List String}
    (h : ns.Pairwise (· < ·)) : (insertName name ns).Pairwise (· < ·) := by
  induction ns with
  | nil => simp [insertName]
  | cons n ns ih =>
    rw [List.pairwise_cons] at h
    simp only [insertName]
    split
    · next hlt =>
      refine List.pairwise_cons.2 ⟨?_, List.pairwise_cons.2 h⟩
      intro x hx
      rcases List.mem_cons.1 hx with rfl | hx
      · exact hlt
      · exact String.lt_trans hlt (h.1 x hx)
    · split
      · next hlt =>
        refine List.pairwise_cons.2 ⟨?_, ih h.2⟩
        intro x hx
        rcases mem_insertName.1 hx with rfl | hx
        · exact hlt
        · exact h.1 x hx
      · exact List.pairwise_cons.2 h

/-- The empty list is ascending, so it makes up the empty set. -/
theorem ascending_nil : ([] : List String).Pairwise (· < ·) := List.Pairwise.nil

/-- The set without members. -/
def empty : NameSet := ⟨[], ascending_nil⟩

/-- Adds a name to a set. -/
def insert (name : String) (s : NameSet) : NameSet :=
  ⟨insertName name s.names, ascending_insertName s.ascending⟩

/-- The set of the names in a list. -/
def ofList (ns : List String) : NameSet := ns.foldr insert empty

instance : Membership String NameSet := ⟨fun s x => x ∈ s.names⟩

/-- The members of a set with one more name. -/
@[simp] theorem mem_insert {name x : String} {s : NameSet} :
    x ∈ s.insert name ↔ x = name ∨ x ∈ s := mem_insertName

/-- The members of the set of a list are those of the list. -/
@[simp] theorem mem_ofList {x : String} {ns : List String} : x ∈ ofList ns ↔ x ∈ ns := by
  induction ns with
  | nil => exact Iff.rfl
  | cons n ns ih => rw [List.mem_cons, ← ih]; exact mem_insert

end NameSet
end BareMetal
