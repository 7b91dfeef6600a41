/-
# Entities by identifier

An entity is found in a list by its identifier, the first one of several with the
same. Writing a newer state back replaces every entity with its identifier and
changes neither the order nor the number of the others.
-/

namespace BareMetal

/-- The first entity with an identifier. -/
def findById {α : Type} (idOf : α → Int) (id : Int) (xs : List α) : Option α :=
  xs.find? (idOf · == id)

/-- Every entity with the identifier of `new` replaced by it. -/
def replaceById {α : Type} (idOf : α → Int) (new : α) (xs : List α) : List α :=
  xs.map fun x => if idOf x = idOf new then new else x

/-- Replacing an entity leaves the list of the identities as it was, since the new one has
the identity of the one that it replaces. -/
theorem map_replaceById {α : Type} (idOf : α → Int) (new : α) (xs : List α) :
    (replaceById idOf new xs).map idOf = xs.map idOf := by
  simp only [replaceById, List.map_map]
  apply List.map_congr_left
  intro x _
  simp only [Function.comp]
  split <;> simp [*]

end BareMetal
