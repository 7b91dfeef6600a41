/-
# Maps from names

A map from names is kept as a list of entries in ascending order of their names
by code point, each name once, so two maps with the same entries are equal.
-/

import BareMetal.Entries

namespace BareMetal

/-- A map from names to values. -/
structure NameMap (α : Type) where
  entries : Entries α
  ascending : (entries.map Prod.fst).Pairwise (· < ·)
deriving DecidableEq, Repr

namespace NameMap

variable {α : Type}

/-- Writes a value at its place among ascending entries. -/
def insertEntry (name : String) (value : α) : Entries α → Entries α
  | [] => [(name, value)]
  | (k, v) :: es =>
    if name < k then (name, value) :: (k, v) :: es
    else if k < name then (k, v) :: insertEntry name value es
    else (k, value) :: es

/-- Writing a value brings in no name but its own. -/
theorem mem_names_insertEntry {name : String} {value : α} {es : Entries α} {x : String}
    (h : x ∈ (insertEntry name value es).map Prod.fst) : x = name ∨ x ∈ es.map Prod.fst := by
  induction es with
  | nil => simpa [insertEntry] using h
  | cons e es ih =>
    obtain ⟨k, v⟩ := e
    simp only [insertEntry] at h
    split at h
    · simpa using h
    · split at h
      · simp only [List.map_cons, List.mem_cons] at h ⊢
        rcases h with h | h
        · exact Or.inr (Or.inl h)
        · rcases ih h with h | h
          · exact Or.inl h
          · exact Or.inr (Or.inr h)
      · exact Or.inr (by simpa using h)

/-- A value is written at its place, so the names stay in ascending order; this is what
makes the result a map again. -/
theorem ascending_insertEntry {name : String} {value : α} {es : Entries α}
    (h : (es.map Prod.fst).Pairwise (· < ·)) :
    ((insertEntry name value es).map Prod.fst).Pairwise (· < ·) := by
  induction es with
  | nil => simp [insertEntry]
  | cons e es ih =>
    obtain ⟨k, v⟩ := e
    have h' := List.pairwise_cons.1 h
    simp only [insertEntry]
    split
    · next hlt =>
      refine List.pairwise_cons.2 ⟨?_, h⟩
      intro x hx
      rcases List.mem_cons.1 hx with rfl | hx
      · exact hlt
      · exact String.lt_trans hlt (h'.1 x hx)
    · split
      · next hlt =>
        refine List.pairwise_cons.2 ⟨?_, ih h'.2⟩
        intro x hx
        rcases mem_names_insertEntry hx with rfl | hx
        · exact hlt
        · exact h'.1 x hx
      · exact h

/-- The map without entries. -/
def empty : NameMap α := ⟨[], List.Pairwise.nil⟩

/-- Writes a value. -/
def insert (name : String) (value : α) (m : NameMap α) : NameMap α :=
  ⟨insertEntry name value m.entries, ascending_insertEntry m.ascending⟩

/-- The map of entries written one after the other. -/
def ofEntries (es : Entries α) : NameMap α :=
  es.foldl (fun m e => m.insert e.1 e.2) empty

end NameMap
end BareMetal
