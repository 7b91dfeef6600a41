/-
# Entries

A list of named values in the order in which the names were first written. Of a
name written twice the last value counts, at the place of the first.
-/

namespace BareMetal

/-- Named values in the order of their names' first writing. -/
abbrev Entries (α : Type) := List (String × α)

namespace Entries

variable {α : Type}

/-- The value of a name. -/
def get? (name : String) : Entries α → Option α
  | [] => none
  | (k, v) :: es => if k = name then some v else get? name es

/-- Writes a value: in place if the name is there, else at the end. -/
def put (name : String) (value : α) : Entries α → Entries α
  | [] => [(name, value)]
  | (k, v) :: es => if k = name then (k, value) :: es else (k, v) :: put name value es

/-- The names, in order. -/
def names (es : Entries α) : List String := es.map Prod.fst

/-- Entries written one after the other. -/
def ofList (pairs : List (String × α)) : Entries α :=
  pairs.foldl (fun es p => es.put p.1 p.2) []

/-- A value that was written is found under its name. -/
@[simp] theorem get?_put_self (es : Entries α) (name : String) (value : α) :
    (es.put name value).get? name = some value := by
  induction es with
  | nil => simp [put, get?]
  | cons e es ih =>
    simp only [put]
    split
    · next hk => simp [get?, hk]
    · next hk => simp [get?, ih, hk]

/-- Writing a value leaves the values of the other names as they were. -/
theorem get?_put_of_ne (es : Entries α) {name other : String} (value : α) (h : name ≠ other) :
    (es.put name value).get? other = es.get? other := by
  induction es with
  | nil => simp [put, get?, h]
  | cons e es ih =>
    simp only [put]
    split
    · next hk => subst hk; simp [get?, h]
    · simp [get?, ih]

end Entries
end BareMetal
