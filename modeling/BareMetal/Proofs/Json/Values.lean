/-
# Values that are read from JSON

A property of values holds of whatever is read from a JSON text if it holds of the single values
that a text can hold, and of lists and maps as soon as it holds of what is in them (`Json.IsKept`).
The three scanners call each other, so the induction goes over their fuel; it is done here once and
for all (`Json.IsKept.of_scan`, `Json.IsKept.of_parse`).

A number in a text is one of two (`Json.IsNumeric`): a whole number, whose digits are no more than
the limit, or the floating-point number next to a decimal.
-/

import BareMetal.Json.Parser
import Mathlib.Data.Int.Notation
import Mathlib.Data.List.TakeWhile

namespace BareMetal
namespace Json

variable {limit : ℕ} {cs rest : List Char}

/-- What a number in a text is read as. -/
inductive IsNumeric (limit : ℕ) : Datum → Prop
  | int {n : ℤ} {ds : List Char} (digits : ∀ d ∈ ds, d.isDigit) (short : ds.length ≤ limit)
      (value : n.natAbs = Numeral.ofDigits ds) : IsNumeric limit (.int n)
  | float (negative : Bool) (whole fraction : List Char) (exponent : ℤ) :
      IsNumeric limit (.float (Numeral.ofParts negative whole fraction exponent))

/-- The whole part of a number is a row of digits. -/
theorem isDigit_of_scanWhole {ds : List Char} (h : scanWhole cs = some (ds, rest)) :
    ∀ d ∈ ds, d.isDigit := by
  unfold scanWhole at h
  split at h
  · obtain ⟨rfl, -⟩ := Prod.mk.inj (Option.some.inj h)
    exact List.forall_mem_singleton.2 rfl
  · split at h
    · cases h
    · obtain ⟨rfl, -⟩ := Prod.mk.inj (Option.some.inj h)
      exact fun d hd => List.mem_takeWhile_imp hd

/-- What is scanned as a number is one. -/
theorem isNumeric_of_scanNumber {d : Datum} (h : scanNumber limit cs = .ok (d, rest)) :
    IsNumeric limit d := by
  have float {negative : Bool} {whole fraction after : List Char} {exponent : ℤ}
      (h : (.ok (.float (Numeral.ofParts negative whole fraction exponent), after) :
        Except Stop (Datum × List Char)) = .ok (d, rest)) : IsNumeric limit d := by
    obtain ⟨rfl, -⟩ := Prod.mk.inj (Except.ok.inj h)
    exact .float ..
  unfold scanNumber at h
  dsimp only at h
  split at h
  · cases h
  · next whole =>
    split at h
    · split at h <;> exact float h
    · split at h
      · exact float h
      · split at h
        · cases h
        · next short =>
          obtain ⟨rfl, -⟩ := Prod.mk.inj (Except.ok.inj h)
          refine .int (isDigit_of_scanWhole whole) (Nat.not_lt.1 short) ?_
          split <;> simp

/-- The property holds of the single values in a text, and of lists and maps with it inside. -/
structure IsKept (limit : ℕ) (P : Datum → Prop) : Prop where
  null : P .null
  bool (b : Bool) : P (.bool b)
  nan : P (.float .nan)
  infinite (negative : Bool) : P (.float (.infinite negative))
  number {d : Datum} (numeric : IsNumeric limit d) : P d
  text (s : String) : P (.text s)
  list {ds : List Datum} (items : ∀ d ∈ ds, P d) : P (.list ds)
  map {pairs : List (String × Datum)} (values : ∀ p ∈ pairs, P p.2) :
    P (.map (Entries.ofList pairs))

namespace IsKept

variable {P : Datum → Prop} (kept : IsKept limit P)
include kept

/-- What is scanned has the property. The induction is on the fuel, with which the three scanners
call each other. -/
theorem of_scan (fuel : ℕ) :
    (∀ {cs d rest}, scanValue limit fuel cs = .ok (d, rest) → P d) ∧
      (∀ {cs ds rest}, scanItems limit fuel cs = .ok (ds, rest) → ∀ d ∈ ds, P d) ∧
      ∀ {cs es rest}, scanEntries limit fuel cs = .ok (es, rest) → ∀ e ∈ es, P e.2 := by
  induction fuel with
  | zero => exact ⟨nofun, nofun, nofun⟩
  | succ fuel ih =>
    obtain ⟨value, items, entries⟩ := ih
    refine ⟨fun h => ?_, fun h => ?_, fun h => ?_⟩
    · unfold scanValue at h
      split at h
      -- a text
      · split at h <;> cases h
        exact kept.text _
      -- a map
      · split at h
        · cases h
          have none : ∀ p ∈ ([] : List (String × Datum)), P p.2 := List.forall_mem_nil _
          exact kept.map none
        · split at h
          · next h' =>
            cases h
            exact kept.map (entries h')
          · cases h
      -- a list
      · split at h
        · cases h
          exact kept.list (List.forall_mem_nil _)
        · split at h
          · next h' =>
            cases h
            exact kept.list (items h')
          · cases h
      · cases h
        exact kept.null
      · cases h
        exact kept.bool true
      · cases h
        exact kept.bool false
      · cases h
        exact kept.nan
      · cases h
        exact kept.infinite false
      · cases h
        exact kept.infinite true
      · exact kept.number (isNumeric_of_scanNumber h)
    · unfold scanItems at h
      split at h
      · cases h
      · next first =>
        split at h
        · cases h
          exact List.forall_mem_singleton.2 (value first)
        · split at h
          · next more =>
            cases h
            exact List.forall_mem_cons.2 ⟨value first, items more⟩
          · cases h
        · cases h
    · unfold scanEntries at h
      split at h
      · split at h
        · cases h
        · split at h
          · split at h
            · cases h
            · next first =>
              split at h
              · cases h
                exact List.forall_mem_singleton.2 (value first)
              · split at h
                · next more =>
                  cases h
                  exact List.forall_mem_cons.2 ⟨value first, entries more⟩
                · cases h
              · cases h
          · cases h
      · cases h

/-- **What is kept holds of every value that is read.** -/
theorem of_parse {text : List Char} {d : Datum} (h : parse text limit = .ok d) : P d := by
  rw [parse, scan] at h
  split at h
  · cases h
  · split at h
    · cases h
    · next value =>
      split at h
      · cases h
        exact (kept.of_scan _).1 value
      · cases h

end IsKept
end Json
end BareMetal
