/-
# Whole numbers in decimal digits

A whole number is written with at most as many digits as a numeral may have
(`Numeral.digitLimit`). A longer one has no text: whatever should hold it, a parameter or
a message, fails as an invalid argument.
-/

import BareMetal.Failure
import BareMetal.Number.Numeral

namespace BareMetal
namespace Numeral

/-- The whole number has few enough digits to be written. -/
def IsWritable (n : Int) : Prop := Number.decimalLength n.natAbs ≤ digitLimit

instance (n : Int) : Decidable (IsWritable n) :=
  inferInstanceAs (Decidable (Number.decimalLength n.natAbs ≤ digitLimit))

/-- The failure to write a whole number that has too many digits. -/
def tooLong : Failure :=
  .invalid s!"Exceeds the limit ({digitLimit} digits) for integer string conversion; use sys.set_int_max_str_digits() to increase the limit"

/-- The decimal text of a whole number. -/
def write (n : Int) : Except Failure String :=
  if IsWritable n then .ok (toString n) else .error tooLong

/-- A number with few enough digits is written in full. -/
theorem write_of_isWritable {n : Int} (h : IsWritable n) : write n = .ok (toString n) := if_pos h

/-- A number with too many digits is not written at all. -/
theorem write_of_not_isWritable {n : Int} (h : ¬ IsWritable n) : write n = .error tooLong :=
  if_neg h

/-- A failure that shows a number comes as it is if the number can be written, and gives way to
the failure to write it if not. -/
theorem write_bind_error {α : Type} (n : Int) (e : String → Failure) :
    ((write n).bind fun text => (.error (e text) : Except Failure α)) =
      .error (if IsWritable n then e (toString n) else tooLong) := by
  by_cases h : IsWritable n
  · rw [write_of_isWritable h, if_pos h]
    rfl
  · rw [write_of_not_isWritable h, if_neg h]
    rfl

end Numeral

/-- A number can be used only under a condition; the message of the refusal shows it. -/
def requireNumber (condition : Bool) (context : String) (n : Int) : Except Failure Unit :=
  if condition then .ok ()
  else do
    let text ← Numeral.write n
    .error (.invalid s!"{context} {text}")

end BareMetal
