/-
# Quantities

A quantity is a whole number or a floating-point number, as it was given.
-/

import BareMetal.Number.Binary64

namespace BareMetal

/-- A number of seconds, or of bytes. -/
inductive Quantity where
  | whole (n : Int)
  | float (x : Binary64)
deriving DecidableEq, Repr

end BareMetal
