import InfixCalculator.Number.Binary64

/-! # Numbers

Integers of any size and binary64 numbers. The two kinds stay apart: `6 / 3` is the binary64 number
2, not the integer.
-/
namespace InfixCalculator

inductive Number
  | int (value : Int)
  | float (value : Float)

namespace Number

/-- Whether a number equals zero, of either sign. -/
def isZero : Number → Bool
  | int n => n == 0
  | float x => x == 0.0

/-- The nearest binary64 number; a number beyond their range has none. -/
def toFloat? : Number → Option Float
  | int n => Binary64.ofInt? n
  | float x => some x

end Number

end InfixCalculator
