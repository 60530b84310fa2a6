/-! # Rounding to binary64

Every finite binary64 number is a multiple of 2^-1074, the *unit*. A non-negative number is handled
through its bit pattern without the sign: patterns are ordered like the numbers, so rounding up into
the next binade or out of the subnormal range needs no case of its own. All rounding is done in
exact integer arithmetic.
-/
namespace InfixCalculator.Binary64

/-- The integer nearest to `num / den`, a half going to the even neighbour. -/
def roundHalfEven (num den : Nat) : Nat :=
  let quotient := num / den
  let twice := 2 * (num % den)
  if twice < den then quotient
  else if den < twice then quotient + 1
  else quotient + quotient % 2

/-- How many patterns there are for each exponent, 2^52. -/
def binade : Nat := 0x10000000000000

/-- The bit pattern of infinity, one above that of the greatest finite number. -/
def infinity : Nat := 0x7ff * binade

/-- The sign bit, 2^63, which stands above all patterns. -/
def signBit : Nat := 0x8000000000000000

/-- How many units `num / den` is, rounded down. -/
def unitsFloor (num den : Nat) : Nat := (num <<< 1074) / den

/-- The binary exponent of the last significand bit, in units, of a number of so many units. -/
def spacing (units : Nat) : Nat := units.log2 - 52

/-- The bit pattern nearest to `num / den`, ties going to the even one. Patterns from `infinity` on
mean that the quotient is out of range. -/
def nearest (num den : Nat) : Nat :=
  let k := spacing (unitsFloor num den)
  k * binade + roundHalfEven (num <<< 1074) (den <<< k)

/-- The units in the number with the given bit pattern. -/
def units (pattern : Nat) : Nat :=
  if pattern < binade then pattern
  else (binade + pattern % binade) <<< (pattern / binade - 1)

/-- The number with the given sign and bit pattern without sign. -/
def ofPattern (negative : Bool) (pattern : Nat) : Float :=
  Float.ofBits (UInt64.ofNat (if negative then signBit + pattern else pattern))

/-- The number nearest to `num / den` with the given sign, if it is in range. -/
def ofRatio? (negative : Bool) (num den : Nat) : Option Float :=
  let pattern := nearest num den
  if pattern < infinity then some (ofPattern negative pattern) else none

/-- The number nearest to an integer. -/
def ofInt? (n : Int) : Option Float :=
  ofRatio? (n < 0) n.natAbs 1

/-- The number nearest to the quotient of two integers; it is negative, be it zero, when one of the
integers is. -/
def quotient? (a b : Int) : Option Float :=
  ofRatio? (decide (a < 0) != decide (b < 0)) a.natAbs b.natAbs

/-- The largest integer that is not above `num / den` rounded to binary64. -/
def floorRounded (num den : Nat) : Nat :=
  units (nearest num den) >>> 1074

end InfixCalculator.Binary64
