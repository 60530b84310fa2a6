import InfixCalculator.Number
import InfixCalculator.Text.Integer

/-! # Numbers as text

An integer is written in decimal if it is not too long. A binary64 number is written with as few
digits as are read back as this number, and with those nearest to it where there is a choice. Very
great and very small numbers are written with an exponent.
-/
namespace InfixCalculator

namespace Binary64

/-- The number `significand * 10 ^ exponent`. -/
structure Decimal where
  significand : Nat
  exponent : Int
deriving DecidableEq, Repr

/-- The bit pattern of the binary64 number that a decimal is read as. -/
def Decimal.pattern (d : Decimal) : Nat :=
  nearest (d.significand * Nat.pow 10 d.exponent.toNat) (Nat.pow 10 (-d.exponent).toNat)

/-- How many digits a number of so many units has in front of the decimal point; less than zero if
zeros come first behind the point. -/
def digitsBeforePoint (units : Nat) : Int :=
  (Nat.toDigits 10 ((units * Nat.pow 10 324) >>> 1074)).length - 324

/-- The two decimals with `count` digits that enclose the number with the given pattern, the nearer
one first and of two at the same distance the even one. -/
def enclosing (pattern count : Nat) : Decimal × Decimal :=
  let exponent := digitsBeforePoint (units pattern) - count
  let num := units pattern * Nat.pow 10 (-exponent).toNat
  let den := Nat.pow 10 exponent.toNat <<< 1074
  let near := roundHalfEven num den
  let far := if near = num / den then near + 1 else near - 1
  (⟨near, exponent⟩, ⟨far, exponent⟩)

/-- The decimal with the fewest digits that is read as the number with the given pattern. The
nearest one with 17 digits always is. -/
def shortest (pattern : Nat) : Decimal :=
  let candidates := (List.range' 1 16).flatMap fun count =>
    let (near, far) := enclosing pattern count
    [near, far]
  (candidates.find? (·.pattern = pattern)).getD (enclosing pattern 17).1

/-- Digits with a point behind the first `point` of them, and a digit on either side of it. -/
def positional (digits : List Char) (point : Int) : List Char :=
  let whole := digits.take point.toNat ++ List.replicate (point.toNat - digits.length) '0'
  let fraction := List.replicate (-point).toNat '0' ++ digits.drop point.toNat
  (if whole = [] then ['0'] else whole) ++ '.' :: (if fraction = [] then ['0'] else fraction)

/-- Digits with a point behind the first, if more follow, and an exponent of two digits at least. -/
def scientific (digits : List Char) (exponent : Int) : List Char :=
  let fraction := digits.drop 1
  let size := Nat.toDigits 10 exponent.natAbs
  digits.take 1 ++ (if fraction = [] then [] else '.' :: fraction) ++
    'e' :: (if exponent < 0 then '-' else '+') :: (List.replicate (2 - size.length) '0' ++ size)

def Decimal.text (d : Decimal) : List Char :=
  let digits := Nat.toDigits 10 d.significand
  let point := digits.length + d.exponent
  let significant := (digits.reverse.dropWhile (· = '0')).reverse
  if -4 < point ∧ point ≤ 16 then positional significant point
  else scientific significant (point - 1)

/-- The text of a number with the given pattern, without sign. -/
def patternText (pattern : Nat) : String :=
  if pattern = infinity then "inf"
  else if pattern = 0 then "0.0"
  else String.ofList (shortest pattern).text

def text (x : Float) : String :=
  let bits := x.toBits.toNat
  if infinity < bits % signBit then "nan"
  else (if signBit ≤ bits then "-" else "") ++ patternText (bits % signBit)

end Binary64

/-- A number as text; integers that are too long to be read are not written either. -/
def Number.text? : Number → Option String
  | int n =>
    if (Nat.toDigits 10 n.natAbs).length ≤ Integer.maxDigits then some (toString n) else none
  | float x => some (Binary64.text x)

end InfixCalculator
