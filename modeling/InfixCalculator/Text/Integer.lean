import InfixCalculator.Text.Blank
import InfixCalculator.Text.Digit

/-! # Reading integers

An integer may stand between blanks. It has an optional sign and then decimal digits of any script,
with at most one low line between two of them; leading zeros are allowed.
-/
namespace InfixCalculator.Integer

/-- The longest integer that is read, in digits. -/
def maxDigits : Nat := 4300

/-- Blanks that may surround an integer: all but the separators U+001C to U+001F. -/
def isMargin (c : Char) : Bool :=
  isBlank c && !(0x1c ≤ c.toNat && c.toNat ≤ 0x1f)

def trim (text : List Char) : List Char :=
  ((text.dropWhile isMargin).reverse.dropWhile isMargin).reverse

/-- The values of digits, of which any two may have a low line between them. -/
def digits? : List Char → Option (List Nat)
  | [] => none
  | [c] => (digitValue? c).map ([·])
  | c :: '_' :: text => (digitValue? c).bind fun d => (digits? text).map (d :: ·)
  | c :: text => (digitValue? c).bind fun d => (digits? text).map (d :: ·)

def natural? (text : List Char) : Option Nat :=
  match digits? text with
  | none => none
  | some digits =>
    if digits.length ≤ maxDigits then some (digits.foldl (10 * · + ·) 0) else none

def signed? : List Char → Option Int
  | '-' :: text => (natural? text).map fun n => -n
  | '+' :: text => (natural? text).map fun n => n
  | text => (natural? text).map fun n => n

def read? (text : List Char) : Option Int := signed? (trim text)

end InfixCalculator.Integer
