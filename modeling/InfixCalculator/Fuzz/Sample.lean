import InfixCalculator.Fuzz.Twister
import InfixCalculator.Number.Binary64

/-! # Random texts

Texts over the characters of the calculator, drawn one character at a time: a random fraction times
the size of the alphabet, rounded to binary64 and then down, is the index of the character.
-/
namespace InfixCalculator.Sample

def alphabet : List Char :=
  ['0', '1', '2', '3', '4', '5', '6', '7', '8', '9', '(', ')', '+', '-', '*', '/', ' ']

/-- The index that the random fraction with numerator `n` selects. -/
def choice (n : Nat) : Nat :=
  Binary64.floorRounded (alphabet.length * n) Twister.denominator

def character (twister : Twister) : Char × Twister :=
  let (n, twister) := twister.nextFraction
  (alphabet.getD (choice n) ' ', twister)

/-- Draws `count` characters and puts them behind those drawn before, of which the latest is first
in `drawn`. -/
def characters (drawn : List Char) : Nat → Twister → List Char × Twister
  | 0, twister => (drawn.reverse, twister)
  | count + 1, twister =>
    let (c, twister) := character twister
    characters (c :: drawn) count twister

/-- A bound for lengths, 2^63. -/
def lengthBound : Int := 0x8000000000000000

/-- The lengths that can be asked for, those of signed 64-bit integers. -/
def InRange (length : Int) : Prop := -lengthBound ≤ length ∧ length < lengthBound

instance (length : Int) : Decidable (InRange length) :=
  inferInstanceAs (Decidable (_ ∧ _))

inductive LengthError
  | outOfRange
deriving DecidableEq, Repr

def LengthError.message : LengthError → String
  | outOfRange => "Python int too large to convert to C ssize_t"

/-- A random text; a negative length counts as zero. -/
def randomText (length : Int) (twister : Twister) : Except LengthError (String × Twister) :=
  if InRange length then
    let (text, twister) := characters [] length.toNat twister
    .ok (String.ofList text, twister)
  else .error .outOfRange

/-- Random texts of the given lengths, one after the other. -/
def randomTexts : List Int → Twister → Except LengthError (List String)
  | [], _ => .ok []
  | length :: lengths, twister =>
    match randomText length twister with
    | .error error => .error error
    | .ok (text, twister) => (randomTexts lengths twister).map (text :: ·)

end InfixCalculator.Sample
