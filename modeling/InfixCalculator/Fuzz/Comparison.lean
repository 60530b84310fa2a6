import InfixCalculator.Number
import InfixCalculator.Text.Blank

/-! # Comparing answers

The calculator's answer to a text is held against the answer of a reference evaluator. They agree
when both are numbers that are close, or neither is a number. Two differences are forgiven: the
reference may refuse leading zeros, and the calculator refuses signs in unary position.
-/
namespace InfixCalculator

/-- What a reference evaluator makes of a text. -/
inductive Answer
  | number (value : Number)
  | message (text : String)
  /-- Something that is neither a number nor an error message. -/
  | other

/-- A number is too large to be compared. -/
inductive ComparisonError
  | tooLarge
deriving DecidableEq, Repr

def ComparisonError.message : ComparisonError → String
  | tooLarge => "int too large to convert to float"

namespace Comparison

/-- Whether blanks, if any, and then a character of the given sort stand at the front. -/
def startsWith (sort : Char → Bool) : List Char → Bool
  | [] => false
  | c :: text => sort c || (isBlank c && startsWith sort text)

/-- Whether somewhere a character of the first sort is followed, blanks apart, by one of the second.
-/
def hasPair (first second : Char → Bool) : List Char → Bool
  | [] => false
  | c :: text => (first c && startsWith second text) || hasPair first second text

def isSign (c : Char) : Bool := c = '+' || c = '-'

/-- Whether an operand has to follow the character. -/
def opensOperand (c : Char) : Bool := isSign c || c = '*' || c = '/' || c = '('

/-- Whether some sign stands where an operand should. -/
def hasUnarySign (text : List Char) : Bool :=
  startsWith isSign text || hasPair opensOperand isSign text

/-- The same in one pass that remembers the last character that is not blank. -/
def signFollows (last : Option Char) : List Char → Bool
  | [] => false
  | c :: text =>
    (isSign c && last.all opensOperand) || signFollows (if isBlank c then last else some c) text

/-- Whether two stars or two slashes follow each other, blanks apart: operators of the reference
evaluator that the calculator does not have. -/
def hasDoubledOperator (text : List Char) : Bool :=
  hasPair (· = '*') (· = '*') text || hasPair (· = '/') (· = '/') text

/-- The relative difference up to which numbers count as close. -/
def tolerance : Float := 1e-9

/-- Equal, or finite and no further apart than the tolerance allows for either of them. -/
def isClose (a b : Float) : Bool :=
  a == b ||
    (!a.isInf && !b.isInf &&
      ((b - a).abs ≤ (tolerance * b).abs || (b - a).abs ≤ (tolerance * a).abs))

def isCloseNumber (own reference : Number) : Except ComparisonError Bool :=
  match own.toFloat?, reference.toFloat? with
  | some a, some b => .ok (isClose a b)
  | _, _ => .error .tooLarge

/-- How the reference evaluator's message begins when it refuses leading zeros. -/
def leadingZerosMessage : String := "leading zeros in decimal integer literals"

/-- Whether the calculator's own answer to `code` differs from the reference in a way that is not
forgiven. -/
def disagree (code : String) (reference : Answer) (own : Except String Number) :
    Except ComparisonError Bool :=
  match reference, own with
  | .number b, .ok a => (isCloseNumber a b).map (!·)
  | .number _, .error _ => .ok (!hasUnarySign code.toList)
  | .message text, .ok _ => .ok (!leadingZerosMessage.toList.isPrefixOf text.toList)
  | .other, .ok _ => .ok true
  | .message _, .error _ | .other, .error _ => .ok false

end Comparison

end InfixCalculator
