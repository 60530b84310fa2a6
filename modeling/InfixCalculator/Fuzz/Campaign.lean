import InfixCalculator.Calculator
import InfixCalculator.Fuzz.Comparison
import InfixCalculator.Fuzz.Sample
import InfixCalculator.Number.Display

/-! # Fuzzing campaigns

A campaign draws random texts, passes over those with doubled operators, evaluates the others and
puts on record where the answer disagrees with a reference evaluator. A text that is passed over
counts as an iteration and uses up random numbers like any other. Two answers that cannot be
compared stop the campaign, and so does a length that cannot be drawn.
-/
namespace InfixCalculator

/-- What a record shows of the reference; of what is neither a number nor a message, empty
parentheses. -/
def Answer.text? : Answer → Option String
  | number value => value.text?
  | message text => some text
  | other => some "()"

namespace Campaign

/-- The calculator's answer to a text: a number or the message of an error. -/
def answer (text : String) : Except String Number :=
  (evaluateText text).mapError (·.message)

def answerText? : Except String Number → Option String
  | .ok value => value.text?
  | .error message => some message

/-- Whether the calculator's answer to a text differs from the reference. -/
def verdict (reference : String → Answer) (text : String) : Except ComparisonError Bool :=
  Comparison.disagree text (reference text) (answer text)

def logger : String := "fuzz_arithmetic"

/-- The record of a text with two answers that differ. It is lost if one of them cannot be
written. -/
def mismatchRecord? (reference : String → Answer) (text : String) : Option LogRecord := do
  let expected ← (reference text).text?
  let own ← answerText? (answer text)
  return ⟨.warning, logger, String.ofList (Quoted.quote isPrintable text.toList) ++
    "\npy: " ++ expected ++ "\nmy: " ++ own⟩

/-- Why a campaign stops before its end. -/
inductive Failure
  | length (error : Sample.LengthError)
  | comparison (error : ComparisonError)
deriving DecidableEq, Repr

def Failure.message : Failure → String
  | length error => error.message
  | comparison error => error.message

structure Outcome where
  /-- The texts that were evaluated, with their answers. -/
  evaluated : List (String × Except String Number) := []
  warnings : List LogRecord := []
  disagreements : Nat := 0
  failure : Option Failure := none

namespace Outcome

/-- Evaluates a text and compares the answer, which may end the campaign. -/
def record (reference : String → Answer) (text : String) (outcome : Outcome) : Outcome :=
  let outcome := { outcome with evaluated := (text, answer text) :: outcome.evaluated }
  match verdict reference text with
  | .ok false => outcome
  | .ok true =>
    { outcome with
      warnings := (mismatchRecord? reference text).toList ++ outcome.warnings
      disagreements := outcome.disagreements + 1 }
  | .error error => { outcome with failure := some (.comparison error) }

/-- What one iteration makes of the outcome, given the text that it draws. -/
def pass (reference : String → Answer) (text : String) (outcome : Outcome) : Outcome :=
  if Comparison.hasDoubledOperator text.toList then outcome else outcome.record reference text

def reverse (outcome : Outcome) : Outcome :=
  { outcome with
    evaluated := outcome.evaluated.reverse
    warnings := outcome.warnings.reverse }

end Outcome

/-- Goes on for a number of iterations; what is latest is first in `outcome` until the end. -/
def runFrom (reference : String → Answer) (length : Int) (outcome : Outcome) :
    Nat → Twister → Outcome
  | 0, _ => outcome.reverse
  | iterations + 1, twister =>
    match Sample.randomText length twister with
    | .error error => { outcome with failure := some (.length error) }.reverse
    | .ok (text, twister) =>
      let outcome := outcome.pass reference text
      if outcome.failure.isSome then outcome.reverse
      else runFrom reference length outcome iterations twister

/-- A whole campaign; a negative number of iterations counts as zero. -/
def run (reference : String → Answer) (seed length iterations : Int) : Outcome :=
  runFrom reference length {} iterations.toNat (.ofSeed seed)

/-- The record at the end of a campaign shows the number of iterations that was asked for. -/
def summaryRecord (iterations : Int) (outcome : Outcome) : LogRecord :=
  ⟨.info, logger, s!"{iterations} iterations, {outcome.disagreements} mismatches"⟩

end Campaign

end InfixCalculator
