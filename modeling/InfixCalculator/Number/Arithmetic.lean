import InfixCalculator.Number
import InfixCalculator.Operator

/-! # Arithmetic on numbers

Sums, differences and products of integers are exact. A quotient of integers is rounded once, from
the exact quotient. Where a binary64 number takes part, an integer operand is first rounded to one.
Infinities and NaNs never get out: an operation that would give one fails.
-/
namespace InfixCalculator

inductive ArithmeticError
  | divisionByZero
  | resultTooLarge (op : Operator)
deriving DecidableEq, Repr

namespace ArithmeticError

def summary : ArithmeticError → String
  | divisionByZero => "Division by zero"
  | resultTooLarge op => "Result of " ++ op.name ++ " is too large to represent"

def message (e : ArithmeticError) : String :=
  "[Arithmetic error] " ++ e.summary

end ArithmeticError

namespace Operator

def applyFloat : Operator → Float → Float → Float
  | add, a, b => a + b
  | sub, a, b => a - b
  | mul, a, b => a * b
  | div, a, b => a / b

/-- The outcome of a binary64 operation, if there is one in range. -/
def finiteResult (op : Operator) (result : Option Float) : Except ArithmeticError Number :=
  match result with
  | some x => if x.isFinite then .ok (.float x) else .error (.resultTooLarge op)
  | none => .error (.resultTooLarge op)

def applyInt (op : Operator) (a b : Int) : Except ArithmeticError Number :=
  match op with
  | add => .ok (.int (a + b))
  | sub => .ok (.int (a - b))
  | mul => .ok (.int (a * b))
  | div => finiteResult op (Binary64.quotient? a b)

/-- Division by zero comes before every other failure. -/
def apply (op : Operator) (a b : Number) : Except ArithmeticError Number :=
  if op = div ∧ b.isZero then .error .divisionByZero
  else
    match a, b with
    | .int m, .int n => op.applyInt m n
    | a, b => op.finiteResult do return op.applyFloat (← a.toFloat?) (← b.toFloat?)

end Operator

end InfixCalculator
