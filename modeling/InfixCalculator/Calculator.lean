import InfixCalculator.Expr.Evaluate
import InfixCalculator.Expr.Parse
import InfixCalculator.Log
import InfixCalculator.Token.Scan

/-! # The calculator

From a text to a number or an error: tokens, expression, value. Each stage has errors of its own,
and the first stage that fails decides the outcome. With debugging on, the tokens of every text that
has some and every failure are put on record.
-/
namespace InfixCalculator

inductive CalculationError
  | lexical (error : LexicalError)
  | syntactic (error : SyntaxError)
  | arithmetic (error : ArithmeticError)
deriving DecidableEq, Repr

namespace CalculationError

/-- What went wrong, in a few words. -/
def summary : CalculationError → String
  | lexical e => e.cause.summary
  | syntactic e => e.cause.summary
  | arithmetic e => e.summary

/-- The error as it is shown to a user. -/
def message : CalculationError → String
  | lexical e => e.message
  | syntactic e => e.message
  | arithmetic e => e.message

end CalculationError

/-- The tokens of a text without their places. -/
def readTokens (text : String) : Except CalculationError (List Token) :=
  match scanText text with
  | .error e => .error (.lexical e)
  | .ok placed => .ok (placed.map (·.token))

def readExpr (tokens : List Token) : Except CalculationError Expr :=
  (Expr.ofTokens tokens).mapError .syntactic

def evaluateExpr (expr : Expr) : Except CalculationError Number :=
  expr.evaluate.mapError .arithmetic

def evaluateTokens (tokens : List Token) : Except CalculationError Number := do
  evaluateExpr (← readExpr tokens)

/-- The value of the expression that a text spells. -/
def evaluateText (text : String) : Except CalculationError Number := do
  evaluateTokens (← readTokens text)

theorem readExpr_eq_ok_iff {tokens : List Token} {e : Expr} :
    readExpr tokens = .ok e ↔ Expr.ofTokens tokens = .ok e := by
  unfold readExpr
  cases Expr.ofTokens tokens with
  | error error => constructor <;> intro h <;> cases h
  | ok found => constructor <;> intro h <;> cases h <;> rfl

theorem evaluateText_of_scanText_error {text : String} {error : LexicalError}
    (failed : scanText text = .error error) : evaluateText text = .error (.lexical error) := by
  rw [evaluateText, readTokens, failed]
  rfl

theorem evaluateText_of_readTokens {text : String} {tokens : List Token}
    (scanned : readTokens text = .ok tokens) : evaluateText text = evaluateTokens tokens := by
  rw [evaluateText, scanned]
  rfl

theorem evaluateText_eq {text : String} {tokens : List Token} {e : Expr}
    (scanned : readTokens text = .ok tokens) (parsed : readExpr tokens = .ok e) :
    evaluateText text = e.evaluate.mapError .arithmetic := by
  rw [evaluateText_of_readTokens scanned, evaluateTokens, parsed]
  rfl

theorem evaluateText_of_ofTokens_error {text : String} {tokens : List Token} {error : SyntaxError}
    (scanned : readTokens text = .ok tokens) (refused : Expr.ofTokens tokens = .error error) :
    evaluateText text = .error (.syntactic error) := by
  rw [evaluateText_of_readTokens scanned, evaluateTokens, readExpr, refused]
  rfl

/-- Either a text spells an expression, or it is refused before anything is evaluated. -/
theorem readExpr_or_refused (text : String) :
    (∃ tokens e, readTokens text = .ok tokens ∧ readExpr tokens = .ok e) ∨
      (∃ error, evaluateText text = .error (.lexical error)) ∨
        ∃ error, evaluateText text = .error (.syntactic error) := by
  cases scanned : scanText text with
  | error error => exact .inr (.inl ⟨error, evaluateText_of_scanText_error scanned⟩)
  | ok placed =>
    have read : readTokens text = .ok (placed.map (·.token)) := by rw [readTokens, scanned]
    cases parsed : Expr.ofTokens (placed.map (·.token)) with
    | error error => exact .inr (.inr ⟨error, evaluateText_of_ofTokens_error read parsed⟩)
    | ok e => exact .inl ⟨_, e, read, readExpr_eq_ok_iff.mpr parsed⟩

namespace Calculator

def logger : String := "exprcalc.calculator"

def tokensRecord (tokens : List Token) : LogRecord :=
  ⟨.debug, logger, s!"{tokens.length} tokens: " ++ Token.canonicalText tokens⟩

def failureRecord (text : String) (error : CalculationError) : LogRecord :=
  ⟨.debug, logger,
    "evaluation of " ++ String.ofList (Quoted.quote isPrintable text.toList) ++ " failed: " ++
      error.message⟩

/-- Puts a record behind those there are, if debugging is on. -/
def note (debug : Bool) (record : LogRecord) : StateM (List LogRecord) Unit :=
  if debug then modify (· ++ [record]) else return ()

/-- The stages one after the other. The tokens go on record before they are parsed. -/
def stages (debug : Bool) (text : String) :
    ExceptT CalculationError (StateM (List LogRecord)) Number := do
  let tokens ← ofExcept (readTokens text)
  note debug (tokensRecord tokens)
  ofExcept (evaluateTokens tokens)

/-- The outcome of the stages; a failure of any of them is put on record. -/
def outcome (debug : Bool) (text : String) :
    StateM (List LogRecord) (Except CalculationError Number) := do
  match ← (stages debug text).run with
  | .ok value => return .ok value
  | .error error =>
    note debug (failureRecord text error)
    return .error error

end Calculator

/-- The outcome of evaluating a text and what was put on record meanwhile. -/
def evaluateLogged (debug : Bool) (text : String) :
    Except CalculationError Number × List LogRecord :=
  (Calculator.outcome debug text).run []

end InfixCalculator
