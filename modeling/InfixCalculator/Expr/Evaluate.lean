import InfixCalculator.Expr
import InfixCalculator.Number.Arithmetic

/-! # Evaluation

An expression is evaluated by a machine with a list of pending tasks and a stack of results, so that
only memory limits its depth. The meaning of an expression is given by recursion on the tree: left
operand, right operand, operation, and the first error ends it. Main statements: `run_visit`, by
which the machine does one subtree after the other, and `evaluate_eq_value`.
-/
namespace InfixCalculator.Expr

/-- The value of an expression, operands from left to right. -/
def value : Expr → Except ArithmeticError Number
  | number n => .ok (.int n)
  | binary op left right _ => do
    let a ← left.value
    let b ← right.value
    op.apply a b

inductive Task
  | visit (expr : Expr)
  | apply (op : Operator)

/-- The number of machine steps a task takes. -/
def Task.steps : Task → Nat
  | visit (number _) => 1
  | visit (binary _ left right _) => (visit left).steps + (visit right).steps + 2
  | apply _ => 1

/-- The number of machine steps that all pending tasks take. -/
def totalSteps : List Task → Nat
  | [] => 0
  | task :: pending => task.steps + totalSteps pending

inductive Halt
  | failed (error : ArithmeticError)
  /-- An operation found fewer than two results. -/
  | underflow

/-- Works off the pending tasks; the last result is on top. -/
def run : List Task → List Number → Except Halt (List Number)
  | [], results => .ok results
  | .visit (number n) :: pending, results => run pending (.int n :: results)
  | .visit (binary op left right _) :: pending, results =>
    run (.visit left :: .visit right :: .apply op :: pending) results
  | .apply op :: pending, b :: a :: results =>
    match op.apply a b with
    | .error error => .error (.failed error)
    | .ok c => run pending (c :: results)
  | .apply _ :: _, _ => .error .underflow
termination_by pending => totalSteps pending
decreasing_by
  all_goals
    simp only [totalSteps, Task.steps]
    omega

theorem run_visit (e : Expr) (pending : List Task) (results : List Number) :
    run (.visit e :: pending) results =
      match e.value with
      | .error error => .error (.failed error)
      | .ok v => run pending (v :: results) := by
  induction e generalizing pending results with
  | number n => simp [run, value]
  | binary op left right level ihl ihr =>
    rw [run, ihl]
    cases hl : left.value with
    | error error => simp [value, hl, bind, Except.bind]
    | ok a =>
      simp only [ihr]
      cases hr : right.value with
      | error error => simp [value, hl, hr, bind, Except.bind]
      | ok b => simp [run, value, hl, hr, bind, Except.bind]

theorem run_visit_nil (e : Expr) :
    run [.visit e] [] = match e.value with
      | .error error => .error (.failed error)
      | .ok v => .ok [v] := by
  rw [run_visit]
  cases e.value <;> simp [run]

/-- The outcome of running the machine on the whole expression: it never lacks results and leaves
exactly one. -/
def evaluate (e : Expr) : Except ArithmeticError Number :=
  match h : run [.visit e] [] with
  | .ok [v] => .ok v
  | .error (.failed error) => .error error
  | .ok [] | .ok (_ :: _ :: _) | .error .underflow => False.elim <| by
    rw [run_visit_nil] at h
    split at h <;> simp at h

theorem evaluate_eq_value (e : Expr) : e.evaluate = e.value := by
  have h := run_visit_nil e
  unfold evaluate
  split <;> cases hv : e.value <;> simp_all

end InfixCalculator.Expr
