import InfixCalculator.Expr.Evaluate
import Mathlib

/-! # Every turn of the evaluating machine

The machine's loop does one task in each turn. A turn leaves exactly one step less to be done, so
the loop ends, and it keeps the stack of results supplied: there are enough of them for every
pending operation, and exactly one is left at the end. Main statement: `evaluate_refines_value`.
-/
namespace InfixCalculator.Expr

/-- What the machine has at hand between two turns. -/
structure Config where
  pending : List Task
  results : List Number

/-- One turn of the loop, with the task that was on top and what is pending below it. -/
def turn : Task → List Task → List Number → Except Halt Config
  | .visit (number n), pending, results => .ok ⟨pending, .int n :: results⟩
  | .visit (binary op left right _), pending, results =>
    .ok ⟨.visit left :: .visit right :: .apply op :: pending, results⟩
  | .apply op, pending, b :: a :: results =>
    match op.apply a b with
    | .error error => .error (.failed error)
    | .ok c => .ok ⟨pending, c :: results⟩
  | .apply _, _, _ => .error .underflow

/-- The second configuration is reached from the first in so many turns. -/
inductive Turns : Nat → Config → Config → Prop
  | none (c : Config) : Turns 0 c c
  | next {n : Nat} {task : Task} {pending : List Task} {results : List Number} {c last : Config}
      (first : turn task pending results = .ok c) (others : Turns n c last) :
      Turns (n + 1) ⟨task :: pending, results⟩ last

def start (e : Expr) : Config := ⟨[.visit e], []⟩

/-- With so many results at hand every pending operation finds two, and one is left at the end. -/
def Supplied : List Task → Nat → Prop
  | [], count => count = 1
  | .visit _ :: pending, count => Supplied pending (count + 1)
  | .apply _ :: pending, count => 2 ≤ count ∧ Supplied pending (count - 1)

/-- The same tree with one level at all its nodes. -/
def withLevel (level : Level) : Expr → Expr
  | number value => number value
  | binary op left right _ => binary op (withLevel level left) (withLevel level right) level

section Turn

variable {task : Task} {pending : List Task} {results : List Number} {c : Config}

theorem run_cons (task : Task) (pending : List Task) (results : List Number) :
    run (task :: pending) results =
      turn task pending results >>= fun c => run c.pending c.results := by
  cases task with
  | visit e => cases e <;> rw [run] <;> rfl
  | apply op =>
    rcases results with _ | ⟨b, _ | ⟨a, results⟩⟩
    · rw [run]
      · rfl
      · simp
    · rw [run]
      · rfl
      · simp
    · rw [run, turn]
      cases op.apply a b <;> rfl

theorem totalSteps_turn (h : turn task pending results = .ok c) :
    totalSteps (task :: pending) = totalSteps c.pending + 1 := by
  unfold turn at h
  split at h
  · cases h
    simp only [totalSteps, Task.steps]
    omega
  · cases h
    simp only [totalSteps, Task.steps]
    omega
  · split at h
    · cases h
    · cases h
      simp only [totalSteps, Task.steps]
      omega
  · cases h

theorem supplied_turn (supplied : Supplied (task :: pending) results.length)
    (h : turn task pending results = .ok c) : Supplied c.pending c.results.length := by
  unfold turn at h
  split at h
  · cases h
    exact supplied
  · cases h
    exact ⟨by omega, supplied⟩
  · split at h
    · cases h
    · cases h
      exact supplied.2
  · cases h

/-- With enough results a turn fails for arithmetic reasons only. -/
theorem exists_failed_of_turn {halt : Halt} (supplied : Supplied (task :: pending) results.length)
    (h : turn task pending results = .error halt) : ∃ error, halt = .failed error := by
  unfold turn at h
  split at h
  · cases h
  · cases h
  · split at h
    · cases h
      exact ⟨_, rfl⟩
    · cases h
  · next missing =>
    rcases results with _ | ⟨b, _ | ⟨a, results⟩⟩
    · exact absurd supplied.1 (by simp)
    · exact absurd supplied.1 (by simp)
    · exact absurd rfl (missing b a results)

end Turn

namespace Turns

variable {n : Nat} {c last : Config}

theorem run_eq (h : Turns n c last) : run c.pending c.results = run last.pending last.results := by
  induction h with
  | none c => rfl
  | next first _ ih => rw [run_cons, first]; exact ih

theorem totalSteps_eq (h : Turns n c last) :
    totalSteps c.pending = totalSteps last.pending + n := by
  induction h with
  | none c => rfl
  | next first _ ih =>
    have step := totalSteps_turn first
    dsimp only
    omega

theorem supplied (h : Turns n c last) (initial : Supplied c.pending c.results.length) :
    Supplied last.pending last.results.length := by
  induction h with
  | none c => exact initial
  | next first _ ih => exact ih (supplied_turn initial first)

end Turns

theorem supplied_start (e : Expr) : Supplied (start e).pending (start e).results.length := rfl

/-- From a supplied configuration the loop runs until nothing is pending or an operation fails. -/
theorem exists_turns_to_end {c : Config} (supplied : Supplied c.pending c.results.length) :
    (∃ n v, Turns n c ⟨[], [v]⟩) ∨
      ∃ n task pending results error, Turns n c ⟨task :: pending, results⟩ ∧
        turn task pending results = .error (.failed error) := by
  obtain ⟨pending, results⟩ := c
  induction steps : totalSteps pending using Nat.strong_induction_on
      generalizing pending results with
  | h n ih =>
    cases pending with
    | nil =>
      obtain ⟨v, rfl⟩ := List.length_eq_one_iff.mp supplied
      exact .inl ⟨0, v, .none _⟩
    | cons task pending =>
      cases first : turn task pending results with
      | error halt =>
        obtain ⟨error, rfl⟩ := exists_failed_of_turn supplied first
        exact .inr ⟨0, task, pending, results, error, .none _, first⟩
      | ok c =>
        have fewer := totalSteps_turn first
        rcases ih _ (by omega) c.pending c.results (supplied_turn supplied first) rfl with
          ⟨n, v, others⟩ | ⟨n, task', pending', results', error, others, failed⟩
        · exact .inl ⟨n + 1, v, .next first others⟩
        · exact .inr ⟨n + 1, task', pending', results', error, .next first others, failed⟩

@[simp] theorem value_withLevel (level : Level) (e : Expr) :
    (e.withLevel level).value = e.value := by
  induction e with
  | number n => rfl
  | binary op left right _ ihl ihr => simp only [withLevel, value, ihl, ihr]

variable {e : Expr} {n : Nat}

theorem evaluate_of_turns {v : Number} (h : Turns n (start e) ⟨[], [v]⟩) :
    e.evaluate = .ok v := by
  have outcome : run [.visit e] [] = run [] [v] := h.run_eq
  rw [run_visit_nil, run] at outcome
  rw [evaluate_eq_value]
  cases value : e.value with
  | error error => simp [value] at outcome
  | ok w => simpa [value] using outcome

theorem evaluate_of_failed_turn {task : Task} {pending : List Task} {results : List Number}
    {error : ArithmeticError} (h : Turns n (start e) ⟨task :: pending, results⟩)
    (failed : turn task pending results = .error (.failed error)) : e.evaluate = .error error := by
  have outcome : run [.visit e] [] = .error (.failed error) := by
    calc run [.visit e] [] = run (task :: pending) results := h.run_eq
      _ = .error (.failed error) := by rw [run_cons, failed]; rfl
  rw [run_visit_nil] at outcome
  rw [evaluate_eq_value]
  cases value : e.value with
  | error found => simpa [value] using outcome
  | ok w => simp [value] at outcome

theorem turns_le (e : Expr) {c : Config} (h : Turns n (start e) c) :
    n + totalSteps c.pending = (Task.visit e).steps := by
  have total := h.totalSteps_eq
  simp only [start, totalSteps] at total
  omega

/-- The machine computes the value of an expression, which is given by recursion on the tree: left
operand, right operand, operation, and the first error ends it. Its loop goes through a number of
turns that depends on the tree alone or is ended by that error, each operation finds its two
results, one result is left, and the levels of the nodes play no part. -/
theorem evaluate_refines_value (e : Expr) :
    e.evaluate = e.value ∧
      (∀ n c, Turns n (start e) c → n ≤ (Task.visit e).steps) ∧
      (∀ n op pending results, Turns n (start e) ⟨.apply op :: pending, results⟩ →
        2 ≤ results.length) ∧
      (∀ n results, Turns n (start e) ⟨[], results⟩ → results.length = 1) ∧
      ((∃ v, Turns (Task.visit e).steps (start e) ⟨[], [v]⟩ ∧ e.evaluate = .ok v) ∨
        ∃ n task pending results error, Turns n (start e) ⟨task :: pending, results⟩ ∧
          turn task pending results = .error (.failed error) ∧ e.evaluate = .error error) ∧
      (∀ level (e' : Expr), e'.withLevel level = e.withLevel level →
        e'.evaluate = e.evaluate) := by
  refine ⟨evaluate_eq_value e, ?_, ?_, ?_, ?_, ?_⟩
  · intro n c h
    have := turns_le e h
    omega
  · intro n op pending results h
    exact (h.supplied (supplied_start e)).1
  · intro n results h
    exact h.supplied (supplied_start e)
  · rcases exists_turns_to_end (supplied_start e) with
      ⟨n, v, h⟩ | ⟨n, task, pending, results, error, h, failed⟩
    · have all : n = (Task.visit e).steps := turns_le e h
      subst all
      exact .inl ⟨v, h, evaluate_of_turns h⟩
    · exact .inr ⟨n, task, pending, results, error, h, failed, evaluate_of_failed_turn h failed⟩
  · intro level e' same
    rw [evaluate_eq_value, evaluate_eq_value, ← value_withLevel level e', same, value_withLevel]

theorem evaluate_refines_value_difference :
    let e := binary .sub (number 2) (binary .sub (number (-3)) (number 4) .multiplicative)
      .multiplicative
    e.evaluate = .ok (.int 9) ∧ (∀ n c, Turns n (start e) c → n ≤ 7) ∧
      (binary .sub (number 2) (binary .sub (number (-3)) (number 4) .additive) .additive).evaluate =
        .ok (.int 9) := by
  intro e
  obtain ⟨same, turns, -, -, -, levels⟩ := evaluate_refines_value e
  have evaluated : e.evaluate = .ok (.int 9) := same
  have steps : (Task.visit e).steps = 7 := by simp [e, Task.steps]
  rw [steps] at turns
  refine ⟨evaluated, turns, ?_⟩
  rw [← evaluated]
  exact levels .additive _ rfl

end InfixCalculator.Expr
