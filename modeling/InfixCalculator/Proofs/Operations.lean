import InfixCalculator.Proofs.Division
import InfixCalculator.Proofs.NumberKind

/-! # Operations on numbers of all kinds

An integer beside a binary64 number is rounded before the operation, or is too large for that. A
division by zero comes before both. Main statements: `toFloat?_eq_some_iff` says which binary64
number takes an integer's place, `apply_outcome` what every operation comes to.
-/
namespace InfixCalculator

namespace Binary64

variable {n : ℤ} {x : Float}

theorem ofInt?_eq_none_iff : ofInt? n = none ↔ 2 ^ 1024 - 2 ^ 970 ≤ |n| := by
  have threshold := overflow_le_natAbs_iff n 1
  rw [abs_one, one_mul, Int.natAbs_one] at threshold
  rw [ofInt?, ofRatio?_eq_none_iff one_pos, threshold]

theorem correctlyRounded_of_ofInt? (h : ofInt? n = some x) : CorrectlyRounded n x := by
  have rounded := correctlyRounded_of_ofRatio? h one_pos
  rw [cast_eq_signed]
  simpa using rounded

theorem isSignMinus_of_ofInt? (h : ofInt? n = some x) : isSignMinus x ↔ n < 0 := by
  rw [isSignMinus_of_ofRatio? h, decide_eq_true_eq]

theorem beq_zero_iff_eq : (x == 0.0) = true ↔ x = 0.0 ∨ x = -0.0 := by
  constructor
  · intro zero
    obtain ⟨finite, value⟩ := beq_zero_iff.mp zero
    have x_eq := ofPattern_pattern finite
    rw [(toRat_eq_zero_iff finite).mp value] at x_eq
    cases sign : isSignMinus x with
    | false => exact .inl (x_eq.symm.trans (by rw [sign]; rfl))
    | true => exact .inr (x_eq.symm.trans (by rw [sign]; rfl))
  · intro zero
    rcases zero with rfl | rfl <;> rfl

end Binary64

open Binary64

namespace Number

def IsZero (v : Number) : Prop :=
  v = .int 0 ∨ v = .float 0.0 ∨ v = .float (-0.0)

def IsFloat (v : Number) : Prop :=
  ∃ x, v = .float x

/-- An integer that would be rounded to 2^1024 or beyond. -/
def BeyondRange (v : Number) : Prop :=
  ∃ n : ℤ, v = .int n ∧ 2 ^ 1024 - 2 ^ 970 ≤ |n|

/-- The binary64 number that takes a number's place in an operation. -/
inductive RoundsTo : Number → Float → Prop
  | int {n : ℤ} {x : Float} : |n| < 2 ^ 1024 - 2 ^ 970 → CorrectlyRounded n x →
      (isSignMinus x ↔ n < 0) → RoundsTo (.int n) x
  | float (x : Float) : RoundsTo (.float x) x

variable {v : Number} {x : Float}

theorem isZero_iff : v.isZero ↔ v.IsZero := by
  cases v with
  | int n => simp [isZero, IsZero]
  | float x => simp [isZero, IsZero, beq_zero_iff_eq]

theorem toFloat?_eq_none_iff : v.toFloat? = none ↔ v.BeyondRange := by
  cases v with
  | int n =>
    rw [toFloat?, ofInt?_eq_none_iff]
    constructor
    · intro beyond
      exact ⟨n, rfl, beyond⟩
    · intro beyond
      obtain ⟨m, same, beyond⟩ := beyond
      cases same
      exact beyond
  | float x =>
    refine iff_of_false nofun ?_
    intro beyond
    obtain ⟨n, same, -⟩ := beyond
    cases same

instance (v : Number) : Decidable v.IsZero :=
  decidable_of_iff _ isZero_iff

instance (v : Number) : Decidable v.BeyondRange :=
  decidable_of_iff (v.toFloat?.isNone = true) (Option.isNone_iff_eq_none.trans toFloat?_eq_none_iff)

/-- The nearest number is unique, and an integer has one unless it is beyond the range. -/
theorem toFloat?_eq_some_iff : v.toFloat? = some x ↔ v.RoundsTo x := by
  constructor
  · intro rounded
    cases v with
    | int n =>
      have inRange : ofInt? n ≠ none := Option.ne_none_iff_exists'.mpr ⟨x, rounded⟩
      rw [ne_eq, ofInt?_eq_none_iff, not_le] at inRange
      exact .int inRange (correctlyRounded_of_ofInt? rounded) (isSignMinus_of_ofInt? rounded)
    | float y =>
      cases rounded
      exact .float x
  · intro rounds
    cases rounds with
    | @int n _ inRange rounded sign =>
      have has_nearest : ofInt? n ≠ none := by rwa [ne_eq, ofInt?_eq_none_iff, not_le]
      obtain ⟨y, hy⟩ := Option.ne_none_iff_exists'.mp has_nearest
      have same_sign : isSignMinus y = isSignMinus x :=
        Bool.eq_iff_iff.mpr ((isSignMinus_of_ofInt? hy).trans sign.symm)
      rw [toFloat?, hy, (correctlyRounded_of_ofInt? hy).unique rounded same_sign]
    | float => rfl

theorem exists_roundsTo (inRange : ¬ v.BeyondRange) : ∃ x, v.RoundsTo x := by
  rw [← toFloat?_eq_none_iff] at inRange
  obtain ⟨x, rounded⟩ := Option.ne_none_iff_exists'.mp inRange
  exact ⟨x, toFloat?_eq_some_iff.mp rounded⟩

end Number

namespace Operator

variable {op : Operator} {a b : Number} {x y : Float}

/-- The operation fails because its result is too large. -/
def TooLarge (op : Operator) (a b : Number) : Prop :=
  (op.apply a b).mapError ArithmeticError.summary =
    .error ("Result of " ++ op.name ++ " is too large to represent")

theorem tooLarge_of_apply (h : op.apply a b = .error (.resultTooLarge op)) : op.TooLarge a b := by
  rw [TooLarge, h]
  rfl

theorem apply_div_zero (a : Number) (zero : b.IsZero) :
    div.apply a b = .error .divisionByZero :=
  if_pos ⟨rfl, Number.isZero_iff.mpr zero⟩

theorem exists_integer? (m n : ℤ) (no_division : op ≠ div) : ∃ k, op.integer? m n = some k :=
  Option.ne_none_iff_exists'.mp (integer?_eq_none_iff.not.mpr no_division)

theorem apply_float (divisible : ¬(op = div ∧ b.IsZero)) (float : a.IsFloat ∨ b.IsFloat) :
    op.apply a b = op.finiteResult do return op.applyFloat (← a.toFloat?) (← b.toFloat?) := by
  rw [← Number.isZero_iff] at divisible
  unfold apply
  rw [if_neg divisible]
  obtain ⟨x, rfl⟩ | ⟨y, rfl⟩ := float
  · rfl
  · cases a <;> rfl

theorem apply_beyondRange (divisible : ¬(op = div ∧ b.IsZero)) (float : a.IsFloat ∨ b.IsFloat)
    (beyond : a.BeyondRange ∨ b.BeyondRange) : op.apply a b = .error (.resultTooLarge op) := by
  rw [apply_float divisible float]
  rw [← Number.toFloat?_eq_none_iff, ← Number.toFloat?_eq_none_iff] at beyond
  rcases beyond with none_a | none_b
  · rw [none_a]
    rfl
  · rw [none_b]
    cases a.toFloat? <;> rfl

theorem apply_rounded (divisible : ¬(op = div ∧ b.IsZero)) (float : a.IsFloat ∨ b.IsFloat)
    (ha : a.RoundsTo x) (hb : b.RoundsTo y) :
    op.apply a b = if (op.applyFloat x y).isFinite then .ok (.float (op.applyFloat x y))
      else .error (.resultTooLarge op) := by
  rw [apply_float divisible float, Number.toFloat?_eq_some_iff.mpr ha,
    Number.toFloat?_eq_some_iff.mpr hb]
  rfl

/-- A binary64 operation without a result in range fails as too large, and in no other way. -/
theorem finiteResult_eq_error_or_ok (op : Operator) (result : Option Float) :
    op.finiteResult result = .error (.resultTooLarge op) ∨
      ∃ v, op.finiteResult result = .ok v ∧ ∀ x, v = .float x → x.isFinite := by
  unfold finiteResult
  split
  · next x =>
    split
    · next finite =>
      refine .inr ⟨.float x, rfl, ?_⟩
      intro y same
      cases same
      exact finite
    · exact .inl rfl
  · exact .inl rfl

theorem apply_eq_error_or_ok (divisible : ¬(op = div ∧ b.IsZero)) :
    op.apply a b = .error (.resultTooLarge op) ∨
      ∃ v, op.apply a b = .ok v ∧ ∀ x, v = .float x → x.isFinite := by
  cases a with
  | float x =>
    rw [apply_float divisible (.inl ⟨x, rfl⟩)]
    exact finiteResult_eq_error_or_ok _ _
  | int m =>
    cases b with
    | float y =>
      rw [apply_float divisible (.inr ⟨y, rfl⟩)]
      exact finiteResult_eq_error_or_ok _ _
    | int n =>
      by_cases division : op = div
      · subst division
        have nonzero : n ≠ 0 := by
          intro zero
          exact divisible ⟨rfl, .inl (congrArg _ zero)⟩
        rw [apply_div_int m nonzero]
        exact finiteResult_eq_error_or_ok _ _
      · obtain ⟨k, exact_eq⟩ := exists_integer? m n division
        exact .inr ⟨.int k, apply_of_integer? exact_eq, nofun⟩

/-- What an operation on any two numbers comes to. Dividing by a zero of any kind fails as such, be
the dividend too large or not a number. Otherwise sums, differences and products of two integers are
exact, and an integer beside a binary64 number is rounded first. What is too large to be rounded and
what has no result in range fails, with the operator's name. -/
theorem apply_outcome (op : Operator) (a b : Number) :
    (op = div ∧ b.IsZero →
      (op.apply a b).mapError ArithmeticError.summary = .error "Division by zero") ∧
    (¬(op = div ∧ b.IsZero) →
      (∀ m n, a = .int m → b = .int n → op ≠ div →
        ∃ k, op.integer? m n = some k ∧ op.apply a b = .ok (.int k)) ∧
      (a.IsFloat ∨ b.IsFloat →
        (a.BeyondRange ∨ b.BeyondRange → op.TooLarge a b) ∧
        (¬(a.BeyondRange ∨ b.BeyondRange) → ∃ x y, a.RoundsTo x ∧ b.RoundsTo y ∧
          ((op.applyFloat x y).isFinite → op.apply a b = .ok (.float (op.applyFloat x y))) ∧
          (¬(op.applyFloat x y).isFinite → op.TooLarge a b))) ∧
      (op.TooLarge a b ∨ ∃ v, op.apply a b = .ok v ∧ ∀ x, v = .float x → x.isFinite)) := by
  refine ⟨?_, ?_⟩
  · intro zero
    obtain ⟨rfl, zero⟩ := zero
    rw [apply_div_zero a zero]
    rfl
  · intro divisible
    refine ⟨?_, ?_, ?_⟩
    · intro m n ha hb no_division
      subst ha hb
      obtain ⟨k, exact_eq⟩ := exists_integer? m n no_division
      exact ⟨k, exact_eq, apply_of_integer? exact_eq⟩
    · intro float
      refine ⟨fun beyond => tooLarge_of_apply (apply_beyondRange divisible float beyond), ?_⟩
      intro inRange
      obtain ⟨a_inRange, b_inRange⟩ := not_or.mp inRange
      obtain ⟨x, hx⟩ := Number.exists_roundsTo a_inRange
      obtain ⟨y, hy⟩ := Number.exists_roundsTo b_inRange
      have outcome := apply_rounded divisible float hx hy
      refine ⟨x, y, hx, hy, ?_, ?_⟩
      · intro finite
        rw [outcome, if_pos finite]
      · intro infinite
        exact tooLarge_of_apply (outcome.trans (if_neg infinite))
    · exact (apply_eq_error_or_ok divisible).imp_left tooLarge_of_apply

/-- An integer far beyond the range, the least one beyond it, and the least one that is rounded. -/
theorem apply_outcome_large_integers :
    (div.apply (.int (10 ^ 400)) (.float (-0.0))).mapError ArithmeticError.summary =
        .error "Division by zero" ∧
      mul.TooLarge (.float 0.0) (.int (2 ^ 1024 - 2 ^ 970)) ∧
      sub.apply (.int (2 ^ 53 + 1)) (.float 1.0) = .ok (.float 9007199254740991.0) := by
  have zero : (Number.float (-0.0)).IsZero := .inr (.inr rfl)
  obtain ⟨-, mul_outcome⟩ := apply_outcome mul (.float 0.0) (.int (2 ^ 1024 - 2 ^ 970))
  obtain ⟨-, sub_outcome⟩ := apply_outcome sub (.int (2 ^ 53 + 1)) (.float 1.0)
  refine ⟨(apply_outcome div (.int (10 ^ 400)) (.float (-0.0))).1 ⟨rfl, zero⟩, ?_, ?_⟩
  · exact ((mul_outcome nofun).2.1 (.inl ⟨0.0, rfl⟩)).1 (.inr (by decide +kernel))
  · have inRange := ((sub_outcome nofun).2.1 (.inr ⟨1.0, rfl⟩)).2 (by decide +kernel)
    obtain ⟨x, y, hx, hy, finite, -⟩ := inRange
    have rounded : (Number.int (2 ^ 53 + 1)).toFloat? = some 9007199254740992.0 := by
      decide +kernel
    have x_eq := Option.some.inj ((Number.toFloat?_eq_some_iff.mpr hx).symm.trans rounded)
    have y_eq : y = 1.0 := Option.some.inj (Number.toFloat?_eq_some_iff.mpr hy).symm
    have difference : sub.applyFloat 9007199254740992.0 1.0 = 9007199254740991.0 := by
      decide +kernel
    rw [x_eq, y_eq, difference] at finite
    exact finite (by decide +kernel)

end Operator

end InfixCalculator
