import InfixCalculator.Number.Rounding
import InfixCalculator.Number.Arithmetic

/-! # Division of integers

A quotient of two integers of any size is rounded once, from the exact quotient. Main statement:
`apply_div_correctlyRounded`.
-/
namespace InfixCalculator

namespace Binary64

theorem cast_eq_signed (n : ℤ) : (n : ℚ) = if n < 0 then -(n.natAbs : ℚ) else n.natAbs := by
  rw [Nat.cast_natAbs, Int.cast_abs]
  split
  · next negative => rw [abs_of_neg (Int.cast_lt_zero.mpr negative), neg_neg]
  · next nonneg => rw [abs_of_nonneg (Int.cast_nonneg (not_lt.mp nonneg))]

theorem cast_div_eq_signed (a b : ℤ) :
    (a / b : ℚ) = if decide (a < 0) != decide (b < 0) then -((a.natAbs : ℚ) / b.natAbs)
      else (a.natAbs : ℚ) / b.natAbs := by
  rw [cast_eq_signed a, cast_eq_signed b]
  by_cases ha : a < 0 <;> by_cases hb : b < 0 <;> simp only [ha, hb] <;> simp [neg_div, div_neg]

theorem overflow_le_natAbs_iff (a b : ℤ) :
    b.natAbs * (2 ^ 1024 - 2 ^ 970) ≤ a.natAbs ↔ |b| * (2 ^ 1024 - 2 ^ 970) ≤ |a| := by
  have smaller : 2 ^ 970 ≤ 2 ^ 1024 := pow_le_pow_right₀ one_le_two (by decide)
  rw [← Int.natCast_natAbs, ← Int.natCast_natAbs, ← Int.ofNat_le, Nat.cast_mul,
    Nat.cast_sub smaller, Nat.cast_pow 2 1024, Nat.cast_pow 2 970, Nat.cast_ofNat]

theorem natAbs_le_underflow_iff (a b : ℤ) :
    a.natAbs * 2 ^ 1075 ≤ b.natAbs ↔ |a| * 2 ^ 1075 ≤ |b| := by
  rw [← Int.natCast_natAbs, ← Int.natCast_natAbs, ← Int.ofNat_le, Nat.cast_mul,
    Nat.cast_pow 2 1075, Nat.cast_ofNat]

variable {a b : ℤ} {x : Float}

theorem quotient?_eq_none_iff (nonzero : b ≠ 0) :
    quotient? a b = none ↔ |b| * (2 ^ 1024 - 2 ^ 970) ≤ |a| := by
  rw [quotient?, ofRatio?_eq_none_iff (Int.natAbs_pos.mpr nonzero), overflow_le_natAbs_iff]

theorem correctlyRounded_of_quotient? (h : quotient? a b = some x) (nonzero : b ≠ 0) :
    CorrectlyRounded (a / b) x := by
  rw [cast_div_eq_signed]
  exact correctlyRounded_of_ofRatio? h (Int.natAbs_pos.mpr nonzero)

end Binary64

namespace Operator

open Binary64

theorem apply_div_int (a : ℤ) {b : ℤ} (nonzero : b ≠ 0) :
    div.apply (.int a) (.int b) = div.finiteResult (quotient? a b) := by
  simp [apply, Number.isZero, nonzero, applyInt]

/-- The quotient of two integers of any size is the number nearest to the exact one, a tie going to
the even significand. Only quotients that would be rounded to 2^1024 or beyond are too large. What
is rounded to zero keeps its sign. -/
theorem apply_div_correctlyRounded (a b : ℤ) (nonzero : b ≠ 0) :
    ((div.apply (.int a) (.int b)).mapError ArithmeticError.summary =
        .error "Result of DIV is too large to represent" ↔
      |b| * (2 ^ 1024 - 2 ^ 970) ≤ |a|) ∧
    (|a| < |b| * (2 ^ 1024 - 2 ^ 970) →
      ∃ x, div.apply (.int a) (.int b) = .ok (.float x) ∧ CorrectlyRounded (a / b) x ∧
        (toRat x = 0 ↔ |a| * 2 ^ 1075 ≤ |b|) ∧
        (isSignMinus x ↔ ¬(a < 0 ↔ b < 0)) ∧
        (|a| * 2 ^ 1075 ≤ |b| → ¬(a < 0 ↔ b < 0) → x = -0.0)) := by
  have pos := Int.natAbs_pos.mpr nonzero
  have outOfRange := quotient?_eq_none_iff (a := a) nonzero
  rw [apply_div_int a nonzero, ← outOfRange, ← not_le, ← outOfRange]
  cases quotient : quotient? a b with
  | none => exact ⟨iff_of_true rfl rfl, fun inRange => absurd rfl inRange⟩
  | some x =>
    have rounded := correctlyRounded_of_quotient? quotient nonzero
    have result : div.finiteResult (some x) = .ok (.float x) := if_pos rounded.finite
    rw [result]
    refine ⟨iff_of_false nofun nofun, fun _ => ⟨x, rfl, rounded, ?_, ?_, ?_⟩⟩
    · rw [toRat_eq_zero_iff_of_ofRatio? quotient pos, natAbs_le_underflow_iff]
    · rw [isSignMinus_of_ofRatio? quotient]
      simp
    · intro small unlike
      rw [eq_zero_of_ofRatio? quotient pos ((natAbs_le_underflow_iff a b).mpr small), if_pos]
      simpa using unlike

example : div.apply (.int 0) (.int (-5)) = .ok (.float (-0.0)) := rfl

theorem apply_div_correctlyRounded_third :
    div.apply (.int 1) (.int (-3)) = .ok (.float (Float.ofBits 0xbfd5555555555555)) ∧
      CorrectlyRounded ((1 : ℤ) / (-3 : ℤ)) (Float.ofBits 0xbfd5555555555555) := by
  have inRange : |(1 : ℤ)| < |-3| * (2 ^ 1024 - 2 ^ 970) := by decide +kernel
  have quotient : quotient? 1 (-3) = some (Float.ofBits 0xbfd5555555555555) := by decide +kernel
  obtain ⟨x, result, rounded, -⟩ := (apply_div_correctlyRounded 1 (-3) (by decide)).2 inRange
  have computed : div.apply (.int 1) (.int (-3)) =
      .ok (.float (Float.ofBits 0xbfd5555555555555)) := by
    rw [apply_div_int 1 (by decide), quotient]
    rfl
  cases computed.symm.trans result
  exact ⟨computed, rounded⟩

end Operator

end InfixCalculator
