import InfixCalculator.Fuzz.Comparison
import InfixCalculator.Proofs.Operations

/-! # Agreement of two numbers

Two answers that are both numbers are compared as binary64 numbers, so an integer that has none ends
the comparison whatever stands on the other side. `sameValue_of_beq` and `beq_of_sameValue` say what
equality of binary64 numbers means. Main statement: `disagree_outcome`.
-/
namespace InfixCalculator

namespace Binary64

open Float.Model (Format UnpackedFloat)
open Float.Model.UnpackedFloat

variable {x y : Float}

/-- Equal values: zeros of either sign have the same one, and an infinity is equal to itself. -/
def SameValue (x y : Float) : Prop :=
  (x.isFinite ∧ y.isFinite ∧ toRat x = toRat y) ∨ (x.isInf ∧ x = y)

theorem SameValue.refl_of_isFinite (finite : x.isFinite) : SameValue x x :=
  .inl ⟨finite, finite, rfl⟩

/-- The pattern of an infinity is given by its sign. -/
theorem pack_of_unpack_infinity {b : BitVec 64} {s : Sign}
    (h : UnpackedFloat.unpack Format.binary64 b = .infinity s) :
    pack Format.binary64 (.infinity s) = b := by
  have fields := fields_append b
  unfold UnpackedFloat.unpack at h
  dsimp only at h
  split at h
  · next ones =>
    split at h
    · next zero_fraction =>
      change exponentField b = -1#11 at ones
      change fractionField b = 0#52 at zero_fraction
      have sign := UnpackedFloat.infinity.inj h
      rw [ones, zero_fraction, ← toBitVec_ofBitVec (signField b), sign] at fields
      exact fields
    · cases h
  · split at h
    · split at h <;> cases h
    · cases h

theorem eq_of_unpack_infinity {s : Sign} (hx : x.toModel.unpack = .infinity s)
    (hy : y.toModel.unpack = .infinity s) : x = y := by
  apply eq_of_toBits
  apply UInt64.toBitVec_inj.mp
  exact (pack_of_unpack_infinity hx).symm.trans (pack_of_unpack_infinity hy)

/-- A number that is not a NaN is equal to itself. -/
theorem beq_self (number : x.isNaN = false) : (x == x) = true := by
  change x.toModel.unpack.isNaN = false at number
  change (x.toModel.unpack.compare x.toModel.unpack == some .eq) = true
  cases unpacked : x.toModel.unpack with
  | notANumber =>
    rw [unpacked] at number
    cases number
  | infinity s => cases s <;> rfl
  | zero s => rfl
  | finite s m e pos => cases s <;> simp [UnpackedFloat.compare]

/-- Numbers that compare as equal are the same, zeros apart. -/
theorem eq_or_zeros_of_compare {u v : UnpackedFloat} (h : u.compare v = some .eq) :
    u = v ∧ u.isNaN = false ∨ ∃ s t, u = .zero s ∧ v = .zero t := by
  cases u with
  | notANumber => cases h
  | zero s =>
    cases v with
    | zero t => exact .inr ⟨s, t, rfl, rfl⟩
    | notANumber => cases h
    | infinity t => cases t <;> cases h
    | finite t m e pos => cases t <;> cases h
  | infinity s =>
    cases v with
    | infinity t => cases s <;> cases t <;> first | exact .inl ⟨rfl, rfl⟩ | cases h
    | notANumber => cases h
    | zero t => cases s <;> cases h
    | finite t m e pos => cases s <;> cases h
  | finite s m e pos =>
    cases v with
    | notANumber => cases h
    | zero t => cases s <;> cases h
    | infinity t => cases s <;> cases t <;> cases h
    | finite t n f pos' =>
      cases s <;> cases t <;>
        simp [UnpackedFloat.compare, UnpackedFloat.isNaN] at h ⊢ <;> exact ⟨h.2, h.1⟩

theorem isNaN_eq_false_iff : x.isNaN = false ↔ x.isFinite ∨ x.isInf := by
  change x.toModel.unpack.isNaN = false ↔
    x.toModel.unpack.isFinite = true ∨ x.toModel.unpack.isInf = true
  cases x.toModel.unpack <;>
    simp [UnpackedFloat.isNaN, UnpackedFloat.isFinite, UnpackedFloat.isInf]

theorem exists_unpack_infinity (infinite : x.isInf) :
    ∃ s, x.toModel.unpack = .infinity s := by
  change x.toModel.unpack.isInf = true at infinite
  cases hx : x.toModel.unpack with
  | infinity s => exact ⟨s, rfl⟩
  | _ =>
    rw [hx] at infinite
    cases infinite

theorem sameValue_of_beq (h : (x == y) = true) : SameValue x y := by
  have compared : x.toModel.unpack.compare y.toModel.unpack = some .eq := beq_iff_eq.mp h
  obtain ⟨same, number⟩ | ⟨s, t, hx, hy⟩ := eq_or_zeros_of_compare compared
  · rcases isNaN_eq_false_iff.mp number with finite | infinite
    · have finite' : y.toModel.unpack.isFinite = true := same ▸ finite
      exact .inl ⟨finite, finite', congrArg unpackedValue same⟩
    · obtain ⟨s, hx⟩ := exists_unpack_infinity infinite
      exact .inr ⟨infinite, eq_of_unpack_infinity hx (same ▸ hx)⟩
  · refine .inl ⟨?_, ?_, ?_⟩
    · change x.toModel.unpack.isFinite = true
      rw [hx]
      rfl
    · change y.toModel.unpack.isFinite = true
      rw [hy]
      rfl
    · change unpackedValue x.toModel.unpack = unpackedValue y.toModel.unpack
      rw [hx, hy]
      rfl

theorem signedUnits_neg_iff (nonzero : units (pattern x) ≠ 0) :
    signedUnits x < 0 ↔ isSignMinus x = true := by
  unfold signedUnits
  split
  · next minus => exact iff_of_true (by omega) minus
  · next plus => exact iff_of_false (by omega) plus

/-- A value other than zero has one number. -/
theorem eq_of_toRat_eq (hx : x.isFinite) (hy : y.isFinite) (value : toRat x = toRat y)
    (nonzero : toRat x ≠ 0) : x = y := by
  have unit_ne : (2 : ℚ) ^ 1074 ≠ 0 := pow_ne_zero _ two_ne_zero
  rw [ne_eq, toRat_eq_zero_iff hx, ← units_eq_zero_iff] at nonzero
  rw [toRat_eq hx, toRat_eq hy, div_left_inj' unit_ne, Int.cast_inj] at value
  have magnitude : units (pattern x) = units (pattern y) := by
    rw [← natAbs_signedUnits, ← natAbs_signedUnits, value]
  have same_pattern := units_strictMono.injective magnitude
  have same_sign : isSignMinus x = isSignMinus y := by
    rw [Bool.eq_iff_iff, ← signedUnits_neg_iff nonzero,
      ← signedUnits_neg_iff (magnitude ▸ nonzero), value]
  rw [← ofPattern_pattern hx, ← ofPattern_pattern hy, same_pattern, same_sign]

theorem beq_of_sameValue (h : SameValue x y) : (x == y) = true := by
  rcases h with ⟨hx, hy, value⟩ | ⟨infinite, rfl⟩
  · by_cases zero : toRat x = 0
    · have x_zero := beq_zero_iff_eq.mp (beq_zero_iff.mpr ⟨hx, zero⟩)
      have y_zero := beq_zero_iff_eq.mp (beq_zero_iff.mpr ⟨hy, value ▸ zero⟩)
      rcases x_zero with rfl | rfl <;> rcases y_zero with rfl | rfl <;> rfl
    · obtain rfl := eq_of_toRat_eq hx hy value zero
      exact beq_self (isNaN_eq_false_iff.mpr (.inl hx))
  · exact beq_self (isNaN_eq_false_iff.mpr (.inr infinite))

end Binary64

open Binary64

namespace Comparison

variable {own other : Number} {x y : Float}

theorem disagree_numbers (code : String) (own other : Number) :
    disagree code (.number other) (.ok own) = (isCloseNumber own other).map (!·) := rfl

theorem isCloseNumber_of_beyondRange (beyond : own.BeyondRange ∨ other.BeyondRange) :
    isCloseNumber own other = .error .tooLarge := by
  rw [← Number.toFloat?_eq_none_iff, ← Number.toFloat?_eq_none_iff] at beyond
  rw [isCloseNumber]
  rcases beyond with none_own | none_other
  · rw [none_own]
  · rw [none_other]
    cases own.toFloat? <;> rfl

theorem isCloseNumber_of_roundsTo (hx : own.RoundsTo x) (hy : other.RoundsTo y) :
    isCloseNumber own other = .ok (isClose x y) := by
  rw [isCloseNumber, Number.toFloat?_eq_some_iff.mpr hx, Number.toFloat?_eq_some_iff.mpr hy]

theorem isClose_of_sameValue (h : SameValue x y) : isClose x y = true := by
  rw [isClose, beq_of_sameValue h, Bool.true_or]

theorem disagree_of_sameValue (code : String) (hx : own.RoundsTo x) (hy : other.RoundsTo y)
    (same : SameValue x y) : disagree code (.number other) (.ok own) = .ok false := by
  rw [disagree_numbers, isCloseNumber_of_roundsTo hx hy, isClose_of_sameValue same]
  rfl

/-- An integer that can be rounded agrees with itself and with the number it is rounded to. -/
theorem exists_disagree_rounded (code : String) {n : ℤ} (small : |n| < 2 ^ 1024 - 2 ^ 970) :
    ∃ x, (Number.int n).RoundsTo x ∧
      ∀ own ∈ [Number.int n, .float x], ∀ other ∈ [Number.int n, .float x],
        disagree code (.number other) (.ok own) = .ok false := by
  have inRange : ¬ (Number.int n).BeyondRange := by
    rintro ⟨m, same, beyond⟩
    cases same
    exact absurd beyond (not_le.mpr small)
  obtain ⟨x, hx⟩ := Number.exists_roundsTo inRange
  have finite : x.isFinite := by
    cases hx with
    | int _ rounded _ => exact rounded.finite
  have rounds : ∀ v ∈ [Number.int n, .float x], v.RoundsTo x := by
    intro v hv
    simp only [List.mem_cons, List.not_mem_nil, or_false] at hv
    rcases hv with rfl | rfl
    · exact hx
    · exact .float x
  refine ⟨x, hx, ?_⟩
  intro own hown other hother
  exact disagree_of_sameValue code (rounds own hown) (rounds other hother)
    (.refl_of_isFinite finite)

/-- Without two numbers there is nothing to convert. -/
theorem exists_disagree_eq_ok (code : String) {reference : Answer} {own : Except String Number}
    (apart : (∀ b, reference ≠ .number b) ∨ ∀ a, own ≠ .ok a) :
    ∃ differs, disagree code reference own = .ok differs := by
  cases own with
  | error message => cases reference <;> exact ⟨_, rfl⟩
  | ok a =>
    cases reference with
    | number b =>
      rcases apart with no_number | no_value
      · exact absurd rfl (no_number b)
      · exact absurd rfl (no_value a)
    | message text => exact ⟨_, rfl⟩
    | other => exact ⟨_, rfl⟩

/-- What the comparison of two numbers comes to. It fails exactly when one of them is an integer too
large to be rounded, be the other the same integer, an infinity or a NaN. Otherwise both are
rounded, and equal values never differ; so an integer agrees with itself and with the number it is
rounded to. If one side is not a number, the other may be as large as it will. -/
theorem disagree_outcome (code : String) :
    (∀ own other : Number,
      ((disagree code (.number other) (.ok own)).mapError ComparisonError.message =
          .error "int too large to convert to float" ↔
        own.BeyondRange ∨ other.BeyondRange) ∧
      (¬(own.BeyondRange ∨ other.BeyondRange) → ∃ x y, own.RoundsTo x ∧ other.RoundsTo y ∧
        disagree code (.number other) (.ok own) = .ok (!isClose x y) ∧
        (SameValue x y → disagree code (.number other) (.ok own) = .ok false))) ∧
    (∀ n : ℤ, |n| < 2 ^ 1024 - 2 ^ 970 → ∃ x, (Number.int n).RoundsTo x ∧
      ∀ own ∈ [Number.int n, .float x], ∀ other ∈ [Number.int n, .float x],
        disagree code (.number other) (.ok own) = .ok false) ∧
    ∀ reference own, (∀ b, reference ≠ .number b) ∨ (∀ a, own ≠ .ok a) →
      ∃ differs, disagree code reference own = .ok differs := by
  refine ⟨?_, fun _ => exists_disagree_rounded code, fun _ _ => exists_disagree_eq_ok code⟩
  intro own other
  by_cases beyond : own.BeyondRange ∨ other.BeyondRange
  · rw [disagree_numbers, isCloseNumber_of_beyondRange beyond]
    exact ⟨iff_of_true rfl beyond, fun inRange => absurd beyond inRange⟩
  · obtain ⟨own_inRange, other_inRange⟩ := not_or.mp beyond
    obtain ⟨x, hx⟩ := Number.exists_roundsTo own_inRange
    obtain ⟨y, hy⟩ := Number.exists_roundsTo other_inRange
    have judged : disagree code (.number other) (.ok own) = .ok (!isClose x y) := by
      rw [disagree_numbers, isCloseNumber_of_roundsTo hx hy]
      rfl
    refine ⟨iff_of_false ?_ beyond, fun _ => ⟨x, y, hx, hy, judged, ?_⟩⟩
    · rw [judged]
      exact nofun
    · exact disagree_of_sameValue code hx hy

/-- The least integer that is too large, the one below it, and two zeros. -/
theorem disagree_outcome_large_integers :
    let least : ℤ := 2 ^ 1024 - 2 ^ 970
    (disagree "1" (.number (.int least)) (.ok (.int least))).mapError ComparisonError.message =
        .error "int too large to convert to float" ∧
      (disagree "1" (.number (.float (0.0 / 0.0))) (.ok (.int least))).mapError
        ComparisonError.message = .error "int too large to convert to float" ∧
      (∃ differs, disagree "1" (.message "no") (.ok (.int least)) = .ok differs) ∧
      disagree "1" (.number (.int (least - 1))) (.ok (.int (least - 1))) = .ok false ∧
      disagree "1" (.number (.int 0)) (.ok (.float (-0.0))) = .ok false := by
  intro least
  obtain ⟨numbers, integers, others⟩ := disagree_outcome "1"
  have beyond : (Number.int least).BeyondRange := by decide +kernel
  refine ⟨?_, ?_, ?_, ?_, ?_⟩
  · exact (numbers _ _).1.mpr (.inl beyond)
  · exact (numbers _ _).1.mpr (.inl beyond)
  · exact others _ _ (.inl nofun)
  · obtain ⟨x, -, agree⟩ := integers (least - 1) (by decide +kernel)
    exact agree _ List.mem_cons_self _ List.mem_cons_self
  · obtain ⟨x, y, hx, hy, -, agree⟩ := (numbers (.float (-0.0)) (.int 0)).2 (by decide +kernel)
    have zero : (Number.int 0).toFloat? = some 0.0 := by decide +kernel
    obtain rfl : x = -0.0 := (Option.some.inj (Number.toFloat?_eq_some_iff.mpr hx)).symm
    obtain rfl : y = 0.0 := Option.some.inj ((Number.toFloat?_eq_some_iff.mpr hy).symm.trans zero)
    exact agree (sameValue_of_beq rfl)

end Comparison

end InfixCalculator
