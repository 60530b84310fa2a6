import InfixCalculator.Number.Encoding

/-! # The exact values of binary64 numbers

A number in range stands for a dyadic rational: sign and significand times a power of two. In units
of 2^-1074 this is an integer, the one that `units` gives for the bit pattern without the sign. Main
statements: `isFinite_iff`, `toRat_eq`, `units_strictMono`.
-/
namespace InfixCalculator.Binary64

open Float.Model (Format UnpackedFloat)
open Float.Model.UnpackedFloat

/-- The exact value of a number in range; infinities and NaNs have none and count as zero. -/
def unpackedValue : UnpackedFloat → ℚ
  | .finite sign mantissa exponent _ => sign.apply mantissa * 2 ^ exponent
  | _ => 0

def toRat (x : Float) : ℚ := unpackedValue x.toModel.unpack

/-- The bit pattern without the sign. -/
def pattern (x : Float) : Nat := x.toBits.toNat % signBit

def isSignMinus (x : Float) : Bool := signBit ≤ x.toBits.toNat

/-- The value in units of 2^-1074. -/
def signedUnits (x : Float) : ℤ :=
  if isSignMinus x then -units (pattern x) else units (pattern x)

theorem natAbs_signedUnits (x : Float) : (signedUnits x).natAbs = units (pattern x) := by
  unfold signedUnits; split <;> simp

theorem units_subnormal {p : Nat} (h : p < binade) : units p = p := if_pos h

theorem units_normal {p : Nat} (h : binade ≤ p) :
    units p = (binade + p % binade) * 2 ^ (p / binade - 1) := by
  rw [units, if_neg (Nat.not_lt.mpr h), Nat.shiftLeft_eq]

theorem units_binade (k : Nat) {m : Nat} (h : m < binade) :
    units ((k + 1) * binade + m) = (binade + m) * 2 ^ k := by
  have exponent : ((k + 1) * binade + m) / binade = k + 1 := by unfold binade at *; omega
  have fraction : ((k + 1) * binade + m) % binade = m := by unfold binade at *; omega
  rw [units_normal (by unfold binade; omega), exponent, fraction, Nat.add_sub_cancel]

theorem units_eq_zero_iff {p : Nat} : units p = 0 ↔ p = 0 := by
  have pos : 0 < binade := by decide
  rcases Nat.lt_or_ge p binade with small | large
  · rw [units_subnormal small]
  · rw [units_normal large, mul_eq_zero, pow_eq_zero_iff']
    omega

/-- Every pattern stands for more units than the one before it. -/
theorem units_strictMono : StrictMono units := by
  refine strictMono_nat_of_lt_succ fun p => ?_
  rcases Nat.lt_or_ge p binade with subnormal | normal
  · rw [units_subnormal subnormal]
    rcases Nat.eq_or_lt_of_le (show p + 1 ≤ binade from subnormal) with first | subnormal'
    · have first_units : units binade = binade := units_binade 0 (show 0 < binade by decide)
      rw [first, first_units]
      exact subnormal
    · rw [units_subnormal subnormal']
      exact Nat.lt_succ_self p
  · obtain ⟨k, m, fraction_lt, rfl⟩ : ∃ k m, m < binade ∧ p = (k + 1) * binade + m := by
      refine ⟨p / binade - 1, p % binade, Nat.mod_lt p (by decide), ?_⟩
      unfold binade at *
      omega
    rw [units_binade k fraction_lt]
    rcases Nat.eq_or_lt_of_le (show m + 1 ≤ binade from fraction_lt) with carry | within
    · have next : (k + 1) * binade + m + 1 = (k + 1 + 1) * binade + 0 := by
        rw [Nat.add_assoc, carry]
        ring
      rw [next, units_binade (k + 1) (by decide), Nat.add_zero, Nat.pow_succ', ← Nat.mul_assoc]
      exact Nat.mul_lt_mul_of_pos_right (by omega) (by positivity)
    · rw [Nat.add_assoc, units_binade k within]
      exact Nat.mul_lt_mul_of_pos_right (by omega) (by positivity)

theorem apply_signField (b : BitVec 64) (n : ℤ) :
    (Sign.ofBitVec (signField b)).apply n = if signBit ≤ b.toNat then -n else n := by
  have bit := toNat_signField b
  have := b.isLt
  unfold signBit
  rcases BitVec.eq_zero_or_eq_one (signField b) with zero | one
  · rw [zero] at bit ⊢
    rw [if_neg (by simp at bit; omega)]
    rfl
  · rw [one] at bit ⊢
    rw [if_pos (by simp at bit; omega)]
    rfl

theorem toNat_exponentField_eq (b : BitVec 64) :
    (exponentField b).toNat = b.toNat % signBit / binade := by
  rw [toNat_exponentField]
  unfold signBit binade
  omega

theorem toNat_fractionField_eq (b : BitVec 64) :
    (fractionField b).toNat = b.toNat % signBit % binade := by
  rw [toNat_fractionField]
  unfold signBit binade
  omega

theorem exponentField_ne_iff {bits : UInt64} :
    exponentField bits.toBitVec ≠ -1#_ ↔ bits.toNat % signBit < infinity := by
  refine ⟨fun h => ?_, exponentField_ne⟩
  have exponent := toNat_exponentField_eq bits.toBitVec
  have field_ne : (exponentField bits.toBitVec).toNat ≠ 2047 := fun ones =>
    h (BitVec.eq_of_toNat_eq ones)
  have field_lt := (exponentField bits.toBitVec).isLt
  change _ = bits.toNat % signBit / binade at exponent
  unfold infinity binade at *
  omega

theorem isFinite_iff {x : Float} : x.isFinite ↔ pattern x < infinity := by
  refine ⟨fun finite => exponentField_ne_iff.mp fun ones => ?_, isFinite_of_toBits⟩
  change (UnpackedFloat.unpack Format.binary64 x.toBits.toBitVec).isFinite = true at finite
  unfold UnpackedFloat.unpack at finite
  simp only [ones, if_true] at finite
  split at finite <;> exact Bool.false_ne_true finite

theorem two_zpow_sub (e : Nat) : (2 : ℚ) ^ ((e : ℤ) - 1074) = 2 ^ e / 2 ^ 1074 := by
  rw [zpow_sub₀ two_ne_zero, zpow_natCast]
  rfl

theorem apply_mul (s : Sign) (m n : ℤ) : s.apply (m * n) = s.apply m * n := by
  cases s
  · exact neg_mul_eq_neg_mul m n
  · rfl

/-- What is unpacked from a bit pattern has the value of the pattern's units. -/
theorem unpackedValue_unpack {b : BitVec 64} (h : exponentField b ≠ -1#_) :
    unpackedValue (UnpackedFloat.unpack Format.binary64 b) =
      (Sign.ofBitVec (signField b)).apply (units (b.toNat % signBit)) / 2 ^ 1074 := by
  have exponent := toNat_exponentField_eq b
  have fraction := toNat_fractionField_eq b
  have bias : ((Format.binary64.exponentBias : ℤ) + (52 : ℕ)) = 1075 := rfl
  generalize b.toNat % signBit = p at *
  unfold UnpackedFloat.unpack
  simp only [h, if_false, bias]
  by_cases subnormal : p < binade
  · have zero_exponent : exponentField b = 0#11 :=
      BitVec.eq_of_toNat_eq (exponent.trans (Nat.div_eq_of_lt subnormal))
    rw [Nat.mod_eq_of_lt subnormal] at fraction
    rw [if_pos zero_exponent, units_subnormal subnormal, ← fraction]
    by_cases zero_fraction : fractionField b = 0#52
    · rw [dif_pos zero_fraction, zero_fraction]
      cases Sign.ofBitVec (signField b) <;> simp [unpackedValue, Sign.apply]
    · have least : ((exponentField b).toNat : ℤ) - 1075 + 1 = (0 : ℕ) - 1074 := by
        rw [zero_exponent]; rfl
      rw [dif_neg zero_fraction]
      simp only [unpackedValue]
      rw [least, two_zpow_sub, pow_zero, mul_one_div]
  · have pos : 0 < (exponentField b).toNat :=
      exponent ▸ Nat.div_pos (Nat.not_lt.mp subnormal) (by decide)
    have exponent_ne : exponentField b ≠ 0#11 := fun zero => by simp [zero] at pos
    have significand : (1#1 ++ fractionField b).toNat = binade + (fractionField b).toNat := by
      rw [toNat_append]; rfl
    have above : ((exponentField b).toNat : ℤ) - 1075 =
        ((exponentField b).toNat - 1 : ℕ) - 1074 := by omega
    rw [if_neg exponent_ne, units_normal (Nat.not_lt.mp subnormal), ← exponent, ← fraction,
      ← significand]
    simp only [unpackedValue]
    rw [above, two_zpow_sub, Nat.cast_mul, apply_mul]
    push_cast
    rw [mul_div_assoc]

/-- The exact value of a number in range is its units. -/
theorem toRat_eq {x : Float} (finite : x.isFinite) : toRat x = signedUnits x / 2 ^ 1074 := by
  have value := unpackedValue_unpack (exponentField_ne_iff.mpr (isFinite_iff.mp finite))
  rw [apply_signField] at value
  rw [signedUnits, isSignMinus]
  simp only [decide_eq_true_eq]
  exact value

theorem toRat_eq_zero_iff {x : Float} (finite : x.isFinite) : toRat x = 0 ↔ pattern x = 0 := by
  have unit_ne : (2 : ℚ) ^ 1074 ≠ 0 := pow_ne_zero _ two_ne_zero
  rw [toRat_eq finite, div_eq_zero_iff, or_iff_left unit_ne, Int.cast_eq_zero, signedUnits,
    ← units_eq_zero_iff]
  split <;> omega

@[simp] theorem isSignMinus_ofPattern (negative : Bool) {p : Nat} (h : p < infinity) :
    isSignMinus (ofPattern negative p) = negative := by
  rw [isSignMinus, toNat_toBits_ofPattern negative h]
  unfold infinity binade at h
  cases negative <;> simp [signBit]
  omega

@[simp] theorem pattern_ofPattern (negative : Bool) {p : Nat} (h : p < infinity) :
    pattern (ofPattern negative p) = p := by
  rw [pattern, toNat_toBits_ofPattern negative h]
  unfold infinity binade at h
  cases negative <;> simp [signBit] <;> omega

theorem eq_of_toBits {x y : Float} (same : x.toBits = y.toBits) : x = y := by
  obtain ⟨bits, valid⟩ := x
  obtain ⟨bits', valid'⟩ := y
  cases same
  rfl

/-- A number in range is given by its sign and its pattern. -/
theorem ofPattern_pattern {x : Float} (finite : x.isFinite) :
    ofPattern (isSignMinus x) (pattern x) = x := by
  apply eq_of_toBits
  apply UInt64.toNat_inj.mp
  rw [toNat_toBits_ofPattern _ (isFinite_iff.mp finite)]
  have := x.toBits.toNat_lt
  unfold isSignMinus pattern signBit
  simp only [decide_eq_true_eq]
  split <;> omega

/-- Zeros are the numbers in range whose value is zero. -/
theorem beq_zero_iff {x : Float} : (x == 0.0) = true ↔ x.isFinite ∧ toRat x = 0 := by
  change (x.toModel.unpack.compare (.zero .positive) == some .eq) = true ↔
    x.toModel.unpack.isFinite = true ∧ unpackedValue x.toModel.unpack = 0
  cases x.toModel.unpack with
  | infinity sign => cases sign <;> decide
  | notANumber => decide
  | zero sign => cases sign <;> decide
  | finite sign mantissa exponent pos =>
    have mantissa_ne : (mantissa : ℚ) ≠ 0 := Nat.cast_ne_zero.mpr pos.ne'
    have scale_ne : (2 : ℚ) ^ exponent ≠ 0 := zpow_ne_zero _ two_ne_zero
    cases sign <;>
      simp [UnpackedFloat.compare, unpackedValue, Sign.apply, mantissa_ne, scale_ne]

theorem toRat_ofPattern (negative : Bool) {p : ℕ} (inRange : p < infinity) :
    toRat (ofPattern negative p) = (if negative then -(units p : ℚ) else units p) / 2 ^ 1074 := by
  rw [toRat_eq (isFinite_ofPattern negative inRange), signedUnits,
    isSignMinus_ofPattern negative inRange, pattern_ofPattern negative inRange]
  cases negative <;> simp

theorem toRat_ofPattern_inj (negative : Bool) {p r : ℕ} (hp : p < infinity) (hr : r < infinity) :
    toRat (ofPattern negative p) = toRat (ofPattern negative r) ↔ p = r := by
  have unit_ne : (2 : ℚ) ^ 1074 ≠ 0 := pow_ne_zero _ two_ne_zero
  rw [toRat_ofPattern negative hp, toRat_ofPattern negative hr, div_left_inj' unit_ne,
    ← units_strictMono.injective.eq_iff]
  cases negative <;> simp

theorem toNat_toBits_mod_two (x : Float) : x.toBits.toNat % 2 = pattern x % 2 := by
  unfold pattern signBit
  omega

/-- With the same sign, numbers are in the order of their patterns or in the opposite one. -/
theorem toRat_between (negative : Bool) {p r t : ℕ} (lower : p < r) (upper : r < t)
    (inRange : t < infinity) :
    (toRat (ofPattern negative p) < toRat (ofPattern negative r) ∧
        toRat (ofPattern negative r) < toRat (ofPattern negative t)) ∨
      (toRat (ofPattern negative t) < toRat (ofPattern negative r) ∧
        toRat (ofPattern negative r) < toRat (ofPattern negative p)) := by
  have unit_pos : (0 : ℚ) < 2 ^ 1074 := by positivity
  have lower_units : (units p : ℚ) < units r := Nat.cast_lt.mpr (units_strictMono lower)
  have upper_units : (units r : ℚ) < units t := Nat.cast_lt.mpr (units_strictMono upper)
  rw [toRat_ofPattern negative inRange, toRat_ofPattern negative (upper.trans inRange),
    toRat_ofPattern negative (lower.trans (upper.trans inRange))]
  simp only [div_lt_div_iff_of_pos_right unit_pos]
  cases negative with
  | false => exact .inl ⟨lower_units, upper_units⟩
  | true => exact .inr ⟨neg_lt_neg upper_units, neg_lt_neg lower_units⟩

end InfixCalculator.Binary64
