import InfixCalculator.Number.Binary64
import Mathlib

/-! # Bit patterns of binary64 numbers

Every pattern below that of infinity, with either sign, encodes one finite number. Main statements:
`ofPattern` gives a finite number, and its bits are the pattern behind the sign bit.
-/
namespace InfixCalculator.Binary64

open Float.Model (Format UnpackedFloat)
open Float.Model.UnpackedFloat

abbrev signField (b : BitVec 64) : BitVec 1 := @unpackSign Format.binary64 b

abbrev exponentField (b : BitVec 64) : BitVec 11 := @unpackExponent Format.binary64 b

abbrev fractionField (b : BitVec 64) : BitVec 52 := @unpackMantissa Format.binary64 b

theorem toBitVec_ofBitVec (s : BitVec 1) : (Sign.ofBitVec s).toBitVec = s := by
  revert s; decide

theorem toNat_append {m n : Nat} (x : BitVec m) (y : BitVec n) :
    (x ++ y).toNat = x.toNat * 2 ^ n + y.toNat := by
  rw [BitVec.toNat_append, ← Nat.shiftLeft_add_eq_or_of_lt y.isLt, Nat.shiftLeft_eq]

theorem ofNat_toNat_self {n : Nat} (x : BitVec n) : BitVec.ofNat n x.toNat = x :=
  BitVec.eq_of_toNat_eq (by rw [BitVec.toNat_ofNat, Nat.mod_eq_of_lt x.isLt])

theorem toNat_signField (b : BitVec 64) : (signField b).toNat = b.toNat / 2 ^ 63 := by
  have := b.isLt
  simp only [unpackSign, BitVec.toNat_cast, BitVec.extractLsb, BitVec.extractLsb'_toNat,
    Nat.shiftRight_eq_div_pow]
  omega

theorem toNat_exponentField (b : BitVec 64) :
    (exponentField b).toNat = b.toNat / 2 ^ 52 % 2 ^ 11 := by
  simp [unpackExponent, Nat.shiftRight_eq_div_pow]

theorem toNat_fractionField (b : BitVec 64) : (fractionField b).toNat = b.toNat % 2 ^ 52 := by
  simp [unpackMantissa]

theorem fields_append (b : BitVec 64) : signField b ++ exponentField b ++ fractionField b = b := by
  apply BitVec.eq_of_toNat_eq
  rw [toNat_append, toNat_append, toNat_signField, toNat_exponentField, toNat_fractionField]
  have := b.isLt
  omega

/-- Unpacking loses nothing of a pattern that is neither infinite nor a NaN. -/
theorem pack_unpack {b : BitVec 64} (h : exponentField b ≠ -1#_) :
    pack Format.binary64 (UnpackedFloat.unpack Format.binary64 b) = b := by
  have fields := fields_append b
  have fraction_lt : (fractionField b).toNat < 2 ^ 52 := (fractionField b).isLt
  unfold UnpackedFloat.unpack
  simp only [h, if_false]
  split
  · next zero_exponent =>
    change exponentField b = 0#11 at zero_exponent
    rw [zero_exponent] at fields
    split
    · next zero_fraction =>
      change fractionField b = 0#52 at zero_fraction
      rw [zero_fraction] at fields
      simp only [pack, packedZero, packComponents, toBitVec_ofBitVec]
      exact fields
    · next fraction_ne =>
      have pos : (fractionField b).toNat ≠ 0 := fun h => fraction_ne (BitVec.eq_of_toNat_eq h)
      have log2_fraction := (Nat.log2_lt pos).mpr fraction_lt
      simp only [pack]
      rw [if_neg, if_neg]
      · simp only [packComponents, toBitVec_ofBitVec]
        exact (congrArg (_ ++ 0#11 ++ ·) (ofNat_toNat_self (fractionField b))).trans fields
      · change ¬ (fractionField b).toNat.log2 + 1 = 53
        omega
      · simp [zero_exponent, Format.exponentBias]
  · next exponent_ne =>
    have significand : (1#1 ++ fractionField b).toNat = 2 ^ 52 + (fractionField b).toNat := by
      rw [toNat_append]; rfl
    have exponent_lt : (exponentField b).toNat + 1 < 2 ^ 11 := by
      have := (exponentField b).isLt
      have : (exponentField b).toNat ≠ 2 ^ 11 - 1 := fun he => h (BitVec.eq_of_toNat_eq he)
      omega
    have log2_significand : (1#1 ++ fractionField b).toNat.log2 = 52 :=
      (Nat.log2_eq_iff (by omega)).mpr (by omega)
    have biased : ((exponentField b).toNat - (Format.binary64.exponentBias + 52 : Int) +
        Format.binary64.exponentBias + 52).toNat = (exponentField b).toNat := by omega
    simp only [pack]
    rw [if_neg, if_pos]
    · simp only [packComponents, toBitVec_ofBitVec]
      have same_fraction : BitVec.ofNat 52 (1#1 ++ fractionField b).toNat = fractionField b := by
        apply BitVec.eq_of_toNat_eq
        rw [BitVec.toNat_ofNat, significand]
        omega
      have same_exponent := (congrArg (BitVec.ofNat 11) biased).trans (ofNat_toNat_self _)
      refine Eq.trans ?_ fields
      exact congr (congrArg _ (congrArg (_ ++ ·) same_exponent)) same_fraction
    · rw [log2_significand]; rfl
    · intro large
      have large : 2 ^ 11 ≤ (exponentField b).toNat + 1 :=
        Nat.le_trans large (Nat.le_of_eq (congrArg (· + 1) biased))
      omega

theorem exponentField_ne {bits : UInt64} (h : bits.toNat % signBit < infinity) :
    exponentField bits.toBitVec ≠ -1#_ := by
  intro he
  have ones := (congrArg BitVec.toNat he).symm.trans (toNat_exponentField bits.toBitVec)
  change 2047 = bits.toNat / 2 ^ 52 % 2 ^ 11 at ones
  have := bits.toNat_lt
  unfold infinity signBit binade at h
  omega

theorem toBits_ofBits {bits : UInt64} (h : bits.toNat % signBit < infinity) :
    (Float.ofBits bits).toBits = bits :=
  congrArg UInt64.ofBitVec (pack_unpack (exponentField_ne h))

theorem isFinite_of_toBits {x : Float} (h : x.toBits.toNat % signBit < infinity) : x.isFinite := by
  change (UnpackedFloat.unpack Format.binary64 x.toBits.toBitVec).isFinite = true
  have he := exponentField_ne h
  unfold UnpackedFloat.unpack
  simp only [he, if_false]
  split
  · split <;> rfl
  · rfl

theorem toNat_signed (negative : Bool) {pattern : Nat} (h : pattern < infinity) :
    (UInt64.ofNat (if negative then signBit + pattern else pattern)).toNat =
      if negative then signBit + pattern else pattern := by
  unfold infinity binade at h
  rw [UInt64.toNat_ofNat']
  cases negative <;> simp [signBit] <;> omega

theorem toNat_toBits_ofPattern (negative : Bool) {pattern : Nat} (h : pattern < infinity) :
    (ofPattern negative pattern).toBits.toNat =
      if negative then signBit + pattern else pattern := by
  rw [ofPattern, toBits_ofBits, toNat_signed negative h]
  rw [toNat_signed negative h]
  unfold infinity binade at *
  cases negative <;> simp [signBit] <;> omega

theorem isFinite_ofPattern (negative : Bool) {pattern : Nat} (h : pattern < infinity) :
    (ofPattern negative pattern).isFinite := by
  apply isFinite_of_toBits
  rw [toNat_toBits_ofPattern negative h]
  unfold infinity binade at *
  cases negative <;> simp [signBit] <;> omega

end InfixCalculator.Binary64
