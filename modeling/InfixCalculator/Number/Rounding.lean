import InfixCalculator.Number.Value

/-! # Correct rounding

A non-negative number of units is rounded to a significand `r` at a spacing of 2^k units, and `r`
and `k` together are the bit pattern. Main statements: `ofRatio?_eq_none_iff` says which quotients
are out of range, `correctlyRounded_of_ofRatio?` that every other one is rounded to the nearest
number, ties going to the even significand, `CorrectlyRounded.unique` that there is no second such
number.
-/
namespace InfixCalculator.Binary64

/-- An integer nearest to `t`, the even one where two are equally near. -/
structure RoundsHalfEven (t : ℚ) (r : ℕ) : Prop where
  near : |t - r| ≤ 1 / 2
  even : |t - r| = 1 / 2 → r % 2 = 0

theorem RoundsHalfEven.of_lt {t : ℚ} {r : ℕ} (h : |t - r| < 1 / 2) : RoundsHalfEven t r :=
  ⟨h.le, fun tie => absurd tie h.ne⟩

theorem cast_div_eq (num : ℕ) {den : ℕ} (pos : 0 < den) :
    (num : ℚ) / den = (num / den : ℕ) + (num % den : ℕ) / den := by
  have den_ne : (den : ℚ) ≠ 0 := Nat.cast_ne_zero.mpr pos.ne'
  rw [div_eq_iff den_ne, add_mul, div_mul_cancel₀ _ den_ne]
  exact_mod_cast (Nat.div_add_mod' num den).symm

theorem roundHalfEven_spec (num : ℕ) {den : ℕ} (pos : 0 < den) :
    RoundsHalfEven (num / den) (roundHalfEven num den) := by
  have den_pos : (0 : ℚ) < den := Nat.cast_pos.mpr pos
  have rest_nonneg : (0 : ℚ) ≤ (num % den : ℕ) / den := by positivity
  have rest_lt : ((num % den : ℕ) : ℚ) / den < 1 :=
    (div_lt_one den_pos).mpr (Nat.cast_lt.mpr (Nat.mod_lt num pos))
  have half_lt : (1 / 2 : ℚ) < (num % den : ℕ) / den ↔ den < 2 * (num % den) := by
    rw [div_lt_div_iff₀ two_pos den_pos, one_mul, mul_comm]
    norm_cast
  have lt_half : ((num % den : ℕ) : ℚ) / den < 1 / 2 ↔ 2 * (num % den) < den := by
    rw [div_lt_div_iff₀ den_pos two_pos, one_mul, mul_comm]
    norm_cast
  rw [cast_div_eq num pos, roundHalfEven]
  generalize ((num % den : ℕ) : ℚ) / den = rest at *
  split
  · next below =>
    apply RoundsHalfEven.of_lt
    rw [add_sub_cancel_left, abs_of_nonneg rest_nonneg]
    exact lt_half.mpr below
  · next not_below =>
    split
    · next above =>
      apply RoundsHalfEven.of_lt
      have := half_lt.mpr above
      rw [Nat.cast_add, add_sub_add_left_eq_sub, abs_sub_comm, Nat.cast_one, abs_of_nonneg] <;>
        linarith
    · next not_above =>
      have tie : rest = 1 / 2 :=
        le_antisymm (not_lt.mp (mt half_lt.mp not_above)) (not_lt.mp (mt lt_half.mp not_below))
      refine ⟨?_, fun _ => by omega⟩
      rw [tie]
      rcases Nat.mod_two_eq_zero_or_one (num / den) with even | odd
      · rw [even, Nat.add_zero, add_sub_cancel_left, abs_of_pos one_half_pos]
      · rw [odd, Nat.cast_add, add_sub_add_left_eq_sub]
        norm_num

namespace RoundsHalfEven

variable {t : ℚ} {r : ℕ}

theorem half_le_of_ne (h : RoundsHalfEven t r) {m : ℤ} (ne : m ≠ r) : 1 / 2 ≤ |t - m| := by
  have apart : (1 : ℚ) ≤ |((r - m : ℤ) : ℚ)| := by
    exact_mod_cast Int.one_le_abs (sub_ne_zero.mpr ne.symm)
  have triangle := abs_sub_le (r : ℚ) t m
  have near := h.near
  push_cast at apart
  rw [abs_sub_comm (r : ℚ) t] at triangle
  linarith

/-- No integer is nearer than the one rounded to. -/
theorem nearest (h : RoundsHalfEven t r) (m : ℤ) : |t - r| ≤ |t - m| := by
  by_cases same : m = r
  · rw [same, Int.cast_natCast]
  · exact h.near.trans (h.half_le_of_ne same)

theorem even_of_tie (h : RoundsHalfEven t r) {m : ℤ} (ne : m ≠ r) (tie : |t - r| = |t - m|) :
    r % 2 = 0 :=
  h.even (le_antisymm h.near (tie ▸ h.half_le_of_ne ne))

/-- Halves above an even integer go down to it. -/
theorem le_iff_of_even (h : RoundsHalfEven t r) {n : ℕ} (even : n % 2 = 0) :
    r ≤ n ↔ t ≤ n + 1 / 2 := by
  obtain ⟨lower, upper⟩ := abs_le.mp h.near
  constructor
  · intro le
    have : (r : ℚ) ≤ n := Nat.cast_le.mpr le
    linarith
  · intro le
    by_contra above
    have next_le : (n + 1 : ℚ) ≤ r := by exact_mod_cast Nat.lt_of_not_le above
    have next : r = n + 1 := by exact_mod_cast (by linarith : (r : ℚ) = n + 1)
    have := h.even (by rw [abs_sub_comm, abs_of_nonneg] <;> linarith)
    omega

/-- Halves above an odd integer go up. -/
theorem lt_iff_of_odd (h : RoundsHalfEven t r) {n : ℕ} (odd : n % 2 = 1) :
    n < r ↔ n + 1 / 2 ≤ t := by
  obtain ⟨lower, upper⟩ := abs_le.mp h.near
  constructor
  · intro lt
    have : (n + 1 : ℚ) ≤ r := by exact_mod_cast lt
    linarith
  · intro le
    by_contra below
    have r_le : (r : ℚ) ≤ n := Nat.cast_le.mpr (Nat.le_of_not_lt below)
    have same : r = n := by exact_mod_cast (by linarith : (r : ℚ) = n)
    have := h.even (by rw [abs_of_nonneg] <;> linarith)
    omega

end RoundsHalfEven

/-- `t` units, rounded to the significand `r` at a spacing of 2^k units. The spacing is the one for
the size of `t`: significands take 53 bits, fewer only at the least spacing. -/
structure Rounding (t : ℚ) (k r : ℕ) : Prop where
  halfEven : RoundsHalfEven (t / 2 ^ k) r
  below : t / 2 ^ k < 2 * binade
  above : k ≠ 0 → binade ≤ t / 2 ^ k

theorem binade_eq : binade = 2 ^ 52 := rfl

theorem cast_binade : (binade : ℚ) = 2 ^ 52 := by norm_num [binade]

theorem lt_spacing (n : ℕ) : n < 2 * binade * 2 ^ spacing n := by
  have exponent : n.log2 + 1 ≤ 53 + spacing n := by unfold spacing; omega
  calc n < 2 ^ (n.log2 + 1) := Nat.lt_log2_self
    _ ≤ 2 ^ (53 + spacing n) := Nat.pow_le_pow_right two_pos exponent
    _ = 2 * binade * 2 ^ spacing n := Nat.pow_add 2 53 _

theorem spacing_le {n : ℕ} (h : spacing n ≠ 0) : binade * 2 ^ spacing n ≤ n := by
  have exponent : 52 + spacing n = n.log2 := by unfold spacing at *; omega
  have n_ne : n ≠ 0 := by rintro rfl; exact h rfl
  rw [binade_eq, ← Nat.pow_add, exponent]
  exact Nat.log2_self_le n_ne

/-- The exact number of units in `num / den`. -/
def unitsOf (num den : ℕ) : ℚ := num * 2 ^ 1074 / den

theorem unitsOf_nonneg (num den : ℕ) : 0 ≤ unitsOf num den := by
  unfold unitsOf; positivity

theorem cast_two_pow (k : ℕ) : ((2 ^ k : ℕ) : ℚ) = 2 ^ k := by
  rw [Nat.cast_pow, Nat.cast_ofNat]

theorem cast_shiftLeft (n k : ℕ) : ((n <<< k : ℕ) : ℚ) = n * 2 ^ k := by
  rw [Nat.shiftLeft_eq, Nat.cast_mul, cast_two_pow]

theorem unitsOf_div (num den k : ℕ) :
    unitsOf num den / (2 : ℚ) ^ k = ((num <<< 1074 : ℕ) : ℚ) / ((den <<< k : ℕ) : ℚ) := by
  rw [unitsOf, cast_shiftLeft, cast_shiftLeft, div_div]

theorem unitsFloor_eq (num den : ℕ) : unitsFloor num den = ⌊unitsOf num den⌋₊ := by
  rw [unitsOf, ← cast_shiftLeft, Nat.floor_div_eq_div, unitsFloor]

/-- The nearest pattern is made of a rounded significand and its spacing. -/
theorem nearest_rounding (num : ℕ) {den : ℕ} (pos : 0 < den) :
    ∃ k r, nearest num den = k * binade + r ∧ Rounding (unitsOf num den) k r := by
  have scaled_pos : 0 < den <<< spacing (unitsFloor num den) := by
    rw [Nat.shiftLeft_eq]; positivity
  have rounded := roundHalfEven_spec (num <<< 1074) scaled_pos
  rw [← unitsOf_div] at rounded
  refine ⟨_, _, rfl, rounded, ?_, fun spaced => ?_⟩
  · rw [div_lt_iff₀ (by positivity), unitsFloor_eq]
    exact_mod_cast Nat.lt_of_floor_lt (lt_spacing _)
  · rw [le_div_iff₀ (by positivity), unitsFloor_eq]
    rw [unitsFloor_eq] at spaced
    exact_mod_cast (Nat.le_floor_iff (unitsOf_nonneg num den)).mp (spacing_le spaced)

/-- A pattern's units are a multiple of any spacing, or too few for it. -/
theorem units_grid (p k : ℕ) : (∃ m, units p = m * 2 ^ k) ∨ k ≠ 0 ∧ units p < binade * 2 ^ k := by
  rcases Nat.lt_or_ge p binade with subnormal | normal
  · rw [units_subnormal subnormal]
    by_cases zero : k = 0
    · exact .inl ⟨p, by rw [zero, pow_zero, mul_one]⟩
    · exact .inr ⟨zero, Nat.lt_of_lt_of_le subnormal (Nat.le_mul_of_pos_right _ (by positivity))⟩
  · rw [units_normal normal]
    rcases Nat.lt_or_ge (p / binade - 1) k with coarser | finer
    · refine .inr ⟨by omega, ?_⟩
      have significand_lt : binade + p % binade < binade * 2 := by
        have := Nat.mod_lt p (show 0 < binade by decide)
        omega
      calc (binade + p % binade) * 2 ^ (p / binade - 1)
          < binade * 2 * 2 ^ (p / binade - 1) :=
            Nat.mul_lt_mul_of_pos_right significand_lt (by positivity)
        _ = binade * 2 ^ (p / binade - 1 + 1) := by rw [Nat.pow_succ', Nat.mul_assoc]
        _ ≤ binade * 2 ^ k := Nat.mul_le_mul_left _ (Nat.pow_le_pow_right two_pos coarser)
    · refine .inl ⟨(binade + p % binade) * 2 ^ (p / binade - 1 - k), ?_⟩
      rw [Nat.mul_assoc, ← Nat.pow_add, Nat.sub_add_cancel finer]

theorem abs_sub_scaled (t n : ℚ) (k : ℕ) : |t - n * 2 ^ k| = |t / 2 ^ k - n| * 2 ^ k := by
  have scale_pos : (0 : ℚ) < 2 ^ k := by positivity
  rw [← abs_of_pos scale_pos, ← abs_mul, sub_mul, abs_of_pos scale_pos,
    div_mul_cancel₀ _ scale_pos.ne']

namespace Rounding

variable {t : ℚ} {k r : ℕ}

theorem scaled_le (h : Rounding t k r) (spaced : k ≠ 0) : binade * 2 ^ k ≤ t :=
  (le_div_iff₀ (by positivity)).mp (h.above spaced)

theorem lt_scaled (h : Rounding t k r) : t < 2 * binade * 2 ^ k :=
  (div_lt_iff₀ (by positivity)).mp h.below

theorem significand_le (h : Rounding t k r) : r ≤ 2 * binade := by
  rw [h.halfEven.le_iff_of_even (Nat.mul_mod_right 2 binade)]
  have := h.below
  push_cast
  linarith

theorem le_significand (h : Rounding t k r) (spaced : k ≠ 0) : binade ≤ r := by
  have pred : ((binade - 1 : ℕ) : ℚ) = binade - 1 := Nat.cast_pred (by decide)
  have above := h.above spaced
  have : binade - 1 < r := (h.halfEven.lt_iff_of_odd (by decide)).mpr (by rw [pred]; linarith)
  omega

/-- The pattern stands for the rounded number of units, also where the significand was rounded up
into the next binade. -/
theorem units_eq (h : Rounding t k r) : units (k * binade + r) = r * 2 ^ k := by
  have upper := h.significand_le
  rcases Nat.lt_or_ge r binade with subnormal | normal
  · have least : k = 0 := by
      by_contra spaced
      exact absurd (h.le_significand spaced) (Nat.not_le.mpr subnormal)
    subst least
    rw [Nat.zero_mul, Nat.zero_add, units_subnormal subnormal, Nat.pow_zero, Nat.mul_one]
  · rcases Nat.lt_or_ge r (2 * binade) with within | carry
    · have pattern : k * binade + r = (k + 1) * binade + (r - binade) := by
        rw [Nat.succ_mul]; omega
      rw [pattern, units_binade k (by omega), Nat.add_sub_cancel' normal]
    · have full : r = 2 * binade := Nat.le_antisymm upper carry
      have pattern : k * binade + r = (k + 1 + 1) * binade + 0 := by
        rw [full]; ring
      rw [pattern, units_binade (k + 1) (by decide), Nat.add_zero, full, Nat.pow_succ']
      ring

/-- What is not on the grid of multiples of 2^k is below all significands of that spacing. -/
theorem lt_of_few (h : Rounding t k r) (spaced : k ≠ 0) {w : ℤ} (few : w < (binade * 2 ^ k : ℕ)) :
    |t - (r * 2 ^ k : ℕ)| < |t - w| := by
  have scale_nonneg : (0 : ℚ) ≤ 2 ^ k := by positivity
  have w_lt : (w : ℚ) < binade * 2 ^ k := by exact_mod_cast few
  have nearer : |t / 2 ^ k - r| ≤ |t / 2 ^ k - binade| := h.halfEven.nearest binade
  calc |t - (r * 2 ^ k : ℕ)| = |t / 2 ^ k - r| * 2 ^ k := by push_cast; exact abs_sub_scaled t r k
    _ ≤ |t / 2 ^ k - binade| * 2 ^ k := mul_le_mul_of_nonneg_right nearer scale_nonneg
    _ = |t - binade * 2 ^ k| := (abs_sub_scaled t binade k).symm
    _ = t - binade * 2 ^ k := abs_of_nonneg (sub_nonneg.mpr (h.scaled_le spaced))
    _ < t - w := sub_lt_sub_left w_lt t
    _ ≤ |t - w| := le_abs_self _

/-- No number is nearer than the rounded one, and on a tie with another the significand is even. -/
theorem nearest (h : Rounding t k r) {w : ℤ} {p : ℕ} (grid : w.natAbs = units p) :
    |t - (r * 2 ^ k : ℕ)| ≤ |t - w| ∧
      (w ≠ (r * 2 ^ k : ℕ) → |t - (r * 2 ^ k : ℕ)| = |t - w| → r % 2 = 0) := by
  rcases units_grid p k with ⟨m, multiple⟩ | ⟨spaced, few⟩
  · obtain ⟨n, rfl⟩ : ∃ n : ℤ, w = n * 2 ^ k := by
      rcases Int.natAbs_eq w with same | opposite
      · exact ⟨m, by rw [same, grid, multiple]; push_cast; rfl⟩
      · exact ⟨-m, by rw [opposite, grid, multiple]; push_cast; ring⟩
    have scale_pos : (0 : ℚ) < 2 ^ k := by positivity
    push_cast
    rw [abs_sub_scaled, abs_sub_scaled]
    refine ⟨mul_le_mul_of_nonneg_right (h.halfEven.nearest n) scale_pos.le, fun ne tie => ?_⟩
    have other : n ≠ r := fun same => ne (by rw [same])
    exact h.halfEven.even_of_tie other (mul_right_cancel₀ scale_pos.ne' tie)
  · have nearer := h.lt_of_few spaced (show w < (binade * 2 ^ k : ℕ) by omega)
    exact ⟨nearer.le, fun _ tie => absurd tie nearer.ne⟩

theorem eq_zero_iff (h : Rounding t k r) : k * binade + r = 0 ↔ t ≤ 1 / 2 := by
  have binade_pos : 0 < binade := by decide
  by_cases spaced : k = 0
  · have threshold := h.halfEven.le_iff_of_even (Nat.zero_mod 2)
    subst spaced
    rw [pow_zero, div_one, Nat.cast_zero, zero_add] at threshold
    rw [← threshold]
    omega
  · have large : (1 : ℚ) * 1 ≤ binade * 2 ^ k :=
      mul_le_mul (Nat.one_le_cast.mpr binade_pos) (one_le_pow₀ one_le_two) zero_le_one
        (Nat.cast_nonneg _)
    have := h.scaled_le spaced
    have : 0 < k * binade := Nat.mul_pos (Nat.pos_of_ne_zero spaced) binade_pos
    exact iff_of_false (by omega) (by linarith)

/-- Out of range is what would be rounded to 2^1024 or beyond. -/
theorem infinity_le_iff (h : Rounding t k r) :
    infinity ≤ k * binade + r ↔ (2 ^ 54 - 1) * 2 ^ 2044 ≤ t := by
  have unit_pos : (0 : ℚ) < 2 ^ 2044 := by positivity
  rcases Nat.lt_trichotomy k 2045 with finer | last | coarser
  · have scale_le : (2 : ℚ) ^ k ≤ 2 ^ 2044 :=
      pow_le_pow_right₀ one_le_two (Nat.le_of_lt_succ finer)
    have below := h.lt_scaled
    have significand := h.significand_le
    rw [cast_binade] at below
    generalize (2 : ℚ) ^ 2044 = unit at *
    exact iff_of_false (by unfold infinity binade at *; omega) (by linarith)
  · have up := h.halfEven.lt_iff_of_odd (show (2 * binade - 1) % 2 = 1 by decide)
    have odd_eq : ((2 * binade - 1 : ℕ) : ℚ) = 2 ^ 53 - 1 := by norm_num [binade]
    have scale_eq : (2 : ℚ) ^ k = 2 * 2 ^ 2044 := by rw [last, ← pow_succ']
    rw [odd_eq, le_div_iff₀ (by positivity), scale_eq] at up
    generalize (2 : ℚ) ^ 2044 = unit at *
    have half : (2 ^ 54 - 1) * unit = (2 ^ 53 - 1 + 1 / 2) * (2 * unit) := by ring
    rw [half, ← up, last]
    unfold infinity binade
    omega
  · have scale_le : (2 : ℚ) ^ (2 + 2044) ≤ 2 ^ k := pow_le_pow_right₀ one_le_two coarser
    have above := h.scaled_le (by omega)
    have significand := h.le_significand (by omega)
    rw [cast_binade] at above
    rw [pow_add] at scale_le
    generalize (2 : ℚ) ^ 2044 = unit at *
    exact iff_of_true (by unfold infinity binade at *; omega) (by linarith)

end Rounding

theorem unitsOf_le_half_iff (num : ℕ) {den : ℕ} (pos : 0 < den) :
    unitsOf num den ≤ 1 / 2 ↔ num * 2 ^ 1075 ≤ den := by
  rw [unitsOf, div_le_div_iff₀ (Nat.cast_pos.mpr pos) two_pos, one_mul, mul_assoc, ← pow_succ,
    ← cast_two_pow, ← Nat.cast_mul, Nat.cast_le]

theorem overflow_le_unitsOf_iff (num : ℕ) {den : ℕ} (pos : 0 < den) :
    (2 ^ 54 - 1) * 2 ^ 2044 ≤ unitsOf num den ↔ den * (2 ^ 1024 - 2 ^ 970) ≤ num := by
  have unit_pos : (0 : ℚ) < 2 ^ 1074 := by positivity
  have threshold : ((2 ^ 1024 - 2 ^ 970 : ℕ) : ℚ) = (2 ^ 54 - 1) * 2 ^ 970 := by
    have smaller : 2 ^ 970 ≤ 2 ^ 1024 := pow_le_pow_right₀ one_le_two (by decide)
    rw [Nat.cast_sub smaller, cast_two_pow 1024, cast_two_pow 970, pow_add 2 54 970, sub_mul,
      one_mul]
  have scaled : (2 ^ 54 - 1) * 2 ^ 2044 * (den : ℚ) =
      den * ((2 ^ 54 - 1) * 2 ^ 970) * 2 ^ 1074 := by
    rw [pow_add 2 970 1074]
    generalize (2 : ℚ) ^ 970 = a, (2 : ℚ) ^ 1074 = b
    ring
  rw [unitsOf, le_div_iff₀ (Nat.cast_pos.mpr pos), scaled, mul_le_mul_iff_left₀ unit_pos,
    ← threshold, ← Nat.cast_mul, Nat.cast_le]

/-- `x` is the number in range nearest to `q`, and has an even significand where another one is
equally near. The last bit of a pattern is that of the significand. -/
structure CorrectlyRounded (q : ℚ) (x : Float) : Prop where
  finite : x.isFinite
  nearest : ∀ y : Float, y.isFinite → |q - toRat x| ≤ |q - toRat y|
  even : ∀ y : Float, y.isFinite → toRat y ≠ toRat x → |q - toRat x| = |q - toRat y| →
    x.toBits.toNat % 2 = 0

/-- What lies between two equally near numbers is nearer. -/
theorem abs_sub_lt_of_tie {q a b c : ℚ} (tie : |q - a| = |q - c|)
    (between : (a < b ∧ b < c) ∨ (c < b ∧ b < a)) : |q - b| < |q - a| := by
  rcases abs_eq_abs.mp tie with same | opposite
  · have : a = c := by linarith
    rcases between with ⟨_, _⟩ | ⟨_, _⟩ <;> linarith
  · have middle : q - a = (c - a) / 2 := by linarith
    rw [middle, abs_lt]
    rcases between with ⟨_, _⟩ | ⟨_, _⟩
    · rw [abs_of_pos (by linarith)]
      constructor <;> linarith
    · rw [abs_of_neg (by linarith)]
      constructor <;> linarith

namespace CorrectlyRounded

variable {q : ℚ} {x y : Float}

/-- Two patterns with the same sign cannot both be nearest: they would be even, and the one between
them nearer. -/
theorem not_pattern_lt {negative : Bool} {p r : ℕ} (hp : CorrectlyRounded q (ofPattern negative p))
    (hr : CorrectlyRounded q (ofPattern negative r)) (inRange : r < infinity) : ¬ p < r := by
  intro lt
  have tie := le_antisymm (hp.nearest _ hr.finite) (hr.nearest _ hp.finite)
  have value_ne : toRat (ofPattern negative r) ≠ toRat (ofPattern negative p) :=
    (toRat_ofPattern_inj negative inRange (lt.trans inRange)).not.mpr lt.ne'
  have even_p := hp.even _ hr.finite value_ne tie
  have even_r := hr.even _ hp.finite value_ne.symm tie.symm
  rw [toNat_toBits_mod_two, pattern_ofPattern negative (lt.trans inRange)] at even_p
  rw [toNat_toBits_mod_two, pattern_ofPattern negative inRange] at even_r
  have gap : p + 1 < r := by omega
  have between := toRat_between negative (Nat.lt_succ_self p) gap inRange
  have finite := isFinite_ofPattern negative (gap.trans inRange)
  exact absurd (hp.nearest _ finite) (not_le.mpr (abs_sub_lt_of_tie tie between))

/-- Apart from the sign of zero, there is one correctly rounded number. -/
protected theorem unique (hx : CorrectlyRounded q x) (hy : CorrectlyRounded q y)
    (sign : isSignMinus x = isSignMinus y) : x = y := by
  have x_eq := ofPattern_pattern hx.finite
  have y_eq := ofPattern_pattern hy.finite
  have inRange := isFinite_iff.mp hx.finite
  have inRange' := isFinite_iff.mp hy.finite
  rw [← sign] at y_eq
  rw [← x_eq] at hx
  rw [← y_eq] at hy
  have le := Nat.not_lt.mp (hy.not_pattern_lt hx inRange)
  have ge := Nat.not_lt.mp (hx.not_pattern_lt hy inRange')
  have same : pattern x = pattern y := Nat.le_antisymm le ge
  rw [← x_eq, ← y_eq, same]

end CorrectlyRounded

variable {negative : Bool} {num den : ℕ} {x : Float}

theorem infinity_le_nearest_iff (pos : 0 < den) :
    infinity ≤ nearest num den ↔ den * (2 ^ 1024 - 2 ^ 970) ≤ num := by
  obtain ⟨k, r, nearest_eq, rounding⟩ := nearest_rounding num pos
  rw [nearest_eq, rounding.infinity_le_iff, overflow_le_unitsOf_iff num pos]

theorem nearest_eq_zero_iff (pos : 0 < den) : nearest num den = 0 ↔ num * 2 ^ 1075 ≤ den := by
  obtain ⟨k, r, nearest_eq, rounding⟩ := nearest_rounding num pos
  rw [nearest_eq, rounding.eq_zero_iff, unitsOf_le_half_iff num pos]

theorem ofRatio?_eq_some_iff :
    ofRatio? negative num den = some x ↔
      nearest num den < infinity ∧ x = ofPattern negative (nearest num den) := by
  simp [ofRatio?, eq_comm]

theorem ofRatio?_eq_none_iff (pos : 0 < den) :
    ofRatio? negative num den = none ↔ den * (2 ^ 1024 - 2 ^ 970) ≤ num := by
  rw [← infinity_le_nearest_iff pos]
  simp [ofRatio?]

theorem isSignMinus_of_ofRatio? (h : ofRatio? negative num den = some x) :
    isSignMinus x = negative := by
  obtain ⟨inRange, rfl⟩ := ofRatio?_eq_some_iff.mp h
  exact isSignMinus_ofPattern negative inRange

theorem toRat_eq_zero_iff_of_ofRatio? (h : ofRatio? negative num den = some x) (pos : 0 < den) :
    toRat x = 0 ↔ num * 2 ^ 1075 ≤ den := by
  obtain ⟨inRange, rfl⟩ := ofRatio?_eq_some_iff.mp h
  rw [toRat_eq_zero_iff (isFinite_ofPattern negative inRange), pattern_ofPattern negative inRange,
    nearest_eq_zero_iff pos]

/-- Underflow keeps the sign. -/
theorem eq_zero_of_ofRatio? (h : ofRatio? negative num den = some x) (pos : 0 < den)
    (small : num * 2 ^ 1075 ≤ den) : x = if negative then -0.0 else 0.0 := by
  obtain ⟨-, rfl⟩ := ofRatio?_eq_some_iff.mp h
  rw [(nearest_eq_zero_iff pos).mpr small]
  cases negative <;> rfl

/-- Distances between values, measured in units; a common sign is left out. -/
theorem abs_sub_toRat (negative : Bool) (num den : ℕ) {y : Float} (finite : y.isFinite) :
    |(if negative then -(num / den) else num / den : ℚ) - toRat y| =
      |unitsOf num den - (if negative then -signedUnits y else signedUnits y : ℤ)| / 2 ^ 1074 := by
  have unit_pos : (0 : ℚ) < 2 ^ 1074 := by positivity
  have value : (num : ℚ) / den = unitsOf num den / 2 ^ 1074 := by
    rw [unitsOf, mul_div_right_comm, mul_div_cancel_right₀ _ unit_pos.ne']
  rw [toRat_eq finite, value]
  generalize (2 : ℚ) ^ 1074 = unit at *
  cases negative
  · rw [if_neg Bool.false_ne_true, if_neg Bool.false_ne_true, ← sub_div, abs_div,
      abs_of_pos unit_pos]
  · rw [if_pos rfl, if_pos rfl, ← neg_div, ← sub_div, abs_div, abs_of_pos unit_pos,
      neg_sub_left, abs_neg, Int.cast_neg, sub_neg_eq_add, add_comm]

theorem correctlyRounded_of_ofRatio? (h : ofRatio? negative num den = some x) (pos : 0 < den) :
    CorrectlyRounded (if negative then -(num / den) else num / den) x := by
  obtain ⟨inRange, rfl⟩ := ofRatio?_eq_some_iff.mp h
  obtain ⟨k, r, nearest_eq, rounding⟩ := nearest_rounding num pos
  have finite := isFinite_ofPattern negative inRange
  have unit_pos : (0 : ℚ) < 2 ^ 1074 := by positivity
  have rounded : (if negative then -signedUnits (ofPattern negative (nearest num den))
      else signedUnits (ofPattern negative (nearest num den))) = (r * 2 ^ k : ℕ) := by
    rw [signedUnits, isSignMinus_ofPattern negative inRange, pattern_ofPattern negative inRange,
      nearest_eq, rounding.units_eq]
    cases negative <;> simp
  have grid : ∀ y : Float, (if negative then -signedUnits y else signedUnits y).natAbs =
      units (pattern y) := by
    intro y
    rw [← natAbs_signedUnits y]
    split <;> simp
  refine ⟨finite, fun y hy => ?_, fun y hy ne tie => ?_⟩
  · rw [abs_sub_toRat negative num den finite, abs_sub_toRat negative num den hy, rounded,
      div_le_div_iff_of_pos_right unit_pos]
    exact (rounding.nearest (grid y)).1
  · rw [abs_sub_toRat negative num den finite, abs_sub_toRat negative num den hy, rounded,
      div_left_inj' unit_pos.ne'] at tie
    have even := (rounding.nearest (grid y)).2 (fun same => ne ?_) tie
    · rw [toNat_toBits_ofPattern negative inRange, nearest_eq]
      unfold signBit binade
      split <;> omega
    · rw [toRat_eq finite, toRat_eq hy]
      rw [← rounded] at same
      split at same
      · rw [neg_inj.mp same]
      · rw [same]

end InfixCalculator.Binary64
