import InfixCalculator.Fuzz.Sample
import InfixCalculator.Number.Rounding
import InfixCalculator.Proofs.PackedTwister

/-! # Random texts as one stream of characters

Every random fraction selects one character, so texts that are drawn one after the other are the
pieces of a single text. The greatest fraction times 17 is nearer to the number below 17 than to 17
itself, hence no fraction selects an index behind the alphabet. Main statements: `choice_spec`,
`randomTexts_cut_one_stream`.
-/
namespace InfixCalculator

namespace Binary64

/-- What is nearer to `y` than to a greater bound is not rounded to the bound or beyond. -/
theorem CorrectlyRounded.lt_of_lt_middle {q bound : ℚ} {x y : Float} (h : CorrectlyRounded q x)
    (finite : y.isFinite) (below : toRat y < bound) (middle : 2 * q < toRat y + bound) :
    toRat x < bound := by
  by_contra reached
  have nearest := h.nearest y finite
  have far : toRat x - q ≤ |q - toRat x| := by
    rw [abs_sub_comm]
    exact le_abs_self _
  have near : |q - toRat y| < bound - q := by
    rw [abs_lt]
    constructor <;> linarith
  linarith

theorem floor_div_two_pow (m k : ℕ) : ⌊(m : ℚ) / 2 ^ k⌋ = (m >>> k : ℕ) := by
  rw [← cast_two_pow, Rat.floor_natCast_div_natCast, Nat.shiftRight_eq_div_pow,
    Int.natCast_ediv]

/-- The integral part of the rounded quotient. -/
theorem floorRounded_eq {num den : ℕ} {x : Float} (h : ofRatio? false num den = some x) :
    (floorRounded num den : ℤ) = ⌊toRat x⌋ := by
  obtain ⟨inRange, rfl⟩ := ofRatio?_eq_some_iff.mp h
  rw [toRat_ofPattern false inRange, if_neg Bool.false_ne_true, floor_div_two_pow, floorRounded]

/-- The greatest number below 17; numbers between 16 and 32 are 2^-48 apart. -/
def belowSeventeen : Float := ofPattern false (1027 * binade + (2 ^ 48 - 1))

theorem isFinite_belowSeventeen : belowSeventeen.isFinite :=
  isFinite_ofPattern false (by decide)

theorem toRat_belowSeventeen : toRat belowSeventeen = 17 - 1 / 2 ^ 48 := by
  have significand : ((binade + (2 ^ 48 - 1) : ℕ) : ℚ) = 17 * 2 ^ 48 - 1 := by norm_num [binade]
  have scale : (2 : ℚ) ^ 1074 = 2 ^ 1026 * 2 ^ 48 := by rw [← pow_add]
  have unit_ne : (2 : ℚ) ^ 1026 ≠ 0 := pow_ne_zero _ two_ne_zero
  rw [belowSeventeen, toRat_ofPattern false (by decide), if_neg Bool.false_ne_true,
    units_binade 1026 (by decide), Nat.cast_mul, significand, cast_two_pow, scale]
  generalize (2 : ℚ) ^ 1026 = unit at *
  field_simp

end Binary64

namespace Sample

open Binary64

/-- The character that the fraction with the given numerator selects. -/
def letter (n : ℕ) : Char :=
  alphabet.getD (choice n) ' '

theorem exists_ofRatio?_product {n : ℕ} (h : n < 2 ^ 53) :
    ∃ x, ofRatio? false (17 * n) (2 ^ 53) = some x := by
  rw [← Option.ne_none_iff_exists', ne_eq, ofRatio?_eq_none_iff (by positivity), not_le]
  have wide : 17 ≤ 2 ^ 1024 - 2 ^ 970 := by decide +kernel
  calc 17 * n < 17 * 2 ^ 53 := Nat.mul_lt_mul_of_pos_left h (by decide)
    _ ≤ 2 ^ 53 * (2 ^ 1024 - 2 ^ 970) := by
      rw [Nat.mul_comm]
      exact Nat.mul_le_mul_left _ wide

/-- The numerator is at most 2^53 - 1, so the product of the fraction and 17 is at least 17 / 2^53
below 17, which is more than half of 2^-48. -/
theorem toRat_lt_of_correctlyRounded {n : ℕ} (h : n < 2 ^ 53) {x : Float}
    (rounded : CorrectlyRounded (17 * n / 2 ^ 53) x) : toRat x < 17 := by
  have top : (n : ℚ) + 1 ≤ 2 ^ 53 := by exact_mod_cast h
  have product : (17 * n / 2 ^ 53 : ℚ) ≤ 17 - 17 / 2 ^ 53 := by
    rw [div_le_iff₀ (by positivity)]
    linarith
  refine rounded.lt_of_lt_middle isFinite_belowSeventeen ?_ ?_
  · rw [toRat_belowSeventeen]
    norm_num
  · rw [toRat_belowSeventeen]
    have middle : (2 * (17 - 17 / 2 ^ 53) : ℚ) < 17 - 1 / 2 ^ 48 + 17 := by norm_num
    linarith

/-- The product of a random fraction and 17 is rounded to a number below 17, of which the index is
the integral part. -/
theorem choice_spec {n : ℕ} (h : n < 2 ^ 53) :
    ∃ x, CorrectlyRounded (17 * n / 2 ^ 53) x ∧ toRat x < 17 ∧ choice n = ⌊toRat x⌋ ∧
      choice n < 17 := by
  obtain ⟨x, hx⟩ := exists_ofRatio?_product h
  have rounded := correctlyRounded_of_ofRatio? hx (by positivity)
  rw [if_neg Bool.false_ne_true] at rounded
  push_cast at rounded
  have below := toRat_lt_of_correctlyRounded h rounded
  have selected : (choice n : ℤ) = ⌊toRat x⌋ := floorRounded_eq hx
  refine ⟨x, rounded, below, selected, ?_⟩
  have index : ⌊toRat x⌋ < 17 := Int.floor_lt.mpr below
  omega

theorem getElem?_choice {n : ℕ} (h : n < 2 ^ 53) : alphabet[choice n]? = some (letter n) := by
  obtain ⟨-, -, -, -, within⟩ := choice_spec h
  have index : choice n < alphabet.length := within
  rw [letter, List.getD_eq_getElem _ _ index, List.getElem?_eq_getElem index]

theorem letter_mem {n : ℕ} (h : n < 2 ^ 53) : letter n ∈ alphabet :=
  List.mem_of_getElem? (getElem?_choice h)

theorem characters_eq (drawn : List Char) (count : ℕ) (twister : Twister) :
    characters drawn count twister =
      (drawn.reverse ++ (draws Twister.nextFraction count twister).map letter,
        afterDraws Twister.nextFraction count twister) := by
  induction count generalizing drawn twister with
  | zero => exact congrArg (·, twister) (List.append_nil _).symm
  | succ count ih =>
    have step : characters drawn (count + 1) twister =
        characters (letter twister.nextFraction.1 :: drawn) count twister.nextFraction.2 := rfl
    rw [step, ih, draws_succ, afterDraws_succ, List.reverse_cons, List.append_assoc, List.map_cons]
    rfl

theorem inRange_iff {length : ℤ} : InRange length ↔ -2 ^ 63 ≤ length ∧ length < 2 ^ 63 := by
  rw [InRange, lengthBound]
  norm_num

theorem randomText_eq {length : ℤ} (inRange : InRange length) (twister : Twister) :
    randomText length twister =
      .ok (String.ofList ((draws Twister.nextFraction length.toNat twister).map letter),
        afterDraws Twister.nextFraction length.toNat twister) := by
  rw [randomText, if_pos inRange, characters_eq]
  rfl

theorem randomTexts_cons {length : ℤ} (inRange : InRange length) (lengths : List ℤ)
    (twister : Twister) :
    randomTexts (length :: lengths) twister =
      (randomTexts lengths (afterDraws Twister.nextFraction length.toNat twister)).map
        (String.ofList ((draws Twister.nextFraction length.toNat twister).map letter) :: ·) := by
  rw [randomTexts, randomText_eq inRange]

/-- The characters that the next fractions of a generator select, cut into pieces of the given
lengths. -/
def pieces {σ : Type} (draw : σ → ℕ × σ) : List ℤ → σ → List String
  | [], _ => []
  | length :: lengths, s =>
    String.ofList ((draws draw length.toNat s).map letter) ::
      pieces draw lengths (afterDraws draw length.toNat s)

theorem pieces_eq_of_related {σ τ : Type} {draw : σ → ℕ × σ} {draw' : τ → ℕ × τ}
    {Related : σ → τ → Prop}
    (step : ∀ s t, Related s t → (draw s).1 = (draw' t).1 ∧ Related (draw s).2 (draw' t).2)
    (lengths : List ℤ) {s : σ} {t : τ} (start : Related s t) :
    pieces draw lengths s = pieces draw' lengths t := by
  induction lengths generalizing s t with
  | nil => rfl
  | cons length lengths ih =>
    rw [pieces, pieces, draws_eq_of_related step length.toNat start,
      ih (afterDraws_related step length.toNat start)]

theorem randomTexts_eq {lengths : List ℤ} (inRange : ∀ length ∈ lengths, InRange length)
    (twister : Twister) :
    randomTexts lengths twister = .ok (pieces Twister.nextFraction lengths twister) := by
  induction lengths generalizing twister with
  | nil => rfl
  | cons length lengths ih =>
    obtain ⟨first, others⟩ := List.forall_mem_cons.mp inRange
    rw [randomTexts_cons first, ih others]
    rfl

/-- The texts that are drawn from a concrete seed can be evaluated with the packed generator. -/
theorem randomTexts_eq_packed {lengths : List ℤ} (inRange : ∀ length ∈ lengths, InRange length)
    (seed : ℤ) :
    randomTexts lengths (.ofSeed seed) =
      .ok (pieces PackedTwister.nextFraction lengths (.ofSeed seed)) := by
  rw [randomTexts_eq inRange, pieces_eq_of_related (fun _ _ => PackedTwister.Packs.nextFraction)
    lengths (PackedTwister.packs_ofSeed seed)]

/-- Drawing texts fails as soon as one of the lengths is out of range. -/
theorem randomTexts_eq_error {lengths : List ℤ} {length : ℤ} (mem : length ∈ lengths)
    (outside : ¬ InRange length) (twister : Twister) :
    randomTexts lengths twister = .error .outOfRange := by
  induction lengths generalizing twister with
  | nil => cases mem
  | cons first lengths ih =>
    by_cases inRange : InRange first
    · have later : length ∈ lengths := by
        rcases List.mem_cons.mp mem with rfl | later
        · exact absurd inRange outside
        · exact later
      rw [randomTexts_cons inRange, ih later]
      rfl
    · rw [randomTexts, randomText, if_neg inRange]

/-- How many characters are asked for in all; a negative length counts as zero. -/
def total (lengths : List ℤ) : ℕ :=
  (lengths.map Int.toNat).sum

theorem sum_max_eq (lengths : List ℤ) : (lengths.map (max 0 ·)).sum = total lengths := by
  induction lengths with
  | nil => rfl
  | cons length lengths ih =>
    rw [total, List.map_cons, List.sum_cons, ih, List.map_cons, List.sum_cons, ← total]
    omega

/-- The pieces are as long as they should be and hold characters of the alphabet alone. -/
theorem pieces_shape (lengths : List ℤ) (twister : Twister) :
    List.Forall₂
      (fun length text => (text.length : ℤ) = max 0 length ∧ ∀ c ∈ text.toList, c ∈ alphabet)
      lengths (pieces Twister.nextFraction lengths twister) := by
  induction lengths generalizing twister with
  | nil => exact .nil
  | cons length lengths ih =>
    refine .cons ⟨?_, ?_⟩ (ih _)
    · rw [String.length_ofList, List.length_map, length_draws]
      omega
    · intro c hc
      rw [String.toList_ofList] at hc
      obtain ⟨n, drawn, rfl⟩ := List.mem_map.mp hc
      exact letter_mem (Twister.lt_of_mem_draws drawn)

/-- Put together, the pieces are the characters of one stream, wherever it is cut. -/
theorem toList_join_pieces (lengths : List ℤ) (twister : Twister) :
    (String.join (pieces Twister.nextFraction lengths twister)).toList =
      (draws Twister.nextFraction (total lengths) twister).map letter := by
  induction lengths generalizing twister with
  | nil => rfl
  | cons length lengths ih =>
    have cut : total (length :: lengths) = length.toNat + total lengths := rfl
    rw [pieces, String.join_cons, String.toList_append, ih, String.toList_ofList, cut,
      draws_add, List.map_append]

theorem randomText_total {lengths : List ℤ} (inRange : (lengths.map (max 0 ·)).sum < 2 ^ 63)
    (twister : Twister) :
    ∃ after, randomText (lengths.map (max 0 ·)).sum twister =
      .ok (String.join (pieces Twister.nextFraction lengths twister), after) := by
  rw [sum_max_eq] at inRange ⊢
  have asked : InRange (total lengths) := inRange_iff.mpr ⟨by omega, inRange⟩
  rw [randomText_eq asked, Int.toNat_natCast, ← toList_join_pieces, String.ofList_toList]
  exact ⟨_, rfl⟩

/-- Texts that are drawn from a seed have the lengths that were asked for, none where a length is
negative, and consist of the 17 characters. Together they are the one text of the whole length, if
this can be asked for at once, so it does not matter how a run is cut into texts. Each character is
the one at the integral part of the next random fraction times 17, which is rounded to a number
below 17; the fractions are those of the generator in blocks. -/
theorem randomTexts_cut_one_stream (seed : ℤ) {lengths : List ℤ}
    (inRange : ∀ length ∈ lengths, InRange length) :
    ∃ texts, randomTexts lengths (.ofSeed seed) = .ok texts ∧
      List.Forall₂ (fun length text => (text.length : ℤ) = max 0 length ∧
        ∀ c ∈ text.toList, c ∈ "0123456789()+-*/ ".toList) lengths texts ∧
      ((lengths.map (max 0 ·)).sum < 2 ^ 63 → ∃ after,
        randomText (lengths.map (max 0 ·)).sum (.ofSeed seed) = .ok (String.join texts, after)) ∧
      (∀ n ∈ draws BlockTwister.nextFraction (total lengths) (.ofSeed seed), n < 2 ^ 53) ∧
      (String.join texts).toList.map some =
        (draws BlockTwister.nextFraction (total lengths) (.ofSeed seed)).map
          (fun n => "0123456789()+-*/ ".toList[choice n]?) ∧
      ∀ n : ℕ, n < 2 ^ 53 → ∃ x, CorrectlyRounded (17 * n / 2 ^ 53) x ∧ toRat x < 17 ∧
        choice n = ⌊toRat x⌋ ∧ choice n < 17 := by
  rw [BlockTwister.draws_ofSeed]
  refine ⟨_, randomTexts_eq inRange _, pieces_shape lengths _,
    fun whole => randomText_total whole _, fun n => Twister.lt_of_mem_draws, ?_,
    fun n => choice_spec⟩
  rw [toList_join_pieces, List.map_map]
  refine List.map_congr_left fun n drawn => ?_
  exact (getElem?_choice (Twister.lt_of_mem_draws drawn)).symm

/-- Four texts of a run, one of them asked for with a negative length, and the greatest fraction. -/
theorem randomTexts_cut_one_stream_top :
    ∃ texts after, randomTexts [3, -1, 0, 2] (.ofSeed 23) = .ok texts ∧
      randomText 5 (.ofSeed 23) = .ok (String.join texts, after) ∧
      ∃ x, CorrectlyRounded (17 * (2 ^ 53 - 1 : ℕ) / 2 ^ 53) x ∧ toRat x < 17 ∧
        (16 : ℤ) = ⌊toRat x⌋ := by
  have inRange : ∀ length ∈ [3, -1, 0, 2], InRange length := by decide
  obtain ⟨texts, drawn, -, joined, -, -, rounding⟩ := randomTexts_cut_one_stream 23 inRange
  obtain ⟨after, whole⟩ := joined (by decide)
  obtain ⟨x, rounded, below, index, -⟩ := rounding (2 ^ 53 - 1) (by decide)
  have greatest : choice (2 ^ 53 - 1) = 16 := by decide +kernel
  rw [greatest] at index
  exact ⟨texts, after, drawn, whole, x, rounded, below, index⟩

/-- A length below those of 64 bits is no empty text, although it is negative. -/
theorem randomTexts_below_range :
    randomTexts [3, -9223372036854775809] (.ofSeed 1) = .error .outOfRange ∧
      ¬ ∃ texts, randomTexts [3, -9223372036854775809] (.ofSeed 1) = .ok texts ∧
        List.Forall₂ (fun length text => (text.length : ℤ) = max 0 length)
          [3, -9223372036854775809] texts := by
  have outside : ¬ InRange (-9223372036854775809) := by decide
  have failed : randomTexts [3, -9223372036854775809] (.ofSeed 1) = .error .outOfRange :=
    randomTexts_eq_error (by simp) outside (.ofSeed 1)
  refine ⟨failed, ?_⟩
  rintro ⟨texts, drawn, -⟩
  cases failed.symm.trans drawn

end Sample

end InfixCalculator
