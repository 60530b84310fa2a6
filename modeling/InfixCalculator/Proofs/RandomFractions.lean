import InfixCalculator.Fuzz.Twister
import Mathlib

/-! # Random fractions drawn in blocks

The usual generator works in blocks: a pass renews all 624 words, they are given out one by one, and
the next pass is made when none is left. Here each word is renewed when it is due. The pass makes
the same renewals in the same order, only earlier, and a word that has been given out is not changed
by those behind it. Main statement: `draws_ofSeed`.
-/
namespace InfixCalculator

section Draws

variable {σ τ α : Type} (draw : σ → α × σ)

/-- What so many draws give, one after the other. -/
def draws (count : ℕ) (s : σ) : List α :=
  (List.iterate (fun s => (draw s).2) s count).map (fun s => (draw s).1)

/-- The state that so many draws leave behind. -/
def afterDraws (count : ℕ) (s : σ) : σ :=
  (fun s => (draw s).2)^[count] s

theorem draws_succ (count : ℕ) (s : σ) :
    draws draw (count + 1) s = (draw s).1 :: draws draw count (draw s).2 := rfl

theorem afterDraws_succ (count : ℕ) (s : σ) :
    afterDraws draw (count + 1) s = afterDraws draw count (draw s).2 := rfl

@[simp] theorem length_draws (count : ℕ) (s : σ) : (draws draw count s).length = count := by
  rw [draws, List.length_map, List.length_iterate]

/-- Drawing goes on where it stopped. -/
theorem draws_add (first second : ℕ) (s : σ) :
    draws draw (first + second) s =
      draws draw first s ++ draws draw second (afterDraws draw first s) := by
  rw [draws, List.iterate_add, List.map_append]
  rfl

/-- Two generators whose draws agree and keep their states related give the same. -/
theorem draws_eq_of_related {draw : σ → α × σ} {draw' : τ → α × τ}
    {Related : σ → τ → Prop}
    (step : ∀ s t, Related s t → (draw s).1 = (draw' t).1 ∧ Related (draw s).2 (draw' t).2)
    (count : ℕ) {s : σ} {t : τ} (start : Related s t) :
    draws draw count s = draws draw' count t := by
  induction count generalizing s t with
  | zero => rfl
  | succ count ih =>
    obtain ⟨same, related⟩ := step s t start
    rw [draws_succ, draws_succ, same, ih related]

theorem afterDraws_related {draw : σ → α × σ} {draw' : τ → α × τ} {Related : σ → τ → Prop}
    (step : ∀ s t, Related s t → (draw s).1 = (draw' t).1 ∧ Related (draw s).2 (draw' t).2)
    (count : ℕ) {s : σ} {t : τ} (start : Related s t) :
    Related (afterDraws draw count s) (afterDraws draw' count t) := by
  induction count generalizing s t with
  | zero => exact start
  | succ count ih => exact ih (step s t start).2

end Draws

namespace WordRing

variable {i j : ℕ}

theorem word_setWord_self (ring : WordRing) (i : ℕ) (w : UInt32) :
    (ring.setWord i w).word i = w :=
  Vector.getElem_set_self _

theorem word_setWord_of_ne (ring : WordRing) (apart : i % 624 ≠ j % 624) (w : UInt32) :
    (ring.setWord i w).word j = ring.word j :=
  Vector.getElem_set_ne _ _ apart

/-- What takes the place of the word at `i`: it depends on that word, on the one behind it and on
the one 397 places on. -/
def successor (ring : WordRing) (i : ℕ) : UInt32 :=
  let joined := (ring.word i &&& 0x80000000) ||| (ring.word (i + 1) &&& 0x7fffffff)
  ring.word (i + 397) ^^^ ((joined >>> 1) ^^^ (if joined &&& 1 = 1 then 0x9908b0df else 0))

def renew (ring : WordRing) (i : ℕ) : WordRing :=
  ring.setWord i (ring.successor i)

/-- A pass that renews the words from place `i` to the last one. -/
def renewFrom (ring : WordRing) (i : ℕ) : WordRing :=
  (List.range' i (624 - i)).foldl renew ring

theorem renewFrom_end (ring : WordRing) : ring.renewFrom 624 = ring := rfl

theorem renewFrom_eq (ring : WordRing) (h : i < 624) :
    ring.renewFrom i = (ring.renew i).renewFrom (i + 1) := by
  have places : 624 - i = 624 - (i + 1) + 1 := by omega
  rw [renewFrom, places, List.range'_succ, List.foldl_cons, renewFrom]

/-- A pass leaves the words in front of it alone. -/
theorem word_renewFrom_of_lt (ring : WordRing) (h : j < i) (inside : i ≤ 624) :
    (ring.renewFrom i).word j = ring.word j := by
  induction inside using Nat.decreasingInduction generalizing ring with
  | self => rw [renewFrom_end]
  | of_succ i inside ih =>
    have apart : i % 624 ≠ j % 624 := by omega
    rw [renewFrom_eq ring inside, ih _ (by omega), renew, word_setWord_of_ne ring apart]

end WordRing

open WordRing

namespace Twister

theorem next_eq (ring : WordRing) (place : ℕ) :
    next ⟨ring, place⟩ =
      (temper ((ring.renew place).word place), ⟨ring.renew place, (place + 1) % 624⟩) := by
  rw [renew, word_setWord_self]
  rfl

/-- A numerator is made of 27 bits and 26 bits. -/
theorem nextFraction_fst (twister : Twister) :
    twister.nextFraction.1 =
      (twister.next.1 >>> 5).toNat * 2 ^ 26 + (twister.next.2.next.1 >>> 6).toNat := by
  rw [← Nat.shiftLeft_eq]
  rfl

theorem nextFraction_lt (twister : Twister) : twister.nextFraction.1 < 2 ^ 53 := by
  have high := twister.next.1.toNat_lt
  have low := twister.next.2.next.1.toNat_lt
  rw [nextFraction_fst, UInt32.toNat_shiftRight, UInt32.toNat_shiftRight,
    Nat.shiftRight_eq_div_pow, Nat.shiftRight_eq_div_pow]
  change twister.next.1.toNat / 2 ^ 5 * 2 ^ 26 + twister.next.2.next.1.toNat / 2 ^ 6 < 2 ^ 53
  omega

theorem lt_of_mem_draws {count n : ℕ} {twister : Twister}
    (h : n ∈ draws nextFraction count twister) : n < 2 ^ 53 := by
  obtain ⟨drawn_from, -, rfl⟩ := List.mem_map.mp h
  exact nextFraction_lt drawn_from

end Twister

/-- The generator in blocks: a ring, and how many of its words have been given out. -/
structure BlockTwister where
  ring : WordRing
  used : ℕ

namespace BlockTwister

variable {block : BlockTwister} {twister : Twister}

/-- At first there is no word to give out. -/
def ofSeed (seed : ℤ) : BlockTwister :=
  ⟨ofWords (seedWords seed.natAbs), 624⟩

/-- A pass over the whole ring, if no word is left. -/
def refill (block : BlockTwister) : BlockTwister :=
  if block.used = 624 then ⟨block.ring.renewFrom 0, 0⟩ else block

/-- The next 32 random bits. -/
def next (block : BlockTwister) : UInt32 × BlockTwister :=
  let block := block.refill
  (Twister.temper (block.ring.word block.used), ⟨block.ring, block.used + 1⟩)

/-- The numerator of the next random fraction, which has the denominator 2^53. -/
def nextFraction (block : BlockTwister) : ℕ × BlockTwister :=
  let (high, block) := block.next
  let (low, block) := block.next
  ((high >>> 5).toNat * 2 ^ 26 + (low >>> 6).toNat, block)

/-- Both have given out as many words, and the ring of the one is that of the other when a pass has
renewed the words that are left. -/
structure Ahead (block : BlockTwister) (twister : Twister) : Prop where
  place : twister.place = block.used % 624
  within : block.used ≤ 624
  ring : block.ring = twister.ring.renewFrom block.used

theorem ahead_ofSeed (seed : ℤ) : Ahead (ofSeed seed) (.ofSeed seed) :=
  ⟨(Nat.mod_self 624).symm, le_rfl, rfl⟩

theorem Ahead.refill (h : Ahead block twister) :
    Ahead block.refill twister ∧ block.refill.used < 624 := by
  unfold BlockTwister.refill
  split
  · next used_up =>
    have ring : block.ring = twister.ring := by rw [h.ring, used_up, renewFrom_end]
    have place : twister.place = 0 := by rw [h.place, used_up]
    exact ⟨⟨place, Nat.zero_le _, by rw [ring]⟩, Nat.succ_pos 623⟩
  · next some_left => exact ⟨h, lt_of_le_of_ne h.within some_left⟩

/-- One draw gives the same bits and leaves one pass ahead of the other. -/
theorem Ahead.next (h : Ahead block twister) :
    block.next.1 = twister.next.1 ∧ Ahead block.next.2 twister.next.2 := by
  obtain ⟨ahead, left⟩ := h.refill
  obtain ⟨ring, place⟩ := twister
  obtain rfl : place = block.refill.used := ahead.place.trans (Nat.mod_eq_of_lt left)
  have renewed : block.refill.ring =
      (ring.renew block.refill.used).renewFrom (block.refill.used + 1) :=
    ahead.ring.trans (renewFrom_eq ring left)
  have given_out := word_renewFrom_of_lt (ring.renew block.refill.used) (Nat.lt_succ_self _) left
  rw [Twister.next_eq]
  refine ⟨?_, rfl, left, renewed⟩
  rw [BlockTwister.next, renewed, given_out]

theorem Ahead.nextFraction (h : Ahead block twister) :
    block.nextFraction.1 = twister.nextFraction.1 ∧
      Ahead block.nextFraction.2 twister.nextFraction.2 := by
  obtain ⟨high, after_high⟩ := h.next
  obtain ⟨low, after_low⟩ := after_high.next
  refine ⟨?_, after_low⟩
  rw [Twister.nextFraction_fst, ← high, ← low]
  rfl

/-- In blocks or word by word, the same fractions are drawn from a seed. -/
theorem draws_ofSeed (seed : ℤ) (count : ℕ) :
    draws nextFraction count (ofSeed seed) = draws Twister.nextFraction count (.ofSeed seed) :=
  draws_eq_of_related (fun _ _ => Ahead.nextFraction) count (ahead_ofSeed seed)

end BlockTwister

end InfixCalculator
