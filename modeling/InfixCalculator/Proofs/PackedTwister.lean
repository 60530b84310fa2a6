import InfixCalculator.Proofs.RandomFractions

/-! # The generator on a single number

The words of a ring side by side, as the digits of one number in base 2^32. A generator that keeps
its ring in this form draws the same, and what it draws from a concrete seed can be evaluated inside
of a proof, where a ring would be copied for every word that is set. Main statements:
`PackedTwister.packs_ofSeed`, `PackedTwister.Packs.nextFraction`.
-/
namespace InfixCalculator

/-- A ring as a number, of which only the lowest 624 digits in base 2^32 are used. -/
abbrev PackedRing := ℕ

namespace PackedRing

def word (packed : PackedRing) (i : ℕ) : UInt32 :=
  UInt32.ofNat (packed >>> (32 * (i % 624)))

/-- Changes the bits in which the word differs from the one that it replaces. -/
def setWord (packed : PackedRing) (i : ℕ) (w : UInt32) : PackedRing :=
  packed ^^^ (((word packed i).toNat ^^^ w.toNat) <<< (32 * (i % 624)))

theorem testBit_word (packed : PackedRing) (i : ℕ) {bit : ℕ} (h : bit < 32) :
    (word packed i).toNat.testBit bit = packed.testBit (32 * (i % 624) + bit) := by
  rw [word, UInt32.toNat_ofNat', Nat.testBit_mod_two_pow, Nat.testBit_shiftRight]
  simp [h]

theorem ext_word {v w : UInt32} (h : ∀ bit < 32, v.toNat.testBit bit = w.toNat.testBit bit) :
    v = w := by
  refine UInt32.toNat.inj (Nat.eq_of_testBit_eq fun bit => ?_)
  rcases Nat.lt_or_ge bit 32 with low | high
  · exact h bit low
  · have above : ∀ u : UInt32, u.toNat.testBit bit = false := fun u =>
      Nat.testBit_lt_two_pow (u.toNat_lt.trans_le (Nat.pow_le_pow_right (by decide) high))
    rw [above, above]

theorem word_setWord_self (packed : PackedRing) (i : ℕ) (w : UInt32) :
    word (setWord packed i w) i = w := by
  refine ext_word fun bit h => ?_
  rw [testBit_word _ _ h, setWord, Nat.testBit_xor, Nat.testBit_shiftLeft, Nat.add_sub_cancel_left,
    Nat.testBit_xor, testBit_word _ _ h]
  simp

theorem word_setWord_of_ne (packed : PackedRing) {i j : ℕ} (apart : i % 624 ≠ j % 624)
    (w : UInt32) : word (setWord packed i w) j = word packed j := by
  refine ext_word fun bit h => ?_
  rw [testBit_word _ _ h, testBit_word _ _ h, setWord, Nat.testBit_xor, Nat.testBit_shiftLeft]
  rcases Nat.lt_or_gt_of_ne apart with before | behind
  · -- The bit lies above those that may have changed.
    have changed := Nat.xor_lt_two_pow (word packed i).toNat_lt w.toNat_lt
    have above : 2 ^ 32 ≤ 2 ^ (32 * (j % 624) + bit - 32 * (i % 624)) :=
      Nat.pow_le_pow_right (by decide) (by omega)
    rw [Nat.testBit_lt_two_pow (changed.trans_le above), Bool.and_false, Bool.xor_false]
  · have below : ¬ 32 * (i % 624) ≤ 32 * (j % 624) + bit := by omega
    simp [below]

/-- Goes on with a number only when it has been evaluated. -/
def force (n : ℕ) (k : ℕ → ℕ) : ℕ :=
  match n with
  | 0 => k 0
  | n + 1 => k (n + 1)

theorem force_eq (n : ℕ) (k : ℕ → ℕ) : force n k = k n := by
  cases n <;> rfl

/-- So many steps at successive places, each on an evaluated number. -/
def steps (step : PackedRing → ℕ → PackedRing) : (count place : ℕ) → PackedRing → PackedRing
  | 0, _, packed => packed
  | count + 1, place, packed =>
    force (step packed place) fun packed =>
      force (place + 1) fun place => steps step count place packed

theorem steps_eq_foldl (step : PackedRing → ℕ → PackedRing) (count place : ℕ)
    (packed : PackedRing) :
    steps step count place packed = (List.range' place count).foldl step packed := by
  induction count generalizing place packed with
  | zero => rfl
  | succ count ih => rw [steps, force_eq, force_eq, ih, List.range'_succ, List.foldl_cons]

/-- The number holds the words of the ring. -/
def Packs (ring : WordRing) (packed : PackedRing) : Prop :=
  ∀ i, word packed i = ring.word i

theorem Packs.setWord {ring : WordRing} {packed : PackedRing} (h : Packs ring packed) (i : ℕ)
    (w : UInt32) : Packs (ring.setWord i w) (setWord packed i w) := by
  intro j
  by_cases same : i % 624 = j % 624
  · have word_eq : word (PackedRing.setWord packed i w) j =
        word (PackedRing.setWord packed i w) i := by rw [word, word, same]
    have ring_eq : (ring.setWord i w).word j = (ring.setWord i w).word i := by
      simp only [WordRing.word, same]
    rw [word_eq, ring_eq, word_setWord_self, WordRing.word_setWord_self]
  · rw [word_setWord_of_ne packed same, WordRing.word_setWord_of_ne ring same, h j]

theorem packs_foldl {f : WordRing → ℕ → WordRing} {step : PackedRing → ℕ → PackedRing}
    (simulates : ∀ ring packed i, Packs ring packed → Packs (f ring i) (step packed i))
    (places : List ℕ) {ring : WordRing} {packed : PackedRing} (h : Packs ring packed) :
    Packs (places.foldl f ring) (places.foldl step packed) := by
  induction places generalizing ring packed with
  | nil => exact h
  | cons i places ih => exact ih (simulates ring packed i h)

theorem packs_steps {f : WordRing → ℕ → WordRing} {step : PackedRing → ℕ → PackedRing}
    (simulates : ∀ ring packed i, Packs ring packed → Packs (f ring i) (step packed i))
    (count place : ℕ) {ring : WordRing} {packed : PackedRing} (h : Packs ring packed) :
    Packs ((List.range' place count).foldl f ring) (steps step count place packed) := by
  rw [steps_eq_foldl]
  exact packs_foldl simulates _ h

def filled (w : UInt32) : PackedRing :=
  steps (fun packed i => setWord packed i w) 624 0 0

theorem packs_filled (w : UInt32) : Packs (Vector.replicate 624 w) (filled w) := by
  have set : ∀ n, n ≤ 624 → ∀ j < n,
      word ((List.range' 0 n).foldl (fun packed i => setWord packed i w) 0) j = w := by
    intro n
    induction n with
    | zero =>
      intro _ j hj
      cases hj
    | succ n ih =>
      intro h j hj
      rw [List.range'_1_concat, Nat.zero_add, List.foldl_concat]
      rcases Nat.lt_succ_iff_lt_or_eq.mp hj with before | rfl
      · rw [word_setWord_of_ne _ (by omega), ih (by omega) j before]
      · exact word_setWord_self _ _ _
  intro i
  have place : word (filled w) i = word (filled w) (i % 624) := by
    rw [word, word, Nat.mod_mod]
  rw [place, filled, steps_eq_foldl, set 624 le_rfl _ (Nat.mod_lt _ (by decide))]
  simp [WordRing.word, Vector.get]

def ofWord (seed : UInt32) : PackedRing :=
  steps
    (fun packed i =>
      setWord packed i
        (1812433253 * WordRing.foldHigh (word packed (i - 1)) + UInt32.ofNat i))
    623 1 (filled seed)

theorem packs_ofWord (seed : UInt32) : Packs (WordRing.ofWord seed) (ofWord seed) := by
  refine packs_steps ?_ 623 1 (packs_filled seed)
  intro ring packed i h
  rw [h (i - 1)]
  exact h.setWord _ _

def setInPass (packed : PackedRing) (i : ℕ) (w : UInt32) : PackedRing :=
  let packed := setWord packed i w
  if i = 623 then setWord packed 0 w else packed

theorem Packs.setInPass {ring : WordRing} {packed : PackedRing} (h : Packs ring packed) (i : ℕ)
    (w : UInt32) : Packs (ring.setInPass i w) (setInPass packed i w) := by
  unfold WordRing.setInPass PackedRing.setInPass
  by_cases last : i = 623
  · simp only [if_pos last]
    exact (h.setWord i w).setWord 0 w
  · simp only [if_neg last]
    exact h.setWord i w

def ofWords (key : List UInt32) : PackedRing :=
  let keys := key.toArray
  let count := max 624 keys.size
  let packed := steps
    (fun packed step =>
      let i := step % 623 + 1
      let j := step % keys.size
      setInPass packed i
        ((word packed i ^^^ (WordRing.foldHigh (word packed (i - 1)) * 1664525)) +
          keys.getD j 0 + UInt32.ofNat j))
    count 0 (ofWord 19650218)
  let packed := steps
    (fun packed step =>
      let i := step % 623 + 1
      setInPass packed i
        ((word packed i ^^^ (WordRing.foldHigh (word packed (i - 1)) * 1566083941)) -
          UInt32.ofNat i))
    623 count packed
  setWord packed 0 0x80000000

theorem packs_ofWords (key : List UInt32) : Packs (WordRing.ofWords key) (ofWords key) := by
  unfold WordRing.ofWords ofWords
  dsimp only
  rw [List.range_eq_range']
  refine (packs_steps ?_ _ _ (packs_steps ?_ _ _ (packs_ofWord _))).setWord 0 _
  · intro ring packed step h
    rw [h, h]
    exact h.setInPass _ _
  · intro ring packed step h
    rw [h, h]
    exact h.setInPass _ _

end PackedRing

/-- A packed ring and the place of the word to be renewed next. -/
structure PackedTwister where
  ring : PackedRing
  place : ℕ

namespace PackedTwister

open PackedRing

def ofSeed (seed : ℤ) : PackedTwister :=
  ⟨ofWords (seedWords seed.natAbs), 0⟩

def next : PackedTwister → UInt32 × PackedTwister
  | ⟨ring, place⟩ =>
    let joined := (word ring place &&& 0x80000000) ||| (word ring (place + 1) &&& 0x7fffffff)
    let twisted := (joined >>> 1) ^^^ (if joined &&& 1 = 1 then 0x9908b0df else 0)
    let w := word ring (place + 397) ^^^ twisted
    (Twister.temper w, ⟨setWord ring place w, (place + 1) % 624⟩)

def nextFraction (twister : PackedTwister) : ℕ × PackedTwister :=
  let (high, twister) := twister.next
  let (low, twister) := twister.next
  (((high >>> 5).toNat <<< 26) + (low >>> 6).toNat, twister)

def Packs (twister : Twister) (packed : PackedTwister) : Prop :=
  PackedRing.Packs twister.ring packed.ring ∧ packed.place = twister.place

theorem packs_ofSeed (seed : ℤ) : Packs (.ofSeed seed) (ofSeed seed) :=
  ⟨packs_ofWords _, rfl⟩

theorem Packs.next {twister : Twister} {packed : PackedTwister} (h : Packs twister packed) :
    twister.next.1 = packed.next.1 ∧ Packs twister.next.2 packed.next.2 := by
  obtain ⟨ring, place⟩ := twister
  obtain ⟨packed, place'⟩ := packed
  obtain ⟨words, rfl⟩ := h
  simp only [Twister.next, PackedTwister.next, Packs, words place', words (place' + 1),
    words (place' + 397)]
  exact ⟨trivial, words.setWord _ _, trivial⟩

theorem Packs.nextFraction {twister : Twister} {packed : PackedTwister}
    (h : Packs twister packed) :
    twister.nextFraction.1 = packed.nextFraction.1 ∧
      Packs twister.nextFraction.2 packed.nextFraction.2 := by
  obtain ⟨high, first⟩ := h.next
  obtain ⟨low, second⟩ := first.next
  simp only [Twister.nextFraction, PackedTwister.nextFraction, high, low]
  exact ⟨trivial, second⟩

end PackedTwister

end InfixCalculator
