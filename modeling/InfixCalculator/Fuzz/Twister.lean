/-! # The Mersenne twister

The generator MT19937 over a ring of 624 words of 32 bits. Each draw renews one word of the ring in
place, so there is no separate pass over the whole ring. Indices count around the ring.
-/
namespace InfixCalculator

abbrev WordRing := Vector UInt32 624

namespace WordRing

def word (ring : WordRing) (i : Nat) : UInt32 :=
  ring.get ⟨i % 624, Nat.mod_lt _ (by decide)⟩

def setWord (ring : WordRing) (i : Nat) (w : UInt32) : WordRing :=
  ring.set (i % 624) w (Nat.mod_lt _ (by decide))

/-- Combines the bits of a word with its own high bits. -/
def foldHigh (w : UInt32) : UInt32 := w ^^^ (w >>> 30)

/-- The ring filled from a single word. -/
def ofWord (seed : UInt32) : WordRing :=
  (List.range' 1 623).foldl
    (fun ring i =>
      setWord ring i (1812433253 * foldHigh (word ring (i - 1)) + UInt32.ofNat i))
    (Vector.replicate 624 seed)

/-- Renews the word at `i`, between 1 and 623, in a pass that goes around the ring and keeps a copy
of the last word in place 0. -/
def setInPass (ring : WordRing) (i : Nat) (w : UInt32) : WordRing :=
  let ring := setWord ring i w
  if i = 623 then setWord ring 0 w else ring

/-- The ring filled from a list of words, which are used in turn as often as needed. -/
def ofWords (key : List UInt32) : WordRing :=
  let keys := key.toArray
  let count := max 624 keys.size
  let ring := (List.range count).foldl
    (fun ring step =>
      let i := step % 623 + 1
      let j := step % keys.size
      setInPass ring i
        ((word ring i ^^^ (foldHigh (word ring (i - 1)) * 1664525)) +
          keys.getD j 0 + UInt32.ofNat j))
    (ofWord 19650218)
  let ring := (List.range' count 623).foldl
    (fun ring step =>
      let i := step % 623 + 1
      setInPass ring i
        ((word ring i ^^^ (foldHigh (word ring (i - 1)) * 1566083941)) - UInt32.ofNat i))
    ring
  setWord ring 0 0x80000000

end WordRing

/-- The 32-bit words of a number, least significant first, at least one. -/
def seedWords (n : Nat) : List UInt32 :=
  if n < UInt32.size then [UInt32.ofNat n]
  else UInt32.ofNat (n % UInt32.size) :: seedWords (n / UInt32.size)
termination_by n
decreasing_by
  simp only [UInt32.size] at *
  omega

/-- A ring and the place of the word to be renewed next. -/
structure Twister where
  ring : WordRing
  place : Nat

namespace Twister

/-- Seeds that differ only in sign give the same generator. -/
def ofSeed (seed : Int) : Twister :=
  ⟨WordRing.ofWords (seedWords seed.natAbs), 0⟩

def temper (w : UInt32) : UInt32 :=
  let w := w ^^^ (w >>> 11)
  let w := w ^^^ ((w <<< 7) &&& 0x9d2c5680)
  let w := w ^^^ ((w <<< 15) &&& 0xefc60000)
  w ^^^ (w >>> 18)

/-- The next 32 random bits. -/
def next : Twister → UInt32 × Twister
  | ⟨ring, place⟩ =>
    let joined := (ring.word place &&& 0x80000000) ||| (ring.word (place + 1) &&& 0x7fffffff)
    let twisted := (joined >>> 1) ^^^ (if joined &&& 1 = 1 then 0x9908b0df else 0)
    let w := ring.word (place + 397) ^^^ twisted
    (temper w, ⟨ring.setWord place w, (place + 1) % 624⟩)

/-- The denominator of random fractions, 2^53. -/
def denominator : Nat := 0x20000000000000

/-- The numerator of the next random fraction, from 53 random bits. -/
def nextFraction (twister : Twister) : Nat × Twister :=
  let (high, twister) := twister.next
  let (low, twister) := twister.next
  (((high >>> 5).toNat <<< 26) + (low >>> 6).toNat, twister)

end Twister

end InfixCalculator
