import InfixCalculator.Text.Quoted
import Mathlib

/-! # Reading quoted text

`unquote` reads a text in quotes off the front and gives what follows the closing delimiter. `Written`
says how a character may stand between the delimiters: whatever is written so is read back. Main
statement: `unquote_quote`. Reading undoes `quote` whatever follows, so the closing delimiter cannot
be mistaken.
-/
namespace InfixCalculator.Quoted

def hexValue? (c : Char) : Option Nat :=
  if c.isDigit then some (c.toNat - '0'.toNat)
  else if 'a' ≤ c ∧ c ≤ 'f' then some (c.toNat - 'a'.toNat + 10)
  else none

/-- Reads a number of `width` hexadecimal digits behind `n`. -/
def readHex : Nat → Nat → List Char → Option (Nat × List Char)
  | 0, n, text => some (n, text)
  | _ + 1, _, [] => none
  | width + 1, n, c :: text =>
    match hexValue? c with
    | some d => readHex width (16 * n + d) text
    | none => none

/-- Reads a character by its code point. A number that is no code point of a character is refused. -/
def readCode (width : Nat) (text : List Char) : Option (Char × List Char) :=
  (readHex width 0 text).bind fun (n, rest) =>
    if n.isValidChar then some (Char.ofNat n, rest) else none

/-- Reads what stands behind a backslash. -/
def readEscape : List Char → Option (Char × List Char)
  | [] => none
  | c :: text =>
    if c = 't' then some ('\t', text)
    else if c = 'n' then some ('\n', text)
    else if c = 'r' then some ('\r', text)
    else if c = 'x' then readCode 2 text
    else if c = 'u' then readCode 4 text
    else if c = 'U' then readCode 8 text
    else if c = apostrophe ∨ c = backslash then some (c, text)
    else none

theorem length_readHex {width n m : Nat} {text rest : List Char}
    (h : readHex width n text = some (m, rest)) : rest.length ≤ text.length := by
  induction width generalizing n text with
  | zero => simp only [readHex, Option.some.injEq, Prod.mk.injEq] at h; simp [h.2]
  | succ width ih =>
    cases text with
    | nil => simp [readHex] at h
    | cons c text =>
      simp only [readHex] at h
      split at h
      · exact Nat.le_succ_of_le (ih h)
      · cases h

theorem length_readCode {width : Nat} {text rest : List Char} {c : Char}
    (h : readCode width text = some (c, rest)) : rest.length ≤ text.length := by
  obtain ⟨⟨n, rest'⟩, hn, hrest⟩ := Option.bind_eq_some_iff.mp h
  obtain ⟨-, heq⟩ := Option.ite_none_right_eq_some.mp hrest
  cases heq
  exact length_readHex hn

theorem length_readEscape {text rest : List Char} {c : Char}
    (h : readEscape text = some (c, rest)) : rest.length < text.length := by
  cases text with
  | nil => cases h
  | cons d text =>
    simp only [readEscape] at h
    simp only [List.length_cons, Nat.lt_succ_iff]
    split at h
    · cases h; exact Nat.le_refl _
    split at h
    · cases h; exact Nat.le_refl _
    split at h
    · cases h; exact Nat.le_refl _
    split at h
    · exact length_readCode h
    split at h
    · exact length_readCode h
    split at h
    · exact length_readCode h
    split at h
    · cases h; exact Nat.le_refl _
    · cases h

/-- Reads up to the first delimiter that is not escaped; gives what was read and what follows. -/
def readUpTo (delimiter : Char) : List Char → Option (List Char × List Char)
  | [] => none
  | c :: text =>
    if c = delimiter then some ([], text)
    else if c = backslash then
      match _h : readEscape text with
      | some (d, rest) => (readUpTo delimiter rest).map fun (read, rest) => (d :: read, rest)
      | none => none
    else (readUpTo delimiter text).map fun (read, rest) => (c :: read, rest)
termination_by text => text.length
decreasing_by
  · have := length_readEscape ‹_›
    simp only [List.length_cons]; omega
  · simp

/-- Either delimiter may open a text; the same one closes it. -/
def unquote : List Char → Option (List Char × List Char)
  | c :: text => if c = apostrophe ∨ c = doubleQuote then readUpTo c text else none
  | [] => none

theorem hexValue?_digitChar {d : Nat} (h : d < 16) : hexValue? (Nat.digitChar d) = some d := by
  revert d; decide

theorem readHex_hexDigits (width more n m : Nat) (text : List Char) :
    readHex (width + more) m (hexDigits width n ++ text) =
      readHex more (m * 16 ^ width + n % 16 ^ width) text := by
  induction width generalizing more n text with
  | zero => simp [hexDigits, Nat.mod_one]
  | succ width ih =>
    rw [hexDigits, List.append_assoc, show width + 1 + more = width + (more + 1) by omega, ih]
    simp only [List.singleton_append, readHex,
      hexValue?_digitChar (Nat.mod_lt n (by decide : 0 < 16))]
    rw [Nat.pow_succ', Nat.mod_mul]
    congr 1
    rw [Nat.mul_add, Nat.mul_left_comm]
    omega

theorem readCode_hexDigits {width : Nat} {c : Char} (h : c.toNat < 16 ^ width)
    (text : List Char) : readCode width (hexDigits width c.toNat ++ text) = some (c, text) := by
  have := readHex_hexDigits width 0 c.toNat 0 text
  simp only [Nat.add_zero, Nat.zero_mul, Nat.zero_add, Nat.mod_eq_of_lt h, readHex] at this
  have valid : c.toNat.isValidChar := c.valid
  simp [readCode, this, valid, Char.ofNat_toNat]

theorem readEscape_codeEscape (c : Char) (text : List Char) :
    readEscape (codeEscape c ++ text) = some (c, text) := by
  unfold codeEscape
  split
  · next h => simpa [readEscape] using @readCode_hexDigits 2 c h text
  · split
    · next h => simpa [readEscape] using @readCode_hexDigits 4 c h text
    · have h : c.toNat < 16 ^ 8 := UInt32.toNat_lt c.val
      simpa [readEscape] using readCode_hexDigits h text

theorem readUpTo_backslash {delimiter d : Char} {text rest : List Char}
    (hd : delimiter ≠ backslash) (h : readEscape text = some (d, rest)) :
    readUpTo delimiter (backslash :: text) =
      (readUpTo delimiter rest).map fun (read, rest) => (d :: read, rest) := by
  rw [readUpTo]
  simp only [hd.symm, if_false, if_true]
  split
  · next h' => rw [h] at h'; cases h'; rfl
  · next h' => rw [h] at h'; cases h'

/-- How one character of a text stands between delimiters: as itself, or behind a backslash as an
escape that the character is read from. -/
inductive Written (printable : Char → Bool) (delimiter c : Char) : List Char → Prop
  | plain (shown : printable c) (no_delimiter : c ≠ delimiter) (no_backslash : c ≠ backslash) :
      Written printable delimiter c [c]
  | escaped {code : List Char} (read : ∀ rest, readEscape (code ++ rest) = some (c, rest)) :
      Written printable delimiter c (backslash :: code)

section Reading

variable {printable : Char → Bool} {delimiter c : Char} {text piece : List Char}

/-- Double quotes are never escaped: there are none between double quotes, and between apostrophes
they stand for themselves. -/
theorem written_escape (printable : Char → Bool) (apart : c = delimiter → c = apostrophe) :
    Written printable delimiter c (escape printable delimiter c) := by
  unfold escape
  split
  · next h =>
    refine .escaped fun rest => ?_
    have : c = apostrophe ∨ c = backslash := h.imp_left apart
    rcases this with rfl | rfl <;> rfl
  next plain =>
  split
  · next h => subst h; exact .escaped fun _ => rfl
  split
  · next h => subst h; exact .escaped fun _ => rfl
  split
  · next h => subst h; exact .escaped fun _ => rfl
  split
  · next shown =>
    obtain ⟨no_delimiter, no_backslash⟩ := not_or.mp plain
    exact .plain shown no_delimiter no_backslash
  · exact .escaped (readEscape_codeEscape c)

theorem Written.readUpTo_append (h : Written printable delimiter c piece)
    (hd : delimiter ≠ backslash) (rest : List Char) :
    readUpTo delimiter (piece ++ rest) =
      (readUpTo delimiter rest).map fun (read, rest) => (c :: read, rest) := by
  cases h with
  | plain shown no_delimiter no_backslash => simp [readUpTo, no_delimiter, no_backslash]
  | escaped read => exact readUpTo_backslash hd (read rest)

theorem readUpTo_flatten {pieces : List (List Char)}
    (written : List.Forall₂ (Written printable delimiter) text pieces)
    (hd : delimiter ≠ backslash) (rest : List Char) :
    readUpTo delimiter (pieces.flatten ++ delimiter :: rest) = some (text, rest) := by
  induction written with
  | nil => simp [readUpTo]
  | cons first _ ih => rw [List.flatten_cons, List.append_assoc, first.readUpTo_append hd, ih]; rfl

end Reading

theorem delimiter_eq (text : List Char) :
    delimiter text = apostrophe ∨ delimiter text = doubleQuote := by
  unfold delimiter; split <;> simp

theorem eq_apostrophe_of_delimiter {text : List Char} {c : Char} (mem : c ∈ text)
    (h : c = delimiter text) : c = apostrophe := by
  unfold delimiter at h
  split at h
  · next quoted => exact absurd (h ▸ mem) quoted.2
  · exact h

/-- How a text is written in quotes, character by character. -/
def pieces (printable : Char → Bool) (text : List Char) : List (List Char) :=
  text.map (escape printable (delimiter text))

theorem quote_eq (printable : Char → Bool) (text : List Char) :
    quote printable text =
      delimiter text :: (pieces printable text).flatten ++ [delimiter text] := by
  rw [quote, pieces, List.flatMap_def]

theorem written_pieces (printable : Char → Bool) (text : List Char) :
    List.Forall₂ (Written printable (delimiter text)) text (pieces printable text) := by
  rw [pieces, List.forall₂_map_right_iff, List.forall₂_same]
  exact fun c mem => written_escape printable (eq_apostrophe_of_delimiter mem)

theorem unquote_quote (printable : Char → Bool) (text rest : List Char) :
    unquote (quote printable text ++ rest) = some (text, rest) := by
  have hd : delimiter text ≠ backslash := by
    rcases delimiter_eq text with h | h <;> rw [h] <;> decide
  have read := readUpTo_flatten (written_pieces printable text) hd rest
  simpa [quote_eq, unquote, delimiter_eq] using read

end InfixCalculator.Quoted
