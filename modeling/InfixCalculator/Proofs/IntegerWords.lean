import InfixCalculator.Fuzz.CommandLine.Request
import Mathlib

/-! # Integers as words of a command line

The decimal text of an integer is a word that may serve as a value, even where it begins with a
dash, and it is read back as the integer, provided that it is not too long. So a setting takes the
integer as its value.
-/
namespace InfixCalculator

namespace Integer

variable {text : List Char}

/-- An integer whose decimal text is short enough to be read. -/
def Readable (n : Int) : Prop :=
  (Nat.toDigits 10 n.natAbs).length ≤ maxDigits

instance (n : Int) : Decidable (Readable n) :=
  inferInstanceAs (Decidable (_ ≤ _))

theorem isDigit_of_mem_toDigits {n : Nat} {c : Char} (h : c ∈ Nat.toDigits 10 n) : c.isDigit :=
  Nat.isDigit_of_mem_toDigits (by decide) (by decide) h

theorem toList_toString (n : Int) :
    (toString n).toList = (if n < 0 then ['-'] else []) ++ Nat.toDigits 10 n.natAbs := by
  rw [Int.toString_eq_repr, Int.repr_eq_if]
  by_cases negative : n < 0
  · have magnitude : (-n).toNat = n.natAbs := by omega
    rw [if_neg (Int.not_le.mpr negative), if_pos negative, magnitude]
    simp
  · have magnitude : n.toNat = n.natAbs := by omega
    rw [if_pos (Int.not_lt.mp negative), if_neg negative, magnitude]
    simp

theorem digits?_of_isDigit (ne : text ≠ []) (digits : ∀ c ∈ text, c.isDigit) :
    digits? text = some (text.map fun c => c.toNat - '0'.toNat) := by
  induction text with
  | nil => exact absurd rfl ne
  | cons c text ih =>
    have value := digitValue?_of_isDigit (digits c (by simp))
    cases text with
    | nil => simp [digits?, value]
    | cons d text =>
      have digits_behind : ∀ e ∈ d :: text, e.isDigit := fun e he =>
        digits e (List.mem_cons_of_mem c he)
      have no_low_line : ∀ rest, d :: text = '_' :: rest → False := by
        rintro rest ⟨⟩
        exact absurd (digits_behind '_' (by simp)) (by decide)
      rw [digits?, value, ih (by simp) digits_behind]
      · rfl
      · simp
      · exact no_low_line

theorem natural?_toDigits {n : Nat} (short : (Nat.toDigits 10 n).length ≤ maxDigits) :
    natural? (Nat.toDigits 10 n) = some n := by
  rw [natural?, digits?_of_isDigit Nat.toDigits_ne_nil fun _ => isDigit_of_mem_toDigits]
  simp only [List.length_map, short, if_true, List.foldl_map]
  exact congrArg some Nat.ofDigitChars_ten_toDigits

theorem signed?_of_isDigit (digits : ∀ c ∈ text, c.isDigit) :
    signed? text = (natural? text).map fun n => (n : Int) := by
  unfold signed?
  split
  · exact absurd (digits '-' (by simp)) (by decide)
  · exact absurd (digits '+' (by simp)) (by decide)
  · rfl

theorem trim_of_isMargin (h : ∀ c ∈ text, isMargin c = false) : trim text = text := by
  have kept : ∀ text : List Char, (∀ c ∈ text, isMargin c = false) →
      text.dropWhile isMargin = text := by
    intro text h
    cases text with
    | nil => rfl
    | cons c text => rw [List.dropWhile_cons_of_neg (by simp [h c])]
  rw [trim, kept text h, kept text.reverse (by simpa using h), List.reverse_reverse]

theorem isMargin_of_mem_toString {n : Int} {c : Char} (h : c ∈ (toString n).toList) :
    isMargin c = false := by
  rw [toList_toString, List.mem_append] at h
  rcases h with sign | digit
  · have dash : c = '-' := by
      split at sign
      · exact List.mem_singleton.mp sign
      · cases sign
    subst dash
    rfl
  · simp [isMargin, isBlank_of_isDigit (isDigit_of_mem_toDigits digit)]

theorem read?_toString {n : Int} (readable : Readable n) :
    read? (toString n).toList = some n := by
  have magnitude := natural?_toDigits readable
  rw [read?, trim_of_isMargin fun _ => isMargin_of_mem_toString, toList_toString]
  by_cases negative : n < 0
  · have value : -(n.natAbs : Int) = n := by omega
    rw [if_pos negative, List.singleton_append, signed?, magnitude]
    exact congrArg some value
  · have value : (n.natAbs : Int) = n := by omega
    rw [if_neg negative, List.nil_append, signed?_of_isDigit fun _ => isDigit_of_mem_toDigits,
      magnitude]
    exact congrArg some value

end Integer

namespace CommandLine

namespace Word

variable {digits : List Char}

theorem isNegativeNumber_of_isDigit (ne : digits ≠ []) (h : ∀ c ∈ digits, c.isDigit) :
    isNegativeNumber digits := by
  have known : ∀ c ∈ digits, (digitValue? c).isSome := by
    intro c hc
    rw [digitValue?_of_isDigit (h c hc)]
    rfl
  have run : digits.dropWhile (fun c => (digitValue? c).isSome) = [] :=
    List.dropWhile_eq_nil_iff.mpr known
  obtain ⟨c, rest, rfl⟩ := List.exists_cons_of_ne_nil ne
  simp [isNegativeNumber, run, known c]

theorem ofChars_of_isDigit (h : ∀ c ∈ digits, c.isDigit) : ofChars digits = value := by
  unfold ofChars
  split
  · exact absurd (h '-' (by simp)) (by decide)
  · exact absurd (h '-' (by simp)) (by decide)
  · exact absurd (h '-' (by simp)) (by decide)
  · rfl

theorem ofChars_negative (ne : digits ≠ []) (h : ∀ c ∈ digits, c.isDigit) :
    ofChars ('-' :: digits) = value := by
  have number := isNegativeNumber_of_isDigit ne h
  unfold ofChars
  split
  · next split =>
    cases split
    exact absurd (h '-' (by simp)) (by decide)
  · next split =>
    cases split
    exact absurd (h 'h' (by simp)) (by decide)
  · next split =>
    cases split
    simp [ofOther, number]
  · next other => exact absurd rfl (other _)

theorem ofString_toString (n : Int) : ofString (toString n) = value := by
  have digits : ∀ c ∈ Nat.toDigits 10 n.natAbs, c.isDigit := fun _ =>
    Integer.isDigit_of_mem_toDigits
  rw [ofString, Integer.toList_toString]
  by_cases negative : n < 0
  · rw [if_pos negative]
    exact ofChars_negative Nat.toDigits_ne_nil digits
  · rw [if_neg negative]
    exact ofChars_of_isDigit digits

end Word

theorem toString_ne_dashes (n : Int) : toString n ≠ "--" := by
  intro h
  have word := Word.ofString_toString n
  rw [h] at word
  revert word
  decide +kernel

theorem classify_cons {word : String} (no_dashes : word ≠ "--") (words : List String) :
    classify (word :: words) = (word, .ofString word) :: classify words := by
  rw [classify, if_neg no_dashes]

namespace Request

theorem setFrom_toString (settings : Settings) (setting : Setting) {n : Int}
    (readable : Integer.Readable n) :
    setFrom settings setting (toString n) = .ok (settings.set (some n) setting) := by
  rw [setFrom, Integer.read?_toString readable]

theorem handle_setting (settings : Settings) (leftOver : List String) (setting : Setting)
    (word : String) {n : Int} (readable : Integer.Readable n) (words : List (String × Word)) :
    handle settings leftOver
        ((word, .flag (.set setting) none) :: (toString n, .value) :: words) =
      handle (settings.set (some n) setting) leftOver words := by
  rw [handle, setFrom_toString settings setting readable]
  rfl

end Request

end CommandLine

end InfixCalculator
