import InfixCalculator.Token
import InfixCalculator.Text.Caret
import InfixCalculator.Text.Printable
import InfixCalculator.Text.Quoted

/-! # Reading tokens from text

Numbers are maximal runs of ASCII digits, every other token is one character, and only the plain
space may stand between tokens. The scan stops at the first character that fits nowhere or at the
start of the first run of digits that is too long; no tokens are returned then.
-/
namespace InfixCalculator

inductive LexicalCause
  | unexpectedCharacter (c : Char)
  | numberTooLong
deriving DecidableEq, Repr

/-- Why a text has no tokens, and the index of the character to blame. -/
structure LexicalError where
  cause : LexicalCause
  text : String
  index : Nat
deriving DecidableEq, Repr

namespace Token

/-- The longest run of digits that is read as a number, leading zeros included. -/
def maxDigits : Nat := 4300

/-- The digits that a text begins with, and what follows them. -/
def digitRun (text : List Char) : List Char × List Char :=
  (text.takeWhile Char.isDigit, text.dropWhile Char.isDigit)

theorem digitRun_append (text : List Char) : (digitRun text).1 ++ (digitRun text).2 = text :=
  List.takeWhile_append_dropWhile

theorem isDigit_of_mem_digitRun {text : List Char} {c : Char} (h : c ∈ (digitRun text).1) :
    c.isDigit :=
  List.all_eq_true.mp List.all_takeWhile c h

theorem length_digitRun_snd_le (text : List Char) : (digitRun text).2.length ≤ text.length :=
  (List.dropWhile_sublist _).length_le

/-- The tokens of a text whose first character has index `start`. -/
def scan (start : Nat) : List Char → Except (LexicalCause × Nat) (List PlacedToken)
  | [] => .ok []
  | c :: text =>
    if c.isDigit then
      let run := digitRun text
      if run.1.length + 1 > maxDigits then .error (.numberTooLong, start)
      else
        (scan (start + run.1.length + 1) run.2).map
          (⟨.number (Nat.ofDigitChars 10 (c :: run.1) 0), start⟩ :: ·)
    else
      match ofSymbol? c with
      | some token => (scan (start + 1) text).map (⟨token, start⟩ :: ·)
      | none => if c = ' ' then scan (start + 1) text else .error (.unexpectedCharacter c, start)
termination_by text => text.length
decreasing_by
  · exact Nat.lt_succ_of_le (length_digitRun_snd_le text)
  · simp
  · simp

section Equations

variable {c : Char} {text : List Char} (start : Nat)

theorem scan_number (digit : c.isDigit) (short : (digitRun text).1.length + 1 ≤ maxDigits) :
    scan start (c :: text) =
      (scan (start + (digitRun text).1.length + 1) (digitRun text).2).map
        (⟨.number (Nat.ofDigitChars 10 (c :: (digitRun text).1) 0), start⟩ :: ·) := by
  rw [scan, if_pos digit]
  exact if_neg (Nat.not_lt.mpr short)

theorem scan_tooLong (digit : c.isDigit) (long : maxDigits < (digitRun text).1.length + 1) :
    scan start (c :: text) = .error (.numberTooLong, start) := by
  rw [scan, if_pos digit]
  exact if_pos long

theorem scan_symbol {t : Token} (symbol : ofSymbol? c = some t) (text : List Char) :
    scan start (c :: text) = (scan (start + 1) text).map (⟨t, start⟩ :: ·) := by
  rw [scan, if_neg (by simp [not_isDigit_of_ofSymbol? symbol]), symbol]

theorem scan_space (text : List Char) : scan start (' ' :: text) = scan (start + 1) text := by
  rw [scan]
  rfl

theorem scan_unexpected (no_digit : ¬ c.isDigit) (no_symbol : ofSymbol? c = none)
    (no_space : c ≠ ' ') (text : List Char) :
    scan start (c :: text) = .error (.unexpectedCharacter c, start) := by
  rw [scan, if_neg no_digit, no_symbol]
  exact if_neg no_space

end Equations

end Token

/-- The tokens of a text, in order and with their places. -/
def scanText (text : String) : Except LexicalError (List PlacedToken) :=
  (Token.scan 0 text.toList).mapError fun (cause, index) => { cause, text, index }

namespace LexicalCause

def summary : LexicalCause → String
  | unexpectedCharacter c =>
    "Unexpected character: " ++ String.ofList (Quoted.quote isPrintable [c])
  | numberTooLong => s!"Number literal longer than {Token.maxDigits} digits"

end LexicalCause

/-- The error as it is shown to a user, with a caret under the character to blame. -/
def LexicalError.message (e : LexicalError) : String :=
  Caret.display ("[Tokenizer error] " ++ e.cause.summary) e.text.toList e.index

end InfixCalculator
