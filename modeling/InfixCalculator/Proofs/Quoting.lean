import InfixCalculator.Proofs.DebugLog
import InfixCalculator.Text.Unquoted

/-! # Quoted text in messages and records

A quoted text stays on one line and shows nothing unprintable, and the text is read back from it
whatever is written behind. So the message of a lexical error tells which character is to blame, and
the record of a failure tells which text failed and how. Main statement: `quote_lossless`.
-/
namespace InfixCalculator

namespace Quoted

variable {printable : Char → Bool} {delimiter c d : Char} {text : List Char}

/-- The characters that delimiters and escapes are written with. -/
def marks : List Char :=
  [apostrophe, doubleQuote, backslash, 't', 'n', 'r', 'x', 'u', 'U', '0', '1', '2', '3', '4', '5',
    '6', '7', '8', '9', 'a', 'b', 'c', 'd', 'e', 'f']

theorem visible_of_mem_marks : ∀ c ∈ marks, 0x20 ≤ c.toNat ∧ c.toNat < 0x7f := by
  simp [marks, apostrophe, doubleQuote, backslash]

theorem digitChar_mem_marks : ∀ d < 16, Nat.digitChar d ∈ marks := by
  decide

theorem mem_marks_of_mem_hexDigits {width n : Nat} (h : c ∈ hexDigits width n) : c ∈ marks := by
  induction width generalizing n with
  | zero => cases h
  | succ width ih =>
    rw [hexDigits, List.mem_append, List.mem_singleton] at h
    rcases h with front | rfl
    · exact ih front
    · exact digitChar_mem_marks _ (Nat.mod_lt _ (by decide))

theorem exists_codeEscape_eq (c : Char) :
    ∃ width, ∃ mark ∈ marks, codeEscape c = mark :: hexDigits width c.toNat := by
  unfold codeEscape
  split
  · exact ⟨2, 'x', by decide, rfl⟩
  split
  · exact ⟨4, 'u', by decide, rfl⟩
  · exact ⟨8, 'U', by decide, rfl⟩

theorem mem_marks_of_mem_codeEscape (h : d ∈ codeEscape c) : d ∈ marks := by
  obtain ⟨width, mark, hmark, shape⟩ := exists_codeEscape_eq c
  rw [shape] at h
  rcases List.mem_cons.mp h with rfl | digits
  · exact hmark
  · exact mem_marks_of_mem_hexDigits digits

theorem delimiter_mem_marks (text : List Char) : Quoted.delimiter text ∈ marks := by
  rcases delimiter_eq text with h | h <;> rw [h] <;> decide

/-- A character is written as itself only if it is printable. -/
theorem mem_escape (mark : delimiter ∈ marks) (h : d ∈ escape printable delimiter c) :
    d = c ∧ printable c ∨ d ∈ marks := by
  have pair : ∀ {code}, code ∈ marks → d ∈ [backslash, code] → d ∈ marks := by
    intro code hcode hd
    rcases List.mem_pair.mp hd with rfl | rfl
    · decide
    · exact hcode
  unfold escape at h
  split at h
  · next special =>
    refine .inr (pair ?_ h)
    rcases special with rfl | rfl
    · exact mark
    · decide
  split at h
  · exact .inr (pair (by decide) h)
  split at h
  · exact .inr (pair (by decide) h)
  split at h
  · exact .inr (pair (by decide) h)
  split at h
  · next shown => exact .inl ⟨List.mem_singleton.mp h, shown⟩
  · rcases List.mem_cons.mp h with rfl | code
    · exact .inr (by decide)
    · exact .inr (mem_marks_of_mem_codeEscape code)

theorem mem_quote (h : c ∈ quote printable text) : printable c ∨ c ∈ marks := by
  rw [quote, List.mem_append, List.mem_cons, List.mem_flatMap, List.mem_singleton] at h
  rcases h with (rfl | ⟨source, -, written⟩) | rfl
  · exact .inr (delimiter_mem_marks text)
  · rcases mem_escape (delimiter_mem_marks text) written with ⟨rfl, shown⟩ | mark
    · exact .inl shown
    · exact .inr mark
  · exact .inr (delimiter_mem_marks text)

theorem not_isControl_of_mem_quote (controls : ∀ c, IsControl c → printable c = false)
    (h : c ∈ quote printable text) : ¬ IsControl c := by
  intro control
  rcases mem_quote h with shown | mark
  · rw [controls c control] at shown
    exact Bool.false_ne_true shown
  · have visible := visible_of_mem_marks c mark
    unfold IsControl at control
    omega

theorem isPrintable_of_mem_quote (h : c ∈ quote isPrintable text) : isPrintable c := by
  rcases mem_quote h with shown | mark
  · exact shown
  · obtain ⟨low, high⟩ := visible_of_mem_marks c mark
    exact isPrintable_of_lt low high

theorem newline_notMem_quote : '\n' ∉ quote isPrintable text := by
  have controls : ∀ c, IsControl c → isPrintable c = false := fun _ =>
    isPrintable_eq_false_of_isControl
  intro h
  exact not_isControl_of_mem_quote controls h (by decide)

theorem quote_injective : Function.Injective (quote printable) := by
  intro text text' same
  have read := unquote_quote printable text []
  rw [same, unquote_quote] at read
  cases read
  rfl

end Quoted

namespace LexicalCause

theorem toList_summary_unexpectedCharacter (c : Char) :
    (summary (.unexpectedCharacter c)).toList =
      "Unexpected character: ".toList ++ Quoted.quote isPrintable [c] := by
  have spelled : summary (.unexpectedCharacter c) =
      "Unexpected character: " ++ String.ofList (Quoted.quote isPrintable [c]) := rfl
  rw [spelled, String.toList_append]
  exact congrArg ("Unexpected character: ".toList ++ ·) String.toList_ofList

theorem newline_notMem_summary (cause : LexicalCause) : '\n' ∉ cause.summary.toList := by
  cases cause with
  | unexpectedCharacter c =>
    rw [toList_summary_unexpectedCharacter, List.mem_append, not_or]
    exact ⟨by decide +kernel, Quoted.newline_notMem_quote⟩
  | numberTooLong => decide +kernel

theorem summary_injective : Function.Injective summary := by
  have apart : ∀ c, summary (.unexpectedCharacter c) ≠ summary .numberTooLong := by
    intro c same
    have spelled := congrArg String.toList same
    rw [toList_summary_unexpectedCharacter] at spelled
    have first : 'U' = 'N' := (List.cons.inj spelled).1
    exact absurd first (by decide)
  intro cause cause' same
  cases cause with
  | unexpectedCharacter c =>
    cases cause' with
    | unexpectedCharacter c' =>
      have quoted := congrArg String.toList same
      rw [toList_summary_unexpectedCharacter, toList_summary_unexpectedCharacter,
        List.append_cancel_left_eq] at quoted
      cases Quoted.quote_injective quoted
      rfl
    | numberTooLong => exact absurd same (apart c)
  | numberTooLong =>
    cases cause' with
    | unexpectedCharacter c' => exact absurd same.symm (apart c')
    | numberTooLong => rfl

end LexicalCause

/-- The first line of a display is its header. -/
theorem Caret.takeWhile_display {header : String} (line : '\n' ∉ header.toList)
    (source : List Char) (index : Nat) :
    (display header source index).toList.takeWhile (· ≠ '\n') = header.toList := by
  have inside : ∀ c ∈ header.toList, decide (c ≠ '\n') = true := by
    intro c mem
    exact decide_eq_true fun h => line (h ▸ mem)
  simp only [display, String.toList_append, List.append_assoc]
  rw [List.takeWhile_append_of_pos inside]
  simp

/-- The message of a lexical error tells its cause, whatever the text and the place. -/
theorem LexicalError.cause_eq_of_message_eq {e e' : LexicalError} (same : e.message = e'.message) :
    e.cause = e'.cause := by
  have first_line : ∀ e : LexicalError, e.message.toList.takeWhile (· ≠ '\n') =
      "[Tokenizer error] ".toList ++ e.cause.summary.toList := by
    intro e
    rw [message, Caret.takeWhile_display, String.toList_append]
    rw [String.toList_append, List.mem_append, not_or]
    exact ⟨by decide +kernel, e.cause.newline_notMem_summary⟩
  have header := congrArg (fun s => s.toList.takeWhile (· ≠ '\n')) same
  simp only [first_line, List.append_cancel_left_eq] at header
  exact LexicalCause.summary_injective (String.toList_injective header)

namespace Calculator

/-- Reads the text that failed and the message of its error off a record. -/
def readFailure? (record : LogRecord) : Option (String × String) := do
  let quoted ← record.message.toList.dropPrefix? "evaluation of ".toList
  let (text, rest) ← Quoted.unquote quoted
  let message ← rest.dropPrefix? " failed: ".toList
  return (String.ofList text, String.ofList message)

theorem dropPrefix?_append (front back : List Char) :
    (front ++ back).dropPrefix? front = some back :=
  List.dropPrefix?_eq_some_iff.mpr ⟨front, rfl, beq_self_eq_true front⟩

theorem readFailure?_failureRecord (text : String) (error : CalculationError) :
    readFailure? (failureRecord text error) = some (text, error.message) := by
  have message : (failureRecord text error).message.toList =
      "evaluation of ".toList ++ (Quoted.quote isPrintable text.toList ++
        (" failed: ".toList ++ error.message.toList)) := by
    simp only [failureRecord, String.toList_append, String.toList_ofList, List.append_assoc]
  rw [readFailure?, message, dropPrefix?_append]
  simp only [Option.bind_eq_bind, Option.bind_some, Quoted.unquote_quote, dropPrefix?_append,
    String.ofList_toList]
  rfl

/-- The record of the tokens begins with a digit, so it is not taken for a failure. -/
theorem readFailure?_tokensRecord (tokens : List Token) :
    readFailure? (tokensRecord tokens) = none := by
  have message : (tokensRecord tokens).message.toList =
      Nat.toDigits 10 tokens.length ++
        (" tokens: ".toList ++ (Token.canonicalText tokens).toList) := by
    have written : (tokensRecord tokens).message =
        toString tokens.length ++ " tokens: " ++ Token.canonicalText tokens := rfl
    rw [written, Nat.toString_eq_repr, String.toList_append, String.toList_append,
      Nat.toList_repr, List.append_assoc]
  have some_digit : Nat.toDigits 10 tokens.length ≠ [] := Nat.toDigits_ne_nil
  obtain ⟨c, digits, split⟩ := List.exists_cons_of_ne_nil some_digit
  have digit : c.isDigit := by
    have mem : c ∈ Nat.toDigits 10 tokens.length := split ▸ List.mem_cons_self
    exact Nat.isDigit_of_mem_toDigits (by decide) (by decide) mem
  have no_prefix : (tokensRecord tokens).message.toList.dropPrefix? "evaluation of ".toList =
      none := by
    rw [message, split, List.cons_append]
    refine Option.eq_none_iff_forall_ne_some.mpr fun rest found => ?_
    obtain ⟨front, same, eq⟩ := List.dropPrefix?_eq_some_iff.mp found
    obtain rfl := eq_of_beq eq
    have first : c = 'e' := (List.cons.inj same).1
    rw [first] at digit
    exact Bool.false_ne_true digit
  rw [readFailure?, no_prefix]
  rfl

/-- From a log the failures are read back, and nothing else. -/
theorem filterMap_readFailure? (text : String) :
    (tokensRecords text ++ failureRecords text).filterMap readFailure? =
      match evaluateText text with
      | .ok _ => []
      | .error error => [(text, error.message)] := by
  have tokens_only : (tokensRecords text).filterMap readFailure? = [] := by
    rw [tokensRecords]
    cases readTokens text with
    | error error => rfl
    | ok tokens => rw [List.filterMap_cons, readFailure?_tokensRecord, List.filterMap_nil]
  rw [List.filterMap_append, tokens_only, List.nil_append, failureRecords]
  cases evaluateText text with
  | ok value => rfl
  | error error => rw [List.filterMap_cons, readFailure?_failureRecord, List.filterMap_nil]

end Calculator

namespace Quoted

/-- Whichever characters are printable, as long as no control character is, a text in quotes holds no
control character; what it holds besides the marks of delimiters and escapes is printable. Between
its delimiters each character of the text stands for itself, which only printable ones do, or behind
a backslash as an escape. The text is read back up to the delimiter that is not escaped, whatever
follows; alone, that is the last character.

With the printable characters of the calculator all that is quoted is printable. Its messages about
different characters differ. From a record of a failure the text and the message of the error are
read back, whatever the message, and a log tells no failure but that of its text. -/
theorem quote_lossless :
    (∀ printable : Char → Bool, (∀ c, IsControl c → printable c = false) → ∀ text,
      (∀ c ∈ quote printable text, ¬ IsControl c ∧ (printable c ∨ c ∈ marks)) ∧
      (∃ pieces, quote printable text = delimiter text :: pieces.flatten ++ [delimiter text] ∧
        List.Forall₂ (Written printable (delimiter text)) text pieces) ∧
      (∀ rest, unquote (quote printable text ++ rest) = some (text, rest))) ∧
    (∀ c, IsControl c → isPrintable c = false) ∧
    (∀ text, ∀ c ∈ quote isPrintable text, isPrintable c) ∧
    (∀ c c' text text' index index', c ≠ c' →
      LexicalError.message ⟨.unexpectedCharacter c, text, index⟩ ≠
        LexicalError.message ⟨.unexpectedCharacter c', text', index'⟩) ∧
    (∀ text error, Calculator.readFailure? (Calculator.failureRecord text error) =
      some (text, error.message)) ∧
    (∀ text error, evaluateText text = .error error →
      (evaluateLogged true text).2.filterMap Calculator.readFailure? =
        [(text, error.message)]) := by
  refine ⟨?_, fun c => isPrintable_eq_false_of_isControl, fun text c => isPrintable_of_mem_quote,
    ?_, Calculator.readFailure?_failureRecord, ?_⟩
  · intro printable controls text
    refine ⟨fun c mem => ?_, ?_, unquote_quote printable text⟩
    · exact ⟨not_isControl_of_mem_quote controls mem, mem_quote mem⟩
    · exact ⟨pieces printable text, quote_eq printable text, written_pieces printable text⟩
  · intro c c' text text' index index' different same
    cases LexicalError.cause_eq_of_message_eq same
    exact different rfl
  · intro text error failed
    have read := Calculator.filterMap_readFailure? text
    rw [failed] at read
    rw [Calculator.evaluateLogged_eq, if_pos rfl, read]

/-- Both delimiters and escapes of every width; then a failure whose message quotes again. -/
theorem quote_lossless_every_escape :
    let text := [apostrophe, doubleQuote, backslash, '\n', Char.ofNat 7, 'é', Char.ofNat 0x200b,
      Char.ofNat 0xe0001]
    let quoted := quote isPrintable text
    let rest := " failed: '".toList
    let error : LexicalError := ⟨.unexpectedCharacter '\n', "5\n'", 1⟩
    quoted = "'\\'\"\\\\\\n\\x07é\\u200b\\U000e0001'".toList ∧
      (∀ c ∈ quoted, ¬ IsControl c) ∧ unquote (quoted ++ rest) = some (text, rest) ∧
      error.message ≠ LexicalError.message ⟨.unexpectedCharacter 'n', "5n'", 1⟩ ∧
      (evaluateLogged true "5\n'").2.filterMap Calculator.readFailure? =
        [("5\n'", error.message)] := by
  intro text quoted rest error
  obtain ⟨any, controls, -, different, -, told⟩ := quote_lossless
  obtain ⟨single_line, -, read⟩ := any isPrintable controls text
  have failed : evaluateText "5\n'" = .error (.lexical error) :=
    evaluateText_of_scanText_error (by decide +kernel)
  exact ⟨by decide +kernel, fun c mem => (single_line c mem).1, read rest,
    different '\n' 'n' _ _ _ _ (by decide), told _ _ failed⟩

end Quoted

end InfixCalculator
