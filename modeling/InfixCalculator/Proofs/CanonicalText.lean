import InfixCalculator.Proofs.Concatenation
import InfixCalculator.Proofs.ScanOutcome

/-! # Canonical text is read back

Taking out spaces from the joined lexemes, first behind opening and then in front of closing
parentheses, leaves between any two neighbours what their kinds ask for: `chars_eq_pairwiseChars`.
No two numbers ever touch, so the text is cut at every lexeme and has the tokens it was made from.
-/
namespace InfixCalculator.Token

variable {t u : Token} {tokens : List Token}

theorem isDigit_of_mem_lexeme_number {value : Nat} {c : Char}
    (h : c ∈ (number value).lexeme) : c.isDigit :=
  Nat.isDigit_of_mem_toDigits (by decide) (by decide) h

theorem mem_lexeme_iff {c : Char} (no_digit : c.isDigit = false) :
    c ∈ t.lexeme ↔ ofSymbol? c = some t := by
  rw [ofSymbol?_eq_some_iff]
  cases t with
  | number value =>
    constructor
    · intro h
      rw [isDigit_of_mem_lexeme_number h] at no_digit
      cases no_digit
    · rintro ⟨kind, -⟩
      exact absurd rfl kind
  | operator op => simp [kind, lexeme, eq_comm]
  | leftParen => simp [kind, lexeme, eq_comm]
  | rightParen => simp [kind, lexeme, eq_comm]

theorem space_notMem_lexeme (t : Token) : ' ' ∉ t.lexeme := by
  rw [mem_lexeme_iff rfl]
  simp [ofSymbol?, Operator.ofSymbol?]

theorem getLast?_lexeme_eq_iff : t.lexeme.getLast? = some '(' ↔ t = .leftParen := by
  constructor
  · intro h
    have := (mem_lexeme_iff rfl).mp (List.mem_of_getLast? h)
    exact (Option.some.inj this).symm
  · rintro rfl
    rfl

theorem head?_lexeme_eq_iff : t.lexeme.head? = some ')' ↔ t = .rightParen := by
  constructor
  · intro h
    have := (mem_lexeme_iff rfl).mp (List.mem_of_head? h)
    exact (Option.some.inj this).symm
  · rintro rfl
    rfl

/-- The lexemes with something between any two neighbours. -/
def joinBy (between : Token → Token → List Char) : List Token → List Char
  | [] => []
  | [t] => t.lexeme
  | t :: u :: tokens => t.lexeme ++ between t u ++ joinBy between (u :: tokens)

theorem head?_joinBy (between : Token → Token → List Char) (t : Token) (tokens : List Token) :
    (joinBy between (t :: tokens)).head? = t.lexeme.head? := by
  obtain ⟨c, word, hword⟩ := List.exists_cons_of_ne_nil t.lexeme_ne_nil
  cases tokens <;> simp [joinBy, hword]

theorem joinSpaced_eq_joinBy (tokens : List Token) :
    joinSpaced tokens = joinBy (fun _ _ => [' ']) tokens := by
  induction tokens with
  | nil => rfl
  | cons t tokens ih =>
    cases tokens with
    | nil => simp [joinSpaced, joinBy]
    | cons u tokens =>
      rw [joinBy, ← ih]
      simp [joinSpaced]

theorem pairwiseChars_eq_joinBy (tokens : List Token) :
    pairwiseChars tokens = joinBy separator tokens := by
  induction tokens with
  | nil => rfl
  | cons t tokens ih =>
    cases tokens with
    | nil => rfl
    | cons u tokens => rw [pairwiseChars, joinBy, ih]

theorem closeUpOpening_append {word : List Char} (ne : word ≠ []) (no_space : ' ' ∉ word)
    (opened : Bool) (text : List Char) :
    closeUpOpening opened (word ++ text) =
      word ++ closeUpOpening (word.getLast? = some '(') text := by
  induction word generalizing opened with
  | nil => exact absurd rfl ne
  | cons c word ih =>
    obtain ⟨not_space, no_space⟩ : ' ' ≠ c ∧ ' ' ∉ word := by simpa using no_space
    have kept : ¬ (opened ∧ c = ' ') := fun h => not_space h.2.symm
    rw [List.cons_append, closeUpOpening, if_neg kept]
    cases word with
    | nil => simp
    | cons d word =>
      rw [ih (by simp) no_space, List.getLast?_cons_cons]
      rfl

theorem closeUpClosing_append {word : List Char} (no_space : ' ' ∉ word) (text : List Char) :
    closeUpClosing (word ++ text) = word ++ closeUpClosing text := by
  induction word with
  | nil => rfl
  | cons c word ih =>
    obtain ⟨not_space, no_space⟩ : ' ' ≠ c ∧ ' ' ∉ word := by simpa using no_space
    have := ih no_space
    unfold closeUpClosing at this ⊢
    rw [List.cons_append, List.foldr_cons, if_neg, this]
    · rfl
    · exact fun h => not_space h.1.symm

theorem closeUpClosing_space (text : List Char) :
    closeUpClosing (' ' :: text) =
      if (closeUpClosing text).head? = some ')' then closeUpClosing text
      else ' ' :: closeUpClosing text := by
  unfold closeUpClosing
  rw [List.foldr_cons]
  simp

/-- What is left between neighbours when the spaces behind opening parentheses are gone. -/
def openingSeparator : Token → Token → List Char
  | .leftParen, _ => []
  | _, _ => [' ']

theorem openingSeparator_of_ne (not_opening : t ≠ .leftParen) (u : Token) :
    openingSeparator t u = [' '] := by
  cases t with
  | leftParen => exact absurd rfl not_opening
  | _ => rfl

theorem separator_eq (t u : Token) :
    separator t u = if u = .rightParen then [] else openingSeparator t u := by
  cases t <;> cases u <;> rfl

theorem closeUpClosing_openingSeparator (t u : Token) {text : List Char}
    (next : (closeUpClosing text).head? = u.lexeme.head?) :
    closeUpClosing (openingSeparator t u ++ text) = separator t u ++ closeUpClosing text := by
  rw [separator_eq]
  by_cases opening : t = .leftParen
  · subst opening
    simp [openingSeparator]
  · rw [openingSeparator_of_ne opening, List.singleton_append, closeUpClosing_space, next]
    simp only [head?_lexeme_eq_iff]
    split_ifs <;> rfl

theorem closeUpOpening_joinBy (opened : Bool) (tokens : List Token) :
    closeUpOpening opened (joinBy (fun _ _ => [' ']) tokens) = joinBy openingSeparator tokens := by
  induction tokens generalizing opened with
  | nil => rfl
  | cons t tokens ih =>
    cases tokens with
    | nil =>
      have := closeUpOpening_append t.lexeme_ne_nil t.space_notMem_lexeme opened []
      simpa [joinBy, closeUpOpening] using this
    | cons u tokens =>
      rw [joinBy, List.append_assoc, closeUpOpening_append t.lexeme_ne_nil t.space_notMem_lexeme,
        joinBy, List.append_assoc]
      congr 1
      simp only [getLast?_lexeme_eq_iff, List.singleton_append, closeUpOpening]
      cases t <;> simp [ih, openingSeparator]

theorem closeUpClosing_joinBy (tokens : List Token) :
    closeUpClosing (joinBy openingSeparator tokens) = joinBy separator tokens := by
  induction tokens with
  | nil => rfl
  | cons t tokens ih =>
    cases tokens with
    | nil =>
      have := closeUpClosing_append t.space_notMem_lexeme []
      simpa [joinBy, closeUpClosing] using this
    | cons u tokens =>
      have next : (closeUpClosing (joinBy openingSeparator (u :: tokens))).head? =
          u.lexeme.head? := by
        rw [ih, head?_joinBy]
      rw [joinBy, List.append_assoc, closeUpClosing_append t.space_notMem_lexeme,
        closeUpClosing_openingSeparator t u next, ih, joinBy, List.append_assoc]

/-- The three steps leave between two neighbours what they ask for. -/
theorem chars_eq_pairwiseChars (tokens : List Token) : chars tokens = pairwiseChars tokens := by
  rw [chars, joinSpaced_eq_joinBy, closeUpOpening_joinBy, closeUpClosing_joinBy,
    pairwiseChars_eq_joinBy]

/-- No number has more digits than can be read. -/
def NumbersFit (tokens : List Token) : Prop :=
  ∀ value, .number value ∈ tokens → (Nat.toDigits 10 value).length ≤ maxDigits

theorem numbersFit_iff : NumbersFit tokens ↔ ∀ t ∈ tokens, t.lexeme.length ≤ maxDigits := by
  constructor
  · intro h t ht
    cases t with
    | number value => exact h value ht
    | _ => simp [lexeme, maxDigits]
  · intro h value hvalue
    exact h (.number value) hvalue

theorem numbersFit_cons_iff :
    NumbersFit (t :: tokens) ↔ t.lexeme.length ≤ maxDigits ∧ NumbersFit tokens := by
  simp only [numbersFit_iff, List.forall_mem_cons]

instance (tokens : List Token) : Decidable (NumbersFit tokens) :=
  decidable_of_iff _ numbersFit_iff.symm

theorem spells_lexeme_number {value : Nat} (short : (number value).lexeme.length ≤ maxDigits) :
    Spells (number value).lexeme [number value] := by
  obtain ⟨c, word, hword⟩ := List.exists_cons_of_ne_nil (lexeme_ne_nil (.number value))
  have digits : ∀ d ∈ c :: word, d.isDigit := by
    intro d hd
    rw [← hword] at hd
    exact isDigit_of_mem_lexeme_number hd
  have run : digitRun word = (word, []) := by
    have all : ∀ d ∈ word, d.isDigit := fun d hd => digits d (List.mem_cons_of_mem c hd)
    rw [digitRun, List.takeWhile_eq_self_iff.mpr all, List.dropWhile_eq_nil_iff.mpr all]
  have read : Nat.ofDigitChars 10 (c :: word) 0 = value := by
    rw [← hword]
    exact Nat.ofDigitChars_ten_toDigits
  rw [hword] at short ⊢
  refine ⟨[⟨.number value, 0⟩], ?_, rfl⟩
  rw [scan_number 0 (digits c List.mem_cons_self) (by rwa [run]), run, read, scan]
  rfl

theorem exists_lexeme_eq_singleton (h : t.kind ≠ .number) : ∃ c, t.lexeme = [c] := by
  cases t with
  | number value => exact absurd rfl h
  | operator op => exact ⟨op.symbol, rfl⟩
  | leftParen => exact ⟨'(', rfl⟩
  | rightParen => exact ⟨')', rfl⟩

theorem spells_lexeme (short : t.lexeme.length ≤ maxDigits) : Spells t.lexeme [t] := by
  by_cases h : t.kind = .number
  · cases t with
    | number value => exact spells_lexeme_number short
    | _ => cases h
  · obtain ⟨c, hc⟩ := exists_lexeme_eq_singleton h
    have symbol := ofSymbol?_eq_some_iff.mpr ⟨h, hc⟩
    rw [hc]
    exact (spells_symbol_cons_iff symbol).mpr ⟨[], spells_nil_iff.mpr rfl, rfl⟩

theorem spells_separator_append_iff (t u : Token) {text : List Char} :
    Spells (separator t u ++ text) tokens ↔ Spells text tokens := by
  rw [separator_eq]
  split_ifs
  · rfl
  · cases t <;> simp [openingSeparator]

/-- Digits of two lexemes never touch. -/
theorem digitsApart_separator (t u : Token) (tokens : List Token) :
    DigitsApart t.lexeme (separator t u ++ pairwiseChars (u :: tokens)) := by
  by_cases ht : t = .leftParen
  · subst ht
    refine DigitsApart.of_front ?_
    rintro c ⟨⟩
    rfl
  · refine DigitsApart.of_back ?_
    by_cases hu : u = .rightParen
    · have closing : (pairwiseChars (u :: tokens)).head? = some ')' := by
        rw [pairwiseChars_eq_joinBy, head?_joinBy, head?_lexeme_eq_iff]
        exact hu
      rw [separator_eq, if_pos hu, List.nil_append, closing]
      rintro d ⟨⟩
      rfl
    · rw [separator_eq, if_neg hu, openingSeparator_of_ne ht]
      rintro d ⟨⟩
      rfl

theorem spells_pairwiseChars (fit : NumbersFit tokens) : Spells (pairwiseChars tokens) tokens := by
  induction tokens with
  | nil => exact spells_nil_iff.mpr rfl
  | cons t tokens ih =>
    have first := spells_lexeme (numbersFit_cons_iff.mp fit).1
    cases tokens with
    | nil => exact first
    | cons u tokens =>
      have behind := (spells_separator_append_iff t u).mpr (ih (numbersFit_cons_iff.mp fit).2)
      rw [pairwiseChars, List.append_assoc, spells_append_iff (digitsApart_separator t u tokens)]
      exact ⟨[t], u :: tokens, first, behind, rfl⟩

theorem ofDigitChars_lt {digits : List Char} (h : ∀ c ∈ digits, c.isDigit) :
    Nat.ofDigitChars 10 digits 0 < 10 ^ digits.length := by
  induction digits with
  | nil => simp
  | cons c digits ih =>
    obtain ⟨digit, digits_digit⟩ := List.forall_mem_cons.mp h
    have behind := ih digits_digit
    have high : c.toNat - '0'.toNat ≤ 9 :=
      Nat.sub_le_of_le_add (Char.isDigit_iff_toNat.mp digit).2
    have first := Nat.mul_le_mul_left (10 ^ digits.length) high
    rw [Nat.ofDigitChars_cons, Nat.ofDigitChars_eq_ofDigitChars_zero, List.length_cons, pow_succ,
      Nat.mul_zero, Nat.zero_add]
    omega

/-- No number is written longer than it was read, for leading zeros are left out. -/
theorem numbersFit_of_spells {text : List Char} (h : Spells text tokens) : NumbersFit tokens := by
  obtain ⟨placed, scanned, rfl⟩ := h
  have outcome := scanOutcome_scan text
  rw [scanned] at outcome
  obtain ⟨placement, faultless⟩ := outcome
  intro value hvalue
  obtain ⟨⟨_, position⟩, placed_here, rfl⟩ := List.mem_map.mp hvalue
  obtain ⟨run, read⟩ := PlacedToken.spelled_number_iff.mp (placement.spelled _ placed_here)
  have short := (faultless_iff.mp faultless).2 _ _ run
  have positive : 0 < maxDigits := by decide
  rw [Nat.length_toDigits_le_iff (by decide) positive, ← read]
  calc
    _ < 10 ^ (digitRun (text.drop position)).1.length :=
      ofDigitChars_lt fun _ => isDigit_of_mem_digitRun
    _ ≤ 10 ^ maxDigits := Nat.pow_le_pow_right (by decide) short

theorem readTokens_canonicalText (fit : NumbersFit tokens) :
    readTokens (canonicalText tokens) = .ok tokens := by
  rw [readTokens_eq_ok_iff, canonicalText, String.toList_ofList, chars_eq_pairwiseChars]
  exact spells_pairwiseChars fit

/-- Tokens are read back from their canonical text, so different tokens have different texts. A text
and the canonical text of its tokens have the same outcome, and the latter is its own canonical
text. -/
theorem canonicalText_round_trip :
    (∀ tokens, NumbersFit tokens → readTokens (canonicalText tokens) = .ok tokens) ∧
      (∀ tokens others, NumbersFit tokens → NumbersFit others →
        canonicalText tokens = canonicalText others → tokens = others) ∧
      ∀ text tokens, readTokens text = .ok tokens →
        evaluateText (canonicalText tokens) = evaluateText text ∧
          (readTokens (canonicalText tokens)).map canonicalText = .ok (canonicalText tokens) := by
  refine ⟨fun tokens => readTokens_canonicalText, ?_, ?_⟩
  · intro tokens others fit fit_others same
    have read := readTokens_canonicalText fit
    rw [same, readTokens_canonicalText fit_others] at read
    exact (Except.ok.inj read).symm
  · intro text tokens scanned
    have fit := numbersFit_of_spells (readTokens_eq_ok_iff.mp scanned)
    have again := readTokens_canonicalText fit
    constructor
    · rw [evaluateText_of_readTokens again, evaluateText_of_readTokens scanned]
    · rw [again]
      rfl

theorem canonicalText_round_trip_unbalanced :
    let tokens := [.leftParen, .number 12, .number 3, .rightParen, .rightParen, .operator .sub]
    canonicalText tokens = "(12 3)) -" ∧ readTokens "(12 3)) -" = .ok tokens ∧
      (∀ others, NumbersFit others → canonicalText others = "(12 3)) -" → others = tokens) ∧
      evaluateText "(1 + 2) / (3 - 3" = evaluateText "( 01+2)/(3- 3" := by
  intro tokens
  obtain ⟨read, injective, outcome⟩ := canonicalText_round_trip
  have fit : NumbersFit tokens := by decide
  have scanned : readTokens "( 01+2)/(3- 3" = .ok [.leftParen, .number 1, .operator .add,
      .number 2, .rightParen, .operator .div, .leftParen, .number 3, .operator .sub,
      .number 3] := by decide +kernel
  exact ⟨rfl, read tokens fit, fun others fits same => injective others tokens fits fit same,
    (outcome _ _ scanned).1⟩

end InfixCalculator.Token
