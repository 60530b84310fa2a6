import InfixCalculator.Fuzz.Comparison
import InfixCalculator.Proofs.Concatenation
import InfixCalculator.Proofs.Viability

/-! # Forgiven texts are refused

A doubled operator and a sign in unary position are both an operator where an operand is awaited.
Blanks other than the plain space have no place in a text that has tokens, so what stands apart by
blanks only stands next to each other among the tokens. Hence passing over such a text, or forgiving
that it was refused, never hides one that has a value.
-/
namespace InfixCalculator.Comparison

variable {first second sort : Char → Bool} {text : List Char} {tokens : List Token}

theorem hasPair_eq_true_iff :
    hasPair first second text ↔
      ∃ front c back, text = front ++ c :: back ∧ first c ∧ startsWith second back := by
  induction text with
  | nil => simp [hasPair]
  | cons c text ih =>
    rw [hasPair, Bool.or_eq_true, Bool.and_eq_true, ih]
    constructor
    · rintro (⟨hc, htext⟩ | ⟨front, d, back, rfl, hd, hback⟩)
      · exact ⟨[], c, text, rfl, hc, htext⟩
      · exact ⟨c :: front, d, back, rfl, hd, hback⟩
    · rintro ⟨front, d, back, split, hd, hback⟩
      cases front with
      | nil =>
        cases split
        exact .inl ⟨hd, hback⟩
      | cons e front =>
        cases split
        exact .inr ⟨front, d, back, rfl, hd, hback⟩

/-- Blanks, if any, and then a character of the sort begin the text. -/
theorem startsWith_eq_true_iff :
    startsWith sort text ↔
      ∃ gap c back, text = gap ++ c :: back ∧ (∀ d ∈ gap, isBlank d) ∧ sort c := by
  induction text with
  | nil => simp [startsWith]
  | cons c text ih =>
    rw [startsWith, Bool.or_eq_true, Bool.and_eq_true, ih]
    constructor
    · rintro (hc | ⟨blank, gap, d, back, rfl, blanks, hd⟩)
      · exact ⟨[], c, text, rfl, by simp, hc⟩
      · exact ⟨c :: gap, d, back, rfl, by simpa using ⟨blank, blanks⟩, hd⟩
    · rintro ⟨gap, d, back, split, blanks, hd⟩
      cases gap with
      | nil =>
        cases split
        exact .inl hd
      | cons e gap =>
        cases split
        obtain ⟨blank, blanks⟩ : isBlank c ∧ ∀ d ∈ gap, isBlank d := by simpa using blanks
        exact .inr ⟨blank, gap, d, back, rfl, blanks, hd⟩

theorem isBlank_of_ofSymbol? {c : Char} {t : Token} (h : Token.ofSymbol? c = some t) :
    isBlank c = false := by
  have no_blanks : ∀ c ∈ Token.symbols, isBlank c = false := by
    simp [Token.symbols, isBlank, blankRanges]
  exact no_blanks c (Token.mem_symbols_iff.mpr ⟨t, h⟩)

/-- A blank at the front of a text with tokens is a plain space, and no token. -/
theorem spells_of_blank_cons {c : Char} (blank : isBlank c)
    (spelled : Token.Spells (c :: text) tokens) : Token.Spells text tokens := by
  by_cases space : c = ' '
  · subst space
    exact Token.spells_space_cons_iff.mp spelled
  · have no_digit : ¬ c.isDigit := by
      intro digit
      rw [isBlank_of_isDigit digit] at blank
      cases blank
    have no_symbol : Token.ofSymbol? c = none := by
      rw [Option.eq_none_iff_forall_ne_some]
      intro t symbol
      rw [isBlank_of_ofSymbol? symbol] at blank
      cases blank
    obtain ⟨placed, scanned, -⟩ := spelled
    rw [Token.scan_unexpected 0 no_digit no_symbol space] at scanned
    cases scanned

/-- Every character of the sort is an operator. -/
def OnlyOperators (sort : Char → Bool) : Prop :=
  ∀ c, sort c → ∃ op, Token.ofSymbol? c = some (.operator op)

theorem onlyOperators_isSign : OnlyOperators isSign := by
  intro c h
  simp only [isSign, Bool.or_eq_true, decide_eq_true_eq] at h
  rcases h with rfl | rfl
  · exact ⟨.add, rfl⟩
  · exact ⟨.sub, rfl⟩

theorem onlyOperators_symbol (op : Operator) : OnlyOperators (· = op.symbol) := by
  intro c h
  have symbol := of_decide_eq_true h
  subst symbol
  exact ⟨op, Token.ofSymbol?_eq_some_iff.mpr ⟨by simp [Token.kind], rfl⟩⟩

theorem exists_ofSymbol?_of_opensOperand {c : Char} (h : opensOperand c) :
    ∃ t, Token.ofSymbol? c = some t ∧ (t = .leftParen ∨ t.kind = .operator) := by
  simp only [opensOperand, isSign, Bool.or_eq_true, decide_eq_true_eq] at h
  rcases h with (((rfl | rfl) | rfl) | rfl) | rfl
  · exact ⟨.operator .add, rfl, .inr rfl⟩
  · exact ⟨.operator .sub, rfl, .inr rfl⟩
  · exact ⟨.operator .mul, rfl, .inr rfl⟩
  · exact ⟨.operator .div, rfl, .inr rfl⟩
  · exact ⟨.leftParen, rfl, .inl rfl⟩

theorem exists_operator_cons_of_startsWith (operators : OnlyOperators sort)
    (h : startsWith sort text) (spelled : Token.Spells text tokens) :
    ∃ op rest, tokens = .operator op :: rest := by
  induction text with
  | nil => cases h
  | cons c text ih =>
    rw [startsWith, Bool.or_eq_true, Bool.and_eq_true] at h
    rcases h with hc | ⟨blank, htext⟩
    · obtain ⟨op, symbol⟩ := operators c hc
      obtain ⟨rest, -, rfl⟩ := (Token.spells_symbol_cons_iff symbol).mp spelled
      exact ⟨op, rest, rfl⟩
    · exact ih htext (spells_of_blank_cons blank spelled)

theorem exists_awaitOperand_of_hasPair (opens : ∀ c, first c → opensOperand c)
    (operators : OnlyOperators second) (h : hasPair first second text)
    (spelled : Token.Spells text tokens) :
    ∃ front op rest, tokens = front ++ .operator op :: rest ∧ Token.AwaitOperand front := by
  obtain ⟨before, c, back, rfl, hc, hback⟩ := hasPair_eq_true_iff.mp h
  obtain ⟨t, symbol, opening⟩ := exists_ofSymbol?_of_opensOperand (opens c hc)
  have apart : Token.DigitsApart before (c :: back) := by
    refine Token.DigitsApart.of_back ?_
    rintro d ⟨⟩
    exact Token.not_isDigit_of_ofSymbol? symbol
  obtain ⟨front, _, -, behind, rfl⟩ := (Token.spells_append_iff apart).mp spelled
  obtain ⟨_, spelled_back, rfl⟩ := (Token.spells_symbol_cons_iff symbol).mp behind
  obtain ⟨op, rest, rfl⟩ := exists_operator_cons_of_startsWith operators hback spelled_back
  exact ⟨front ++ [t], op, rest, by simp, by simpa [Token.AwaitOperand] using opening⟩

/-- What is passed over or forgiven has an operator where an operand is awaited. -/
theorem exists_awaitOperand_of_forgiven
    (h : hasDoubledOperator text ∨ hasUnarySign text) (spelled : Token.Spells text tokens) :
    ∃ front op rest, tokens = front ++ .operator op :: rest ∧ Token.AwaitOperand front := by
  simp only [hasDoubledOperator, hasUnarySign, Bool.or_eq_true] at h
  rcases h with (stars | slashes) | (leading | sign)
  · exact exists_awaitOperand_of_hasPair (by simp [opensOperand]) (onlyOperators_symbol .mul)
      stars spelled
  · exact exists_awaitOperand_of_hasPair (by simp [opensOperand]) (onlyOperators_symbol .div)
      slashes spelled
  · obtain ⟨op, rest, rfl⟩ :=
      exists_operator_cons_of_startsWith onlyOperators_isSign leading spelled
    exact ⟨[], op, rest, rfl, by simp [Token.AwaitOperand]⟩
  · exact exists_awaitOperand_of_hasPair (fun _ hc => hc) onlyOperators_isSign sign spelled

/-- A text that is passed over, or of which a refusal is forgiven, is refused by the scan or by the
grammar: it has no value, nor does its evaluation fail. -/
theorem evaluateText_refuses_forgiven {text : String}
    (h : hasDoubledOperator text.toList ∨ hasUnarySign text.toList) :
    (∃ error, evaluateText text = .error (.lexical error)) ∨
      ∃ error, evaluateText text = .error (.syntactic error) := by
  rcases readExpr_or_refused text with ⟨tokens, e, scanned, parsed⟩ | refused
  · have spelled := readTokens_eq_ok_iff.mp scanned
    obtain ⟨front, op, rest, rfl, awaited⟩ := exists_awaitOperand_of_forgiven h spelled
    exact absurd (readExpr_eq_ok_iff.mp parsed) (Expr.readAll_ne_ok_of_operator awaited op rest e)
  · exact refused

theorem evaluateText_refuses_forgiven_inside :
    hasDoubledOperator "2*\u2003*3".toList ∧ hasUnarySign "2*( -3)".toList ∧
      ∀ text ∈ ["2*\u2003*3", "2*( -3)"],
        (∃ error, evaluateText text = .error (.lexical error)) ∨
          ∃ error, evaluateText text = .error (.syntactic error) := by
  have doubled : hasDoubledOperator "2*\u2003*3".toList := by decide +kernel
  have unary : hasUnarySign "2*( -3)".toList := by decide +kernel
  refine ⟨doubled, unary, ?_⟩
  intro text htext
  simp only [List.mem_cons, List.not_mem_nil, or_false] at htext
  rcases htext with rfl | rfl
  · exact evaluateText_refuses_forgiven (.inl doubled)
  · exact evaluateText_refuses_forgiven (.inr unary)

end InfixCalculator.Comparison
