import InfixCalculator.Proofs.Concatenation
import InfixCalculator.Proofs.Rendering

/-! # Building texts from texts

Two texts that spell expressions, each put in parentheses and joined by an operator, spell the
operation on the two, whatever operators stand inside. Its outcome is put together from theirs: the
error of the left text if there is one, else that of the right text, else the outcome of the
operation. Parentheses around a whole text change nothing.
-/
namespace InfixCalculator

namespace Token.Spells

variable {text front back : List Char} {tokens first second : List Token}

theorem parenthesized (h : Spells text tokens) :
    Spells ('(' :: text ++ [')']) (.leftParen :: tokens ++ [.rightParen]) := by
  have closing : Spells [')'] [.rightParen] :=
    (spells_symbol_cons_iff rfl).mpr ⟨[], spells_nil_iff.mpr rfl, rfl⟩
  have apart : DigitsApart text [')'] := DigitsApart.of_back (by simp)
  have closed := (spells_append_iff apart).mpr ⟨tokens, _, h, closing, rfl⟩
  exact (spells_symbol_cons_iff rfl).mpr ⟨_, closed, rfl⟩

theorem joined (hfirst : Spells front first) (op : Operator) (hsecond : Spells back second) :
    Spells (front ++ op.symbol :: back) (first ++ .operator op :: second) := by
  have symbol : ofSymbol? op.symbol = some (.operator op) :=
    ofSymbol?_eq_some_iff.mpr ⟨by simp [kind], rfl⟩
  have no_digit : ∀ d ∈ (op.symbol :: back).head?, d.isDigit = false := by
    rintro d ⟨⟩
    exact not_isDigit_of_ofSymbol? symbol
  have behind := (spells_symbol_cons_iff symbol).mpr ⟨second, hsecond, rfl⟩
  exact (spells_append_iff (DigitsApart.of_back no_digit)).mpr ⟨first, _, hfirst, behind, rfl⟩

end Token.Spells

/-- The text is read as the expression, and no more than `limit` parentheses are open at once. -/
def SpellsExpr (limit : Nat) (text : String) (e : Expr) : Prop :=
  ∃ tokens, Token.Spells text.toList tokens ∧ Derives .expression tokens e ∧
    Token.NestsWithin limit tokens

namespace SpellsExpr

variable {limit : Nat} {a b text : String} {e l r : Expr}

theorem of_read {tokens : List Token} (scanned : readTokens text = .ok tokens)
    (parsed : readExpr tokens = .ok e) (shallow : Token.NestsWithin limit tokens) :
    SpellsExpr limit text e := by
  have derives := (Expr.ofTokens_eq_ok_iff.mp (readExpr_eq_ok_iff.mp parsed)).1
  exact ⟨tokens, readTokens_eq_ok_iff.mp scanned, derives, shallow⟩

theorem evaluateText_eq (h : SpellsExpr limit text e) (le : limit ≤ Expr.nestingLimit) :
    evaluateText text = e.value.mapError .arithmetic := by
  obtain ⟨tokens, spelled, derives, shallow⟩ := h
  have parsed := Expr.ofTokens_eq_ok_iff.mpr ⟨derives, shallow.mono le⟩
  rw [← Expr.evaluate_eq_value]
  exact InfixCalculator.evaluateText_eq (readTokens_eq_ok_iff.mpr spelled)
    (readExpr_eq_ok_iff.mpr parsed)

theorem parenthesized (h : SpellsExpr limit a e) : SpellsExpr (limit + 1) ("(" ++ a ++ ")") e := by
  obtain ⟨tokens, spelled, derives, shallow⟩ := h
  refine ⟨_, ?_, ?_, Token.nestsWithin_parenthesized.mpr shallow⟩
  · simpa using spelled.parenthesized
  · exact (Derives.parenthesized derives).loosen (Nat.zero_le _)

theorem joined (hl : SpellsExpr limit a l) (op : Operator) (hr : SpellsExpr limit b r) :
    SpellsExpr (limit + 1) ("(" ++ a ++ ")" ++ String.singleton op.symbol ++ "(" ++ b ++ ")")
      (.binary op l r op.level) := by
  obtain ⟨first, spelled_first, derives_first, shallow_first⟩ := hl
  obtain ⟨second, spelled_second, derives_second, shallow_second⟩ := hr
  have left := Derives.parenthesized derives_first
  have right := Derives.parenthesized derives_second
  have chain : Derives (.chain op.level) _ l := left.loosen (Category.strength_le_factor _)
  have next : Derives op.level.operand _ r := right.loosen (Category.strength_le_factor _)
  refine ⟨_, ?_, (chain.extend op next).loosen (Nat.zero_le _), ?_⟩
  · simpa using spelled_first.parenthesized.joined op spelled_second.parenthesized
  · rw [Token.nestsWithin_append left.balanced, Token.nestsWithin_operator_cons]
    exact ⟨Token.nestsWithin_parenthesized.mpr shallow_first,
      Token.nestsWithin_parenthesized.mpr shallow_second⟩

end SpellsExpr

/-- The outcome of an operation on two texts in parentheses is put together from the outcomes of the
texts, and a text in parentheses has the outcome of the text. -/
theorem evaluateText_compositional {a b : String} {first second : List Token} {l r : Expr}
    (scanned_a : readTokens a = .ok first) (parsed_a : readExpr first = .ok l)
    (shallow_a : Token.NestsWithin 249 first)
    (scanned_b : readTokens b = .ok second) (parsed_b : readExpr second = .ok r)
    (shallow_b : Token.NestsWithin 249 second) :
    (∀ op : Operator,
      evaluateText ("(" ++ a ++ ")" ++ String.singleton op.symbol ++ "(" ++ b ++ ")") = do
        let x ← evaluateText a
        let y ← evaluateText b
        (op.apply x y).mapError .arithmetic) ∧
      evaluateText ("(" ++ a ++ ")") = evaluateText a := by
  have ha := SpellsExpr.of_read scanned_a parsed_a shallow_a
  have hb := SpellsExpr.of_read scanned_b parsed_b shallow_b
  have inside : 249 ≤ Expr.nestingLimit := by decide
  have outside : 249 + 1 ≤ Expr.nestingLimit := by decide
  rw [ha.evaluateText_eq inside, hb.evaluateText_eq inside]
  constructor
  · intro op
    rw [(ha.joined op hb).evaluateText_eq outside]
    cases hl : l.value <;> cases hr : r.value <;>
      simp [Expr.value, hl, hr, Except.mapError, bind, Except.bind]
  · exact ha.parenthesized.evaluateText_eq outside

theorem evaluateText_compositional_product :
    evaluateText "(2-3)*(4-6)" = .ok (.int 2) ∧ evaluateText "(2-3)" = .ok (.int (-1)) := by
  have scanned_a : readTokens "2-3" = .ok [.number 2, .operator .sub, .number 3] := by
    decide +kernel
  have parsed_a : readExpr [.number 2, .operator .sub, .number 3] =
      .ok (.binary .sub (.number 2) (.number 3) .additive) := by decide +kernel
  have scanned_b : readTokens "4-6" = .ok [.number 4, .operator .sub, .number 6] := by
    decide +kernel
  have parsed_b : readExpr [.number 4, .operator .sub, .number 6] =
      .ok (.binary .sub (.number 4) (.number 6) .additive) := by decide +kernel
  obtain ⟨joined, parenthesized⟩ := evaluateText_compositional scanned_a parsed_a (by decide)
    scanned_b parsed_b (by decide)
  have value_a : evaluateText "2-3" = .ok (.int (-1)) := by
    rw [evaluateText_eq scanned_a parsed_a, Expr.evaluate_eq_value]
    rfl
  have value_b : evaluateText "4-6" = .ok (.int (-2)) := by
    rw [evaluateText_eq scanned_b parsed_b, Expr.evaluate_eq_value]
    rfl
  constructor
  · have product := joined .mul
    rw [value_a, value_b] at product
    exact product
  · rw [← value_a]
    exact parenthesized

end InfixCalculator
