import InfixCalculator.Proofs.NestingLimit

/-! # Which syntax error is reported

Apart from the nesting limit, the message of a syntax error follows from the tokens in front of it
and the one it blames: where an operand is due it names what stands there instead, and behind an
operand it depends on whether a parenthesis is open. Main statement: `readAll_diagnosis`.
-/
namespace InfixCalculator

theorem Token.kind_of_not_opensOperand {t : Token} (h : ¬ (t = .leftParen ∨ t.kind = .operator)) :
    t.kind = .number ∨ t.kind = .rightParen := by
  cases t <;> simp [kind] at h ⊢

/-- Only a number or a closing parenthesis can stand where no operand is awaited any more. -/
theorem Token.exists_of_not_awaitOperand {front : List Token} (h : ¬ AwaitOperand front) :
    ∃ t, front.getLast? = some t ∧ (t.kind = .number ∨ t.kind = .rightParen) := by
  unfold AwaitOperand at h
  push Not at h
  obtain ⟨t, last, not_opening, not_operator⟩ := h
  exact ⟨t, last, kind_of_not_opensOperand (not_or.mpr ⟨not_opening, not_operator⟩)⟩

namespace Expr

open Prospect

namespace Prospect

variable {limit opened : Nat} {q : Prospect} {rest : List Token} {cause : SyntacticCause}

/-- Where an operand is due, the check gives up at the end, at an operator or at a closing
parenthesis. -/
theorem blame_operandDue (stuck : Stuck limit (operandDue opened) rest)
    (blamed : (operandDue opened).blame limit rest = .unexpected cause rest) :
    (rest = [] ∧ cause = .expectedOperand none) ∨
      ∃ t tail, rest = t :: tail ∧ (t.kind = .operator ∨ t.kind = .rightParen) ∧
        cause = .expectedOperand (some t.kind) := by
  cases rest with
  | nil =>
    cases blamed
    exact .inl ⟨rfl, rfl⟩
  | cons t tail =>
    have no_step := stuck t tail rfl
    simp only [blame] at blamed
    split at blamed
    · next room =>
      cases blamed
      refine .inr ⟨t, tail, rfl, ?_, rfl⟩
      cases t with
      | number value => cases (next?_eq_some_iff.mpr (.number room value)).symm.trans no_step
      | operator op => exact .inl rfl
      | leftParen => cases (next?_eq_some_iff.mpr (.opening room)).symm.trans no_step
      | rightParen => exact .inr rfl
    · cases blamed

/-- Behind an operand, the check gives up because a parenthesis is open or because something
follows. -/
theorem blame_operandDone (failed : (operandDone opened).check limit rest ≠ .ok ())
    (blamed : (operandDone opened).blame limit rest = .unexpected cause rest) :
    (0 < opened ∧ cause = .unclosedParenthesis) ∨
      (opened = 0 ∧ rest ≠ [] ∧ cause = .trailingInput) := by
  cases opened with
  | zero =>
    cases blamed
    refine .inr ⟨rfl, ?_, rfl⟩
    intro ended
    subst rest
    exact failed rfl
  | succ opened =>
    cases blamed
    exact .inl ⟨Nat.succ_pos opened, rfl⟩

end Prospect

/-- Where an operand is awaited, a syntax error names the end of the input, the operator or the
closing parenthesis that stands there instead. Behind an operand it reports an open parenthesis if
there is one, and else the token that follows. No limit of the nesting changes that. -/
theorem readAll_diagnosis {limit : Nat} {tokens : List Token} {error : SyntaxError}
    (failed : readAll (expression limit) tokens = .error error)
    (within : error.cause ≠ .nestedTooDeeply) :
    let front := tokens.take error.index
    (Token.AwaitOperand front →
      (error.index = tokens.length ∧
        error.cause.summary = "Expected number or parenthesis, found end of input") ∨
      ∃ t, tokens[error.index]? = some t ∧ (t.kind = .operator ∨ t.kind = .rightParen) ∧
        error.cause.summary = "Expected number or parenthesis, found " ++ t.kind.name) ∧
    (¬ Token.AwaitOperand front →
      (∃ t, front.getLast? = some t ∧ (t.kind = .number ∨ t.kind = .rightParen)) ∧
      ((front.count .rightParen < front.count .leftParen ∧
          error.cause.summary = "Unclosed parenthesis") ∨
        (front.count .leftParen = front.count .rightParen ∧ error.index < tokens.length ∧
          error.cause.summary = "Trailing input"))) := by
  obtain ⟨used, q, rest, rfl, index, reached, stuck, stopped, blamed⟩ :=
    exists_stop_of_readAll failed within
  have due_iff := operandDue_iff_of_after? reached
  have balance := opened_eq_of_after? reached
  simp only [index, List.take_left]
  constructor
  · intro awaited
    obtain ⟨opened, rfl⟩ := due_iff.mpr awaited
    rcases blame_operandDue stuck blamed with ⟨rfl, cause⟩ | ⟨t, tail, rfl, kind, cause⟩
    · exact .inl ⟨by simp, congrArg SyntacticCause.summary cause⟩
    · exact .inr ⟨t, by simp, kind, congrArg SyntacticCause.summary cause⟩
  · intro not_awaited
    refine ⟨Token.exists_of_not_awaitOperand not_awaited, ?_⟩
    cases q with
    | operandDue opened => exact absurd (due_iff.mp ⟨opened, rfl⟩) not_awaited
    | operandDone opened =>
      simp only [Prospect.opened, Nat.zero_add] at balance
      rcases blame_operandDone stopped blamed with ⟨unclosed, cause⟩ | ⟨rfl, behind, cause⟩
      · exact .inl ⟨by omega, congrArg SyntacticCause.summary cause⟩
      · have := List.length_pos_iff.mpr behind
        rw [List.length_append]
        exact .inr ⟨by omega, by omega, congrArg SyntacticCause.summary cause⟩

theorem ofTokens_diagnosis {tokens : List Token} {error : SyntaxError}
    (failed : ofTokens tokens = .error error) (within : error.cause ≠ .nestedTooDeeply) :
    let front := tokens.take error.index
    (Token.AwaitOperand front →
      (error.index = tokens.length ∧
        error.cause.summary = "Expected number or parenthesis, found end of input") ∨
      ∃ t, tokens[error.index]? = some t ∧ (t.kind = .operator ∨ t.kind = .rightParen) ∧
        error.cause.summary = "Expected number or parenthesis, found " ++ t.kind.name) ∧
    (¬ Token.AwaitOperand front →
      (∃ t, front.getLast? = some t ∧ (t.kind = .number ∨ t.kind = .rightParen)) ∧
      ((front.count .rightParen < front.count .leftParen ∧
          error.cause.summary = "Unclosed parenthesis") ∨
        (front.count .leftParen = front.count .rightParen ∧ error.index < tokens.length ∧
          error.cause.summary = "Trailing input"))) := by
  exact readAll_diagnosis failed within

theorem ofTokens_diagnosis_unclosed :
    let tokens := [.number 1, .operator .sub, .leftParen, .number 2, .number 3, .rightParen]
    ofTokens tokens = .error ⟨.unclosedParenthesis, tokens, 4⟩ ∧
      (∃ t, (tokens.take 4).getLast? = some t ∧ (t.kind = .number ∨ t.kind = .rightParen)) ∧
      (tokens.take 4).count .rightParen < (tokens.take 4).count .leftParen := by
  intro tokens
  have failed : ofTokens tokens = .error ⟨.unclosedParenthesis, tokens, 4⟩ := by decide +kernel
  have behind : ¬ Token.AwaitOperand (tokens.take 4) := by
    simp [tokens, Token.AwaitOperand, Token.kind]
  obtain ⟨last, ⟨unclosed, -⟩ | ⟨-, -, other⟩⟩ :=
    (ofTokens_diagnosis failed (by decide)).2 behind
  · exact ⟨failed, last, unclosed⟩
  · exact absurd other (by decide)

end Expr

end InfixCalculator
