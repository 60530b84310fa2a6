import InfixCalculator.Proofs.Phrases

/-! # Writing an expression and reading it back

`Expr.toTokens` puts an operand in parentheses where its tree is too loose for its place, that is,
for the category that the grammar has there. So what it writes for a category is a phrase of that
category, and every phrase with the same tree has at least these parentheses.
-/
namespace InfixCalculator

namespace Expr

/-- An expression as a phrase of the category. -/
def toTokensAs (category : Category) (e : Expr) : List Token :=
  parenthesizeIf (e.strength < category.strength) e.toTokens

theorem toTokensAs_expression (e : Expr) : e.toTokensAs .expression = e.toTokens := rfl

theorem toTokens_binary (op : Operator) (left right : Expr) (level : Level) :
    (binary op left right level).toTokens =
      left.toTokensAs (.chain level) ++ .operator op :: right.toTokensAs level.operand := by
  have tighter : decide (right.strength < level.operand.strength) =
      decide (right.strength ≤ level.strength) := by simp
  rw [toTokens, toTokensAs, toTokensAs, tighter]
  rfl

end Expr

theorem Category.strength_le_factor (category : Category) :
    category.strength ≤ Category.factor.strength := by
  rcases category with level | _
  · cases level <;> decide
  · exact le_rfl

/-- A phrase that holds together tighter than needed serves as well. -/
theorem Derives.loosen {tight loose : Category} {tokens : List Token} {e : Expr}
    (h : Derives tight tokens e) (le : loose.strength ≤ tight.strength) :
    Derives loose tokens e := by
  match loose, tight with
  | .chain .additive, .chain .additive => exact h
  | .chain .additive, .chain .multiplicative => exact .operand h
  | .chain .additive, .factor => exact .operand (.operand h)
  | .chain .multiplicative, .chain .multiplicative => exact h
  | .chain .multiplicative, .factor => exact .operand h
  | .factor, .factor => exact h
  | .chain .multiplicative, .chain .additive => exact absurd le (by decide)
  | .factor, .chain .additive => exact absurd le (by decide)
  | .factor, .chain .multiplicative => exact absurd le (by decide)

theorem Expr.WellLevelled.derives {e : Expr} (h : e.WellLevelled) (category : Category) :
    Derives category (e.toTokensAs category) e := by
  induction h generalizing category with
  | number value =>
    have number : Derives category [.number value] (.number value) :=
      (Derives.number value).loosen category.strength_le_factor
    have bare : ¬ (Expr.number value).strength < category.strength :=
      Nat.not_lt.mpr category.strength_le_factor
    simpa [Expr.toTokensAs, Expr.parenthesizeIf, bare, Expr.toTokens] using number
  | @binary op left right _ _ ihl ihr =>
    have chain : Derives (.chain op.level) (Expr.binary op left right op.level).toTokens
        (.binary op left right op.level) := by
      rw [Expr.toTokens_binary]
      exact .extend op (ihl _) (ihr _)
    unfold Expr.toTokensAs Expr.parenthesizeIf
    split
    · have inside : Derives .expression _ _ := chain.loosen (Nat.zero_le _)
      exact (Derives.parenthesized inside).loosen category.strength_le_factor
    · next bare =>
      rw [decide_eq_true_eq, Nat.not_lt] at bare
      exact chain.loosen bare

/-- Where fewer parentheses are needed, more can be left out. -/
theorem Token.DropParentheses.parenthesizeIf {tokens kept : List Token} {needed needed' : Bool}
    (h : DropParentheses tokens (Expr.parenthesizeIf needed kept)) (le : needed' → needed) :
    DropParentheses tokens (Expr.parenthesizeIf needed' kept) := by
  cases needed with
  | false =>
    cases needed' with
    | false => exact h
    | true => exact absurd (le rfl) (by decide)
  | true =>
    cases needed' with
    | false => exact h.trans (unwrap kept)
    | true => exact h

theorem Derives.dropParentheses {category : Category} {tokens : List Token} {e : Expr}
    (h : Derives category tokens e) :
    Token.DropParentheses tokens (e.toTokensAs category) := by
  induction h with
  | number value => exact .refl _
  | @parenthesized tokens e _ ih =>
    rw [Expr.toTokensAs_expression] at ih
    have wrapped : Token.DropParentheses _ (Expr.parenthesizeIf true e.toTokens) := ih.wrap
    exact wrapped.parenthesizeIf fun _ => rfl
  | @operand level tokens e _ ih =>
    refine ih.parenthesizeIf fun looser => ?_
    rw [decide_eq_true_eq] at looser
    simpa using Nat.le_of_lt looser
  | @extend left right l r op _ _ ihl ihr =>
    have bare : (Expr.binary op l r op.level).toTokensAs (.chain op.level) =
        (Expr.binary op l r op.level).toTokens := by
      simp [Expr.toTokensAs, Expr.parenthesizeIf, Expr.strength]
    rw [bare, Expr.toTokens_binary]
    exact ihl.append (.keep _ ihr)

namespace Expr

/-- Reading inverts writing: every expression that is read is well-levelled, every well-levelled
expression is read back from the tokens it is written as if these nest within the limit, and they
are the tokens that any other spelling of it has besides superfluous parentheses. -/
theorem readAll_inverts_toTokens (limit : Nat) :
    (∀ tokens e, readAll (expression limit) tokens = .ok e → e.WellLevelled) ∧
      (∀ e : Expr, e.WellLevelled → Token.NestsWithin limit e.toTokens →
        readAll (expression limit) e.toTokens = .ok e) ∧
      (∀ tokens e, readAll (expression limit) tokens = .ok e →
        Token.DropParentheses tokens e.toTokens ∧
          e.toTokens.filter (fun t => !t.isParenthesis) =
            tokens.filter (fun t => !t.isParenthesis) ∧
          ∀ others, readAll (expression limit) others = .ok e →
            e.toTokens.length ≤ others.length) := by
  have drops : ∀ tokens e, readAll (expression limit) tokens = .ok e →
      Token.DropParentheses tokens e.toTokens :=
    fun tokens e h => (readAll_expression_eq_ok_iff.mp h).1.dropParentheses
  refine ⟨?_, ?_, ?_⟩
  · intro tokens e h
    exact (readAll_expression_eq_ok_iff.mp h).1.wellLevelled
  · intro e levelled shallow
    exact readAll_expression_eq_ok_iff.mpr ⟨levelled.derives .expression, shallow⟩
  · intro tokens e h
    exact ⟨drops tokens e h, (drops tokens e h).filter_eq,
      fun others h => (drops others e h).sublist.length_le⟩

theorem ofTokens_inverts_toTokens :
    (∀ tokens e, ofTokens tokens = .ok e → e.WellLevelled) ∧
      (∀ e : Expr, e.WellLevelled → Token.NestsWithin 250 e.toTokens →
        ofTokens e.toTokens = .ok e) ∧
      (∀ tokens e, ofTokens tokens = .ok e →
        Token.DropParentheses tokens e.toTokens ∧
          e.toTokens.filter (fun t => !t.isParenthesis) =
            tokens.filter (fun t => !t.isParenthesis) ∧
          ∀ others, ofTokens others = .ok e → e.toTokens.length ≤ others.length) := by
  obtain ⟨levelled, reads, drops⟩ := readAll_inverts_toTokens nestingLimit
  exact ⟨levelled, fun e h shallow => reads e h (shallow.mono (by decide)), drops⟩

theorem ofTokens_inverts_toTokens_superfluous :
    let tokens := [.leftParen, .number 8, .rightParen, .operator .sub, .leftParen, .leftParen,
      .number 3, .operator .sub, .number 1, .rightParen, .operator .mul, .number 2, .rightParen]
    let product := binary .mul (binary .sub (number 3) (number 1) .additive) (number 2)
      .multiplicative
    let e := binary .sub (number 8) product .additive
    ofTokens tokens = .ok e ∧ e.WellLevelled ∧ Token.NestsWithin 250 e.toTokens ∧
      ofTokens e.toTokens = .ok e ∧ Token.DropParentheses tokens e.toTokens ∧
      ∀ others, ofTokens others = .ok e → 9 ≤ others.length := by
  intro tokens product e
  obtain ⟨levelled, reads, least⟩ := ofTokens_inverts_toTokens
  have spelled : ofTokens tokens = .ok e := by decide +kernel
  have shallow : Token.NestsWithin 250 e.toTokens := by decide
  obtain ⟨drops, -, shortest⟩ := least tokens e spelled
  exact ⟨spelled, levelled tokens e spelled, shallow, reads e (levelled tokens e spelled) shallow,
    drops, shortest⟩

end Expr

end InfixCalculator
