import InfixCalculator.Expr.Display
import InfixCalculator.Expr.Grammar
import InfixCalculator.Expr.Parse
import InfixCalculator.Token.Nesting
import Mathlib

/-! # The rules read exactly the phrases of the grammar

A rule takes off the front the one phrase of its category behind which no operator follows that
would continue it, provided that its parentheses nest within the depth of the rule; otherwise it
fails. `Rule.Exact` states both directions at once, so that it carries over from operands to chains
and from an expression to a factor around it. Main statements: `rule_exact`, `Derives.unambiguous`
and `ofTokens_eq_ok_iff`.
-/
namespace InfixCalculator

/-- How tight a category holds together, on the scale of `Expr.strength`. -/
def Category.strength : Category → Nat
  | .chain level => level.strength
  | .factor => 2

@[simp] theorem Category.strength_chain (level : Level) :
    (Category.chain level).strength = level.strength := rfl

@[simp] theorem Level.strength_operand (level : Level) :
    level.operand.strength = level.strength + 1 := by
  cases level <;> rfl

theorem Level.strength_injective {a b : Level} (h : a.strength = b.strength) : a = b := by
  revert h
  cases a <;> cases b <;> decide

/-- No operator stands in front of `rest` that would continue a phrase of the category. -/
def Category.EndsBefore (category : Category) (rest : List Token) : Prop :=
  ∀ op tail, rest = .operator op :: tail → op.level.strength < category.strength

theorem Category.factor_endsBefore (rest : List Token) : Category.factor.EndsBefore rest := by
  rintro op tail -
  cases op <;> decide

/-- Where a chain ends, its last operand has ended too. -/
theorem Category.EndsBefore.operand {level : Level} {rest : List Token}
    (h : (Category.chain level).EndsBefore rest) : level.operand.EndsBefore rest := by
  intro op tail hop
  rw [Level.strength_operand]
  exact Nat.lt_succ_of_lt (h op tail hop)

/-- An operand ends before every operator of the level that it is an operand of. -/
theorem Level.operand_endsBefore (op : Operator) (tail : List Token) :
    op.level.operand.EndsBefore (.operator op :: tail) := by
  rintro op' tail' ⟨⟩
  rw [Level.strength_operand]
  exact Nat.lt_succ_self _

namespace Derives

variable {category : Category} {tokens : List Token} {e : Expr}

theorem balanced (h : Derives category tokens e) :
    tokens.count .leftParen = tokens.count .rightParen := by
  induction h with
  | number value => simp
  | parenthesized _ ih => simp [ih]
  | operand _ ih => exact ih
  | extend op _ _ ihl ihr => simp [ihl, ihr]

/-- Induction along a chain, from its first operand to its last. -/
@[elab_as_elim]
theorem chain_induction {level : Level}
    {motive : ∀ tokens e, Derives (.chain level) tokens e → Prop}
    (operand : ∀ {tokens e} (only : Derives level.operand tokens e),
      motive tokens e (.operand only))
    (extend : ∀ {left right l r op} (same : op.level = level)
      (chain : Derives (.chain level) left l) (next : Derives level.operand right r),
      motive left l chain →
      motive (left ++ .operator op :: right) (.binary op l r level)
        (same ▸ .extend op (same ▸ chain) (same ▸ next)))
    (h : Derives (.chain level) tokens e) : motive tokens e h := by
  -- The category is an index of `Derives`, so the induction has to start from an arbitrary one.
  have any : ∀ category tokens e, Derives category tokens e → category = .chain level →
      ∀ h : Derives (.chain level) tokens e, motive tokens e h := by
    intro category tokens e derivation
    induction derivation with
    | number => rintro ⟨⟩
    | parenthesized => rintro ⟨⟩
    | operand only =>
      rintro ⟨⟩ _
      exact operand only
    | extend op chain next ih =>
      rintro ⟨⟩ _
      exact extend rfl chain next (ih rfl chain)
  exact any _ tokens e h rfl h

theorem nestsWithin_extend {limit : Nat} {left : List Token} (chain : Derives category left e)
    (op : Operator) (right : List Token) :
    Token.NestsWithin limit (left ++ .operator op :: right) ↔
      Token.NestsWithin limit left ∧ Token.NestsWithin limit right := by
  rw [Token.nestsWithin_append chain.balanced, Token.nestsWithin_operator_cons]

end Derives

namespace Expr

variable {level : Level} {operand rule : Rule} {depth : Nat}

/-- The rule succeeds exactly on the phrases of the category that nest within the depth, and takes
all of such a phrase. -/
def Rule.Exact (rule : Rule) (category : Category) (depth : Nat) : Prop :=
  ∀ tokens e rest, rule.read tokens = .ok (e, rest) ↔
    ∃ used, tokens = used ++ rest ∧ Derives category used e ∧ Token.NestsWithin depth used ∧
      category.EndsBefore rest

theorem extendChain_sound (exact : operand.Exact level.operand depth) {left e : Expr}
    {before tokens rest : List Token} (chain : Derives (.chain level) before left)
    (shallow : Token.NestsWithin depth before) (ends : level.operand.EndsBefore tokens)
    (h : extendChain level operand left tokens = .ok (e, rest)) :
    ∃ used, tokens = used ++ rest ∧ Derives (.chain level) (before ++ used) e ∧
      Token.NestsWithin depth (before ++ used) ∧ (Category.chain level).EndsBefore rest := by
  fun_induction extendChain level operand left tokens generalizing before with
  | case1 => cases h
  | case2 left op tail same right rest' hread ih =>
    subst same
    obtain ⟨used, rfl, next, shallow_next, ends_next⟩ := (exact _ _ _).mp hread
    have shallow_both := (chain.nestsWithin_extend op used).mpr ⟨shallow, shallow_next⟩
    obtain ⟨more, rfl, derives, shallow_all, ends_all⟩ :=
      ih (.extend op chain next) shallow_both ends_next h
    refine ⟨.operator op :: used ++ more, by simp, ?_, ?_, ends_all⟩
    · simpa using derives
    · simpa using shallow_all
  | case3 left op tail other =>
    cases h
    refine ⟨[], rfl, by simpa using chain, by simpa using shallow, ?_⟩
    rintro op' tail' ⟨⟩
    have le := ends op tail rfl
    rw [Level.strength_operand] at le
    exact Nat.lt_of_le_of_ne (Nat.le_of_lt_succ le) fun h => other (Level.strength_injective h)
  | case4 left tokens none_follows =>
    cases h
    refine ⟨[], rfl, by simpa using chain, by simpa using shallow, ?_⟩
    intro op tail hop
    exact absurd hop (none_follows op tail)

theorem extendChain_operator {op : Operator} {left right : Expr} {tokens rest : List Token}
    (h : operand.read tokens = .ok (right, rest)) :
    extendChain op.level operand left (.operator op :: tokens) =
      extendChain op.level operand (.binary op left right op.level) rest := by
  rw [extendChain, if_pos rfl]
  split
  · next hread => cases hread.symm.trans h
  · next hread =>
    cases hread.symm.trans h
    rfl

theorem extendChain_of_endsBefore {left : Expr} {tokens : List Token}
    (ends : (Category.chain level).EndsBefore tokens) :
    extendChain level operand left tokens = .ok (left, tokens) := by
  unfold extendChain
  split
  · next op tail =>
    have lt := ends op tail rfl
    rw [if_neg]
    rintro rfl
    exact Nat.lt_irrefl _ lt
  · rfl

/-- Behind a phrase, reading goes on as if its tree had been at hand from the start. The phrase may
be only the first part of a longer chain. -/
theorem read_chained (exact : operand.Exact level.operand depth) {used : List Token} {e : Expr}
    (h : Derives (.chain level) used e) (shallow : Token.NestsWithin depth used)
    {rest : List Token} (ends : level.operand.EndsBefore rest) :
    (chained level operand).read (used ++ rest) = extendChain level operand e rest := by
  -- By the derivation, not by the tokens: what the reader has in hand after some operands is the
  -- tree of a shorter chain, and `rest` then begins with the next operator.
  induction h using Derives.chain_induction generalizing rest with
  | @operand tokens e only =>
    have hread := (exact (tokens ++ rest) e rest).mpr ⟨tokens, rfl, only, shallow, ends⟩
    simp only [chained, hread]
  | @extend left right l r op same chain next ih =>
    subst same
    obtain ⟨shallow_left, shallow_right⟩ := (chain.nestsWithin_extend op right).mp shallow
    have hread := (exact (right ++ rest) r rest).mpr ⟨right, rfl, next, shallow_right, ends⟩
    rw [List.append_assoc, List.cons_append, ih shallow_left (Level.operand_endsBefore op _)]
    exact extendChain_operator hread

theorem Rule.Exact.chained (exact : operand.Exact level.operand depth) :
    (chained level operand).Exact (.chain level) depth := by
  intro tokens e rest
  constructor
  · intro h
    simp only [Expr.chained] at h
    split at h
    · cases h
    · next hread =>
      obtain ⟨used, rfl, only, shallow, ends⟩ := (exact _ _ _).mp hread
      obtain ⟨more, rfl, derives, shallow_all, ends_all⟩ :=
        extendChain_sound exact (.operand only) shallow ends h
      exact ⟨used ++ more, by simp, derives, shallow_all, ends_all⟩
  · rintro ⟨used, rfl, derives, shallow, ends⟩
    rw [read_chained exact derives shallow ends.operand, extendChain_of_endsBefore ends]

theorem operandOf_eq_ok_iff {inside : Rule} {tokens rest : List Token} {e : Expr} :
    (operandOf inside).read tokens = .ok (e, rest) ↔
      (∃ value : Nat, tokens = .number value :: rest ∧ e = .number value) ∨
        ∃ inner, tokens = .leftParen :: inner ∧
          inside.read inner = .ok (e, .rightParen :: rest) := by
  constructor
  · intro h
    simp only [operandOf] at h
    split at h
    · cases h
    · next value rest =>
      cases h
      exact .inl ⟨value, rfl, rfl⟩
    · next inner =>
      split at h
      · cases h
      · next hread =>
        cases h
        exact .inr ⟨inner, rfl, hread⟩
      · cases h
    · cases h
  · rintro (⟨value, rfl, rfl⟩ | ⟨inner, rfl, hread⟩)
    · rfl
    · simp [operandOf, hread]

theorem exhausted_ne_ok {tokens rest : List Token} {e : Expr} :
    exhausted.read tokens ≠ .ok (e, rest) := by
  cases tokens <;> exact nofun

/-- A number is a factor at every depth and before everything. -/
theorem number_phrase (depth value : Nat) (rest : List Token) :
    ∃ used, Token.number value :: rest = used ++ rest ∧ Derives .factor used (number value) ∧
      Token.NestsWithin depth used ∧ Category.factor.EndsBefore rest :=
  ⟨[.number value], rfl, .number value, Token.nestsWithin_of_none (by simp),
    Category.factor_endsBefore rest⟩

theorem operandOf_exhausted_exact : (operandOf exhausted).Exact .factor 0 := by
  intro tokens e rest
  rw [operandOf_eq_ok_iff]
  constructor
  · rintro (⟨value, rfl, rfl⟩ | ⟨inner, rfl, hread⟩)
    · exact number_phrase 0 value rest
    · exact absurd hread exhausted_ne_ok
  · rintro ⟨used, rfl, derives, shallow, -⟩
    cases derives with
    | number value => exact .inl ⟨value, rfl, rfl⟩
    | parenthesized => exact absurd shallow Token.not_nestsWithin_zero

theorem Rule.Exact.operandOf (exact : rule.Exact .expression depth) :
    (operandOf rule).Exact .factor (depth + 1) := by
  intro tokens e rest
  rw [operandOf_eq_ok_iff]
  constructor
  · rintro (⟨value, rfl, rfl⟩ | ⟨inner, rfl, hread⟩)
    · exact number_phrase (depth + 1) value rest
    · obtain ⟨used, rfl, derives, shallow, -⟩ := (exact _ _ _).mp hread
      exact ⟨_, by simp, .parenthesized derives, Token.nestsWithin_parenthesized.mpr shallow,
        Category.factor_endsBefore rest⟩
  · rintro ⟨used, rfl, derives, shallow, -⟩
    cases derives with
    | number value => exact .inl ⟨value, rfl, rfl⟩
    | @parenthesized inner _ derives =>
      have shallow_inner := Token.nestsWithin_parenthesized.mp shallow
      have closed : Category.expression.EndsBefore (.rightParen :: rest) := by rintro op tail ⟨⟩
      have hread := (exact _ _ _).mpr ⟨inner, rfl, derives, shallow_inner, closed⟩
      exact .inr ⟨inner ++ .rightParen :: rest, by simp, hread⟩

theorem factor_exact (depth : Nat) : (factor depth).Exact .factor depth := by
  induction depth with
  | zero => exact operandOf_exhausted_exact
  | succ depth ih => exact ih.chained.chained.operandOf

theorem term_exact (depth : Nat) : (term depth).Exact .term depth :=
  (factor_exact depth).chained

theorem expression_exact (depth : Nat) : (expression depth).Exact .expression depth :=
  (term_exact depth).chained

/-- The rule for the phrases of a category. -/
def ruleFor (depth : Nat) : Category → Rule
  | .chain .additive => expression depth
  | .chain .multiplicative => term depth
  | .factor => factor depth

theorem rule_exact (depth : Nat) (category : Category) :
    (ruleFor depth category).Exact category depth :=
  match category with
  | .chain .additive => expression_exact depth
  | .chain .multiplicative => term_exact depth
  | .factor => factor_exact depth

end Expr

/-- A phrase has one tree: a rule of sufficient depth returns each of its trees. -/
theorem Derives.unambiguous {category : Category} {tokens : List Token} {e e' : Expr}
    (h : Derives category tokens e) (h' : Derives category tokens e') : e = e' := by
  have reads : ∀ e, Derives category tokens e →
      (Expr.ruleFor tokens.length category).read tokens = .ok (e, []) := by
    intro e derives
    refine (Expr.rule_exact _ category _ _ _).mpr
      ⟨tokens, by simp, derives, Token.nestsWithin_length tokens, ?_⟩
    rintro op tail ⟨⟩
  cases (reads e h).symm.trans (reads e' h')
  rfl

namespace Expr

theorem readAll_eq_ok_iff {rule : Rule} {tokens : List Token} {e : Expr} :
    readAll rule tokens = .ok e ↔ rule.read tokens = .ok (e, []) := by
  rw [readAll_eq_ok_iff_readAt, Rule.readAt_eq_ok_iff_read, List.drop_zero]
  constructor
  · rintro ⟨rest, hread, stop⟩
    have shorter := rule.shorter hread
    have none_left : rest.length = 0 := by omega
    rwa [← List.eq_nil_of_length_eq_zero none_left]
  · intro hread
    exact ⟨[], hread, rfl⟩

theorem readAll_of_error {rule : Rule} {tokens : List Token} {failure : Failure}
    (h : rule.read tokens = .error failure) :
    readAll rule tokens = .error (failure.toError tokens) := by
  rw [readAll, Rule.readAt, List.drop_zero, h]
  rfl

theorem readAll_of_rest {rule : Rule} {tokens rest : List Token} {e : Expr}
    (h : rule.read tokens = .ok (e, rest)) (left : rest ≠ []) :
    readAll rule tokens = .error ⟨.trailingInput, tokens, tokens.length - rest.length⟩ := by
  have shorter := rule.shorter h
  have some_left := List.length_pos_iff.mpr left
  have stops : tokens.length - rest.length < tokens.length := by omega
  rw [readAll, Rule.readAt, List.drop_zero, h]
  exact if_pos stops

/-- Tokens are read as an expression exactly when they derive it and nest within the limit. -/
theorem readAll_expression_eq_ok_iff {limit : Nat} {tokens : List Token} {e : Expr} :
    readAll (expression limit) tokens = .ok e ↔
      Derives .expression tokens e ∧ Token.NestsWithin limit tokens := by
  rw [readAll_eq_ok_iff, expression_exact]
  constructor
  · rintro ⟨used, rfl, derives, shallow, -⟩
    simpa using ⟨derives, shallow⟩
  · rintro ⟨derives, shallow⟩
    refine ⟨tokens, by simp, derives, shallow, ?_⟩
    rintro op tail ⟨⟩

theorem ofTokens_eq_ok_iff {tokens : List Token} {e : Expr} :
    ofTokens tokens = .ok e ↔
      Derives .expression tokens e ∧ Token.NestsWithin nestingLimit tokens :=
  readAll_expression_eq_ok_iff

/-- Where no more than 250 parentheses are open at once, reading accepts exactly the expressions of
the grammar and returns the one tree of each. -/
theorem ofTokens_grammar_exact {tokens : List Token} (shallow : Token.NestsWithin 250 tokens) :
    (∀ e, ofTokens tokens = .ok e ↔ Derives .expression tokens e) ∧
      (∀ e e', Derives .expression tokens e → Derives .expression tokens e' → e = e') ∧
      ((∃ error, ofTokens tokens = .error error) ↔ ∀ e, ¬ Derives .expression tokens e) := by
  have within : Token.NestsWithin nestingLimit tokens := shallow.mono (by decide)
  have accepts : ∀ e, ofTokens tokens = .ok e ↔ Derives .expression tokens e := by
    intro e
    rw [ofTokens_eq_ok_iff]
    exact and_iff_left within
  refine ⟨accepts, fun e e' => Derives.unambiguous, ?_⟩
  simp only [← accepts]
  cases ofTokens tokens <;> simp

theorem ofTokens_grammar_exact_differences :
    let tokens := [.number 8, .operator .sub, .leftParen, .number 3, .operator .sub, .number 1,
      .rightParen, .operator .mul, .number 2, .operator .sub, .number 1]
    let product := binary .mul (binary .sub (number 3) (number 1) .additive) (number 2)
      .multiplicative
    let tree := binary .sub (binary .sub (number 8) product .additive) (number 1) .additive
    Token.NestsWithin 250 tokens ∧ ofTokens tokens = .ok tree ∧
      Derives .expression tokens tree ∧ (∀ e, Derives .expression tokens e → tree = e) := by
  intro tokens product tree
  have shallow : Token.NestsWithin 250 tokens := by decide
  have reads : ofTokens tokens = .ok tree := by decide +kernel
  obtain ⟨accepts, unique, -⟩ := ofTokens_grammar_exact shallow
  have derives := (accepts tree).mp reads
  exact ⟨shallow, reads, derives, fun e => unique tree e derives⟩

end Expr

end InfixCalculator
