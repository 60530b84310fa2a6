import InfixCalculator.Proofs.Phrases

/-! # Syntax errors stand at the first token that cannot go on

Whether tokens spell an expression can be told from left to right by a check that builds no tree and
keeps a count of the open parentheses and whether an operand is due. `readAll_outcome` says that
reading fails exactly where the check does and for the same reason. What the check has passed can be
completed unless an operand is due in one parenthesis too many, and where the check stops at a token
nothing that follows matters. Main statement: `error_at_longest_viable_prefix`.
-/
namespace InfixCalculator

/-- Nothing has come yet, or an operand has to follow what came last. -/
def Token.AwaitOperand (front : List Token) : Prop :=
  ∀ t ∈ front.getLast?, t = .leftParen ∨ t.kind = .operator

namespace Expr

/-- What the tokens so far ask of those to come: an operand is due, or one is done and may be
continued, inside so many open parentheses. -/
inductive Prospect
  | operandDue (opened : Nat)
  | operandDone (opened : Nat)
deriving DecidableEq, Repr

namespace Prospect

/-- Goes on with one token. In more than `limit` parentheses nothing can stand for an operand. -/
def next? (limit : Nat) : Prospect → Token → Option Prospect
  | operandDue opened, .number _ => if opened ≤ limit then some (operandDone opened) else none
  | operandDue opened, .leftParen =>
    if opened ≤ limit then some (operandDue (opened + 1)) else none
  | operandDone opened, .operator _ => some (operandDue opened)
  | operandDone (opened + 1), .rightParen => some (operandDone opened)
  | _, _ => none

/-- All the ways in which it can go on. -/
inductive Step (limit : Nat) : Prospect → Token → Prospect → Prop
  | number {opened : Nat} (room : opened ≤ limit) (value : Nat) :
      Step limit (operandDue opened) (.number value) (operandDone opened)
  | opening {opened : Nat} (room : opened ≤ limit) :
      Step limit (operandDue opened) .leftParen (operandDue (opened + 1))
  | operator (opened : Nat) (op : Operator) :
      Step limit (operandDone opened) (.operator op) (operandDue opened)
  | closing (opened : Nat) :
      Step limit (operandDone (opened + 1)) .rightParen (operandDone opened)

/-- Why it does not go on with `rest`, provided that it does not. -/
def blame (limit : Nat) : Prospect → List Token → Failure
  | operandDue _, [] => .unexpected (.expectedOperand none) []
  | operandDue opened, t :: rest =>
    if opened ≤ limit then .unexpected (.expectedOperand (some t.kind)) (t :: rest) else .tooDeep
  | operandDone 0, rest => .unexpected .trailingInput rest
  | operandDone (_ + 1), rest => .unexpected .unclosedParenthesis rest

/-- Goes through all the tokens; they may end behind an operand with no parenthesis open. -/
def check (limit : Nat) : Prospect → List Token → Except Failure Unit
  | operandDone 0, [] => .ok ()
  | p, [] => .error (p.blame limit [])
  | p, t :: rest =>
    match p.next? limit t with
    | some q => q.check limit rest
    | none => .error (p.blame limit (t :: rest))

def after? (limit : Nat) (p : Prospect) (tokens : List Token) : Option Prospect :=
  tokens.foldlM (next? limit) p

/-- Whether an operand can still be had, if one is due. -/
def HasRoom (limit : Nat) : Prospect → Prop
  | operandDue opened => opened ≤ limit
  | operandDone _ => True

/-- The next token, if there is one, cannot follow. -/
def Stuck (limit : Nat) (p : Prospect) (rest : List Token) : Prop :=
  ∀ t tail, rest = t :: tail → p.next? limit t = none

/-- The shortest tokens that complete what is open. -/
def completion : Prospect → List Token
  | operandDue opened => .number 0 :: List.replicate opened .rightParen
  | operandDone opened => List.replicate opened .rightParen

variable {limit : Nat} {p q : Prospect} {t : Token} {tokens front rest : List Token}

theorem next?_eq_some_iff : p.next? limit t = some q ↔ Step limit p t q := by
  constructor
  · intro h
    unfold next? at h
    split at h
    · split at h
      · next room =>
        cases h
        exact .number room _
      · cases h
    · split at h
      · next room =>
        cases h
        exact .opening room
      · cases h
    · cases h
      exact .operator _ _
    · cases h
      exact .closing _
    · cases h
  · intro step
    cases step with
    | number room value => exact if_pos room
    | opening room => exact if_pos room
    | operator => rfl
    | closing => rfl

theorem check_cons (h : p.next? limit t = some q) :
    p.check limit (t :: rest) = q.check limit rest := by
  simp [check, h]

theorem check_stuck (h : p.next? limit t = none) :
    p.check limit (t :: rest) = .error (p.blame limit (t :: rest)) := by
  simp [check, h]

theorem after?_cons_eq_some_iff {used : List Token} :
    p.after? limit (t :: used) = some q ↔
      ∃ p', p.next? limit t = some p' ∧ p'.after? limit used = some q := by
  rw [after?, List.foldlM_cons]
  exact Option.bind_eq_some_iff

theorem after?_append_eq_some_iff {back : List Token} :
    p.after? limit (front ++ back) = some q ↔
      ∃ p', p.after? limit front = some p' ∧ p'.after? limit back = some q := by
  rw [after?, List.foldlM_append]
  exact Option.bind_eq_some_iff

theorem check_append {used : List Token} (h : p.after? limit used = some q) :
    p.check limit (used ++ rest) = q.check limit rest := by
  induction used generalizing p with
  | nil =>
    cases h
    rfl
  | cons t used ih =>
    obtain ⟨p', step, reached⟩ := after?_cons_eq_some_iff.mp h
    rw [List.cons_append, check_cons step]
    exact ih reached

theorem after?_append_singleton :
    p.after? limit (front ++ [t]) = (p.after? limit front).bind (next? limit · t) := by
  simp [after?, List.foldlM_append]

theorem operandDue_iff_of_next? (h : p.next? limit t = some q) :
    (∃ opened, q = operandDue opened) ↔ t = .leftParen ∨ t.kind = .operator := by
  cases next?_eq_some_iff.mp h <;> simp [Token.kind]

theorem operandDue_iff_of_after? (h : (operandDue 0).after? limit front = some q) :
    (∃ opened, q = operandDue opened) ↔ Token.AwaitOperand front := by
  induction front using List.reverseRecOn with
  | nil =>
    cases h
    simp [Token.AwaitOperand]
  | append_singleton front t ih =>
    rw [after?_append_singleton, Option.bind_eq_some_iff] at h
    obtain ⟨q', -, step⟩ := h
    simp [operandDue_iff_of_next? step, Token.AwaitOperand]

theorem exists_after?_of_check (h : p.check limit (front ++ rest) = .ok ()) :
    ∃ q, p.after? limit front = some q ∧ q.check limit rest = .ok () := by
  induction front generalizing p with
  | nil => exact ⟨p, rfl, h⟩
  | cons t front ih =>
    cases step : p.next? limit t with
    | none =>
      rw [List.cons_append, check_stuck step] at h
      cases h
    | some p' =>
      rw [List.cons_append, check_cons step] at h
      obtain ⟨q, reached, rest_ok⟩ := ih h
      exact ⟨q, after?_cons_eq_some_iff.mpr ⟨p', step, reached⟩, rest_ok⟩

def opened : Prospect → Nat
  | operandDue opened | operandDone opened => opened

theorem Step.opened_eq (h : Step limit p t q) :
    p.opened + [t].count .leftParen = q.opened + [t].count .rightParen := by
  cases h <;> simp [opened]

theorem opened_eq_of_after? {used : List Token} (h : p.after? limit used = some q) :
    p.opened + used.count .leftParen = q.opened + used.count .rightParen := by
  induction used generalizing p with
  | nil =>
    cases h
    rfl
  | cons t used ih =>
    obtain ⟨p', step, reached⟩ := after?_cons_eq_some_iff.mp h
    have first := (next?_eq_some_iff.mp step).opened_eq
    have others := ih reached
    rw [← List.singleton_append, List.count_append, List.count_append]
    omega

theorem opened_eq_unclosed {used : List Token} (h : (operandDue 0).after? limit used = some q) :
    q.opened = Token.unclosed used := by
  have balance := opened_eq_of_after? h
  rw [opened] at balance
  rw [Token.unclosed]
  omega

/-- A failing check stops in front of some token, or of the end, and blames what it finds there. -/
theorem exists_stop {failure : Failure} (h : p.check limit tokens = .error failure) :
    ∃ used q rest, tokens = used ++ rest ∧ p.after? limit used = some q ∧
      failure = q.blame limit rest ∧ Stuck limit q rest := by
  induction tokens generalizing p with
  | nil =>
    refine ⟨[], p, [], rfl, rfl, ?_, nofun⟩
    cases p with
    | operandDue opened => cases h; rfl
    | operandDone opened => cases opened <;> cases h; rfl
  | cons t tokens ih =>
    cases step : p.next? limit t with
    | none =>
      rw [check_stuck step] at h
      cases h
      refine ⟨[], p, t :: tokens, rfl, rfl, rfl, ?_⟩
      rintro t' tail ⟨⟩
      exact step
    | some p' =>
      rw [check_cons step] at h
      obtain ⟨used, q, rest, rfl, reached, blamed, stuck⟩ := ih h
      have reached' := after?_cons_eq_some_iff.mpr ⟨p', step, reached⟩
      exact ⟨t :: used, q, rest, rfl, reached', blamed, stuck⟩

/-- What is open can be completed. -/
theorem check_completion {limit : Nat} {p : Prospect} (room : p.HasRoom limit) :
    p.check limit p.completion = .ok () := by
  have closes : ∀ opened, (operandDone opened).check limit (List.replicate opened .rightParen) =
      .ok () := by
    intro opened
    induction opened with
    | zero => rfl
    | succ opened ih => exact ih
  cases p with
  | operandDue opened =>
    have step : (operandDue opened).next? limit (.number 0) = some (operandDone opened) :=
      if_pos room
    rw [completion, check_cons step]
    exact closes opened
  | operandDone opened => exact closes opened

/-- A failure apart from the nesting limit depends on the next token alone. -/
theorem blame_cons {cause : SyntacticCause} {rest' : List Token}
    (h : p.blame limit (t :: rest) = .unexpected cause rest') (more : List Token) :
    p.blame limit (t :: more) = .unexpected cause (t :: more) := by
  cases p with
  | operandDue opened =>
    simp only [blame] at h ⊢
    split at h
    · next room =>
      cases h
      exact if_pos room
    · cases h
  | operandDone opened => cases opened <;> cases h <;> rfl

theorem eq_of_blame {cause : SyntacticCause} {rest' : List Token}
    (h : p.blame limit rest = .unexpected cause rest') : rest' = rest := by
  cases p with
  | operandDue opened =>
    cases rest with
    | nil => cases h; rfl
    | cons t rest =>
      simp only [blame] at h
      split at h <;> cases h
      rfl
  | operandDone opened => cases opened <;> cases h <;> rfl

/-- Where no operand can be had, only the end of the input is blamed as such. -/
theorem hasRoom_of_blame {cause : SyntacticCause} {rest' : List Token}
    (h : p.blame limit rest = .unexpected cause rest')
    (not_ended : cause ≠ .expectedOperand none) : p.HasRoom limit := by
  cases p with
  | operandDue opened =>
    cases rest with
    | nil =>
      cases h
      exact absurd rfl not_ended
    | cons t rest =>
      simp only [blame] at h
      split at h
      · next room => exact room
      · cases h
  | operandDone opened => trivial

end Prospect

open Prospect

/-- What the rule takes off the front, the check passes as one operand, and where the rule fails the
check fails likewise. -/
def Rule.Checked (rule : Rule) (depth : Nat) : Prop :=
  ∀ opened tokens, (operandDue opened).check (opened + depth) tokens =
    match rule.read tokens with
    | .error failure => .error failure
    | .ok (_, rest) => (operandDone opened).check (opened + depth) rest

variable {level : Level} {operand rule : Rule} {depth : Nat}

theorem check_extendChain (checked : operand.Checked depth) (opened : Nat) (left : Expr)
    (tokens : List Token) :
    (operandDone opened).check (opened + depth) tokens =
      match extendChain level operand left tokens with
      | .error failure => .error failure
      | .ok (_, rest) => (operandDone opened).check (opened + depth) rest := by
  fun_induction extendChain level operand left tokens with
  | case1 left op tail same failure hread =>
    rw [check_cons rfl, checked opened tail, hread]
  | case2 left op tail same right rest hread ih =>
    rw [check_cons rfl, checked opened tail, hread]
    exact ih
  | case3 => rfl
  | case4 => rfl

theorem Rule.Checked.chained (checked : operand.Checked depth) :
    (chained level operand).Checked depth := by
  intro opened tokens
  rw [checked opened tokens]
  simp only [Expr.chained]
  cases operand.read tokens with
  | error failure => rfl
  | ok result => exact check_extendChain checked opened result.1 result.2

/-- The check gives up in one parenthesis too many as the exhausted rule does. -/
theorem check_exhausted (limit : Nat) (tokens : List Token) :
    (operandDue (limit + 1)).check limit tokens =
      match exhausted.read tokens with
      | .error failure => .error failure
      | .ok (_, rest) => (operandDone (limit + 1)).check limit rest := by
  cases tokens with
  | nil => rfl
  | cons t rest =>
    have stuck : (operandDue (limit + 1)).next? limit t = none := by
      cases t <;> simp [next?]
    rw [check_stuck stuck]
    simp [blame, exhausted]

/-- In front of what ends an expression, only a closing parenthesis can be passed. -/
theorem check_unclosed {opened limit : Nat} {rest : List Token}
    (ends : Category.expression.EndsBefore rest)
    (no_closing : ∀ tail, rest ≠ .rightParen :: tail) :
    (operandDone (opened + 1)).check limit rest =
      .error (.unexpected .unclosedParenthesis rest) := by
  cases rest with
  | nil => rfl
  | cons t tail =>
    cases t with
    | operator op => exact absurd (ends op tail rfl) (Nat.not_lt_zero _)
    | rightParen => exact absurd rfl (no_closing tail)
    | _ => rfl

/-- What stands between parentheses is passed as the rule for it says, and so is the factor. -/
theorem check_operandOf {limit opened : Nat} (room : opened ≤ limit) {inside : Rule}
    (checked : ∀ tokens, (operandDue (opened + 1)).check limit tokens =
      match inside.read tokens with
      | .error failure => .error failure
      | .ok (_, rest) => (operandDone (opened + 1)).check limit rest)
    (ends : ∀ tokens e rest, inside.read tokens = .ok (e, rest) →
      Category.expression.EndsBefore rest) (tokens : List Token) :
    (operandDue opened).check limit tokens =
      match (operandOf inside).read tokens with
      | .error failure => .error failure
      | .ok (_, rest) => (operandDone opened).check limit rest := by
  cases tokens with
  | nil => rfl
  | cons t tokens =>
    cases t with
    | number value =>
      have step : (operandDue opened).next? limit (.number value) = some (operandDone opened) :=
        if_pos room
      exact check_cons step
    | leftParen =>
      have opens : (operandDue opened).next? limit .leftParen = some (operandDue (opened + 1)) :=
        if_pos room
      rw [check_cons opens, checked tokens]
      simp only [operandOf]
      cases hread : inside.read tokens with
      | error failure => rfl
      | ok result =>
        obtain ⟨e, rest⟩ := result
        have ends_rest := ends _ _ _ hread
        cases rest with
        | nil => exact check_unclosed ends_rest (by simp)
        | cons t tail =>
          cases t with
          | rightParen => rfl
          | _ => exact check_unclosed ends_rest (by simp)
    | operator op =>
      rw [check_stuck rfl]
      simp [blame, room, operandOf]
    | rightParen =>
      rw [check_stuck rfl]
      simp [blame, room, operandOf]

theorem factor_checked (depth : Nat) : (factor depth).Checked depth := by
  induction depth with
  | zero =>
    intro opened tokens
    refine check_operandOf le_rfl (check_exhausted opened) ?_ tokens
    intro tokens e rest hread
    exact absurd hread exhausted_ne_ok
  | succ depth ih =>
    intro opened tokens
    refine check_operandOf (Nat.le_add_right _ _) (fun tokens => ?_) ?_ tokens
    · have within : opened + (depth + 1) = opened + 1 + depth := by omega
      rw [within]
      exact ih.chained.chained (opened + 1) tokens
    · intro tokens e rest hread
      obtain ⟨used, -, -, -, ends⟩ := (expression_exact depth _ _ _).mp hread
      exact ends

theorem expression_checked (depth : Nat) : (expression depth).Checked depth :=
  (factor_checked depth).chained.chained

/-- Reading and the check succeed together, or they fail in the same place and for the same
reason. -/
theorem readAll_outcome (limit : Nat) (tokens : List Token) :
    (∃ e, readAll (expression limit) tokens = .ok e ∧
        (operandDue 0).check limit tokens = .ok ()) ∨
      ∃ failure, readAll (expression limit) tokens = .error (failure.toError tokens) ∧
        (operandDue 0).check limit tokens = .error failure := by
  have checked := expression_checked limit 0 tokens
  rw [Nat.zero_add] at checked
  rw [checked]
  cases hread : (expression limit).read tokens with
  | error failure => exact .inr ⟨failure, readAll_of_error hread, rfl⟩
  | ok result =>
    obtain ⟨e, rest⟩ := result
    obtain ⟨used, -, -, -, ends⟩ := (expression_exact _ _ _ _).mp hread
    cases rest with
    | nil => exact .inl ⟨e, readAll_eq_ok_iff.mpr hread, rfl⟩
    | cons t tail =>
      refine .inr ⟨.unexpected .trailingInput (t :: tail), readAll_of_rest hread (by simp), ?_⟩
      cases t with
      | operator op => exact absurd (ends op tail rfl) (Nat.not_lt_zero _)
      | _ => rfl

theorem readAll_eq_error_iff {limit : Nat} {tokens : List Token} {error : SyntaxError} :
    readAll (expression limit) tokens = .error error ↔
      ∃ failure, (operandDue 0).check limit tokens = .error failure ∧
        failure.toError tokens = error := by
  rcases readAll_outcome limit tokens with ⟨e, hread, hcheck⟩ | ⟨failure, hread, hcheck⟩
  · simp [hread, hcheck]
  · simp [hread, hcheck]

theorem exists_readAll_eq_ok_iff {limit : Nat} {tokens : List Token} :
    (∃ e, readAll (expression limit) tokens = .ok e) ↔
      (operandDue 0).check limit tokens = .ok () := by
  rcases readAll_outcome limit tokens with ⟨e, hread, hcheck⟩ | ⟨failure, hread, hcheck⟩
  · simp [hread, hcheck]
  · simp [hread, hcheck]

/-- A syntax error stands where the check stops, and blames what it finds there. -/
theorem exists_stop_of_readAll {limit : Nat} {tokens : List Token} {error : SyntaxError}
    (failed : readAll (expression limit) tokens = .error error)
    (within : error.cause ≠ .nestedTooDeeply) :
    ∃ used q rest, tokens = used ++ rest ∧ error.index = used.length ∧
      (operandDue 0).after? limit used = some q ∧ Stuck limit q rest ∧
      q.check limit rest ≠ .ok () ∧ q.blame limit rest = .unexpected error.cause rest := by
  obtain ⟨failure, checked, rfl⟩ := readAll_eq_error_iff.mp failed
  obtain ⟨used, q, rest, rfl, reached, rfl, stuck⟩ := exists_stop checked
  have stopped : q.check limit rest ≠ .ok () := by
    rw [← check_append reached, checked]
    exact nofun
  cases blamed : q.blame limit rest with
  | tooDeep =>
    rw [blamed] at within
    exact absurd rfl within
  | unexpected cause rest' =>
    obtain rfl := eq_of_blame blamed
    exact ⟨used, q, rest', rfl, by simp [Failure.toError], reached, stuck, stopped, blamed⟩

/-- Where the check stops at a token, reading fails in the same way whatever follows the token. -/
theorem readAll_eq_error_of_stuck {limit : Nat} {used rest : List Token} {t : Token} {q : Prospect}
    {cause : SyntacticCause} (reached : (operandDue 0).after? limit used = some q)
    (stuck : q.next? limit t = none)
    (blamed : q.blame limit (t :: rest) = .unexpected cause (t :: rest)) (more : List Token) :
    readAll (expression limit) (used ++ t :: more) =
      .error ⟨cause, used ++ t :: more, used.length⟩ := by
  refine readAll_eq_error_iff.mpr ⟨.unexpected cause (t :: more), ?_, ?_⟩
  · rw [check_append reached, check_stuck stuck, blame_cons blamed]
  · simp [Failure.toError]

/-- No expression has an operator where an operand is awaited. -/
theorem readAll_ne_ok_of_operator {limit : Nat} {front : List Token}
    (awaited : Token.AwaitOperand front) (op : Operator) (rest : List Token) (e : Expr) :
    readAll (expression limit) (front ++ .operator op :: rest) ≠ .ok e := by
  intro h
  have passes := exists_readAll_eq_ok_iff.mp ⟨e, h⟩
  obtain ⟨q, reached, behind⟩ := exists_after?_of_check passes
  obtain ⟨opened, rfl⟩ := (operandDue_iff_of_after? reached).mpr awaited
  rw [check_stuck rfl] at behind
  cases behind

theorem hasRoom_of_nestsWithin {limit : Nat} {used : List Token} {q : Prospect}
    (reached : (operandDue 0).after? limit used = some q) (shallow : Token.NestsWithin limit used) :
    q.HasRoom limit := by
  cases q with
  | operandDue opened =>
    have count : opened = Token.unclosed used := opened_eq_unclosed reached
    rw [HasRoom, count]
    exact shallow used List.prefix_rfl
  | operandDone opened => trivial

/-- The tokens in front of a syntax error can be completed to an expression, unless they end where
an operand is due in more parentheses than the limit allows. Together with the token to blame they
are refused in the same way whatever follows. -/
theorem error_at_longest_viable_prefix {limit : Nat} {tokens : List Token} {error : SyntaxError}
    (failed : readAll (expression limit) tokens = .error error)
    (within : error.cause ≠ .nestedTooDeeply) :
    error.index ≤ tokens.length ∧
      (error.cause ≠ .expectedOperand none ∨ Token.NestsWithin limit tokens →
        ∃ more e, readAll (expression limit) (tokens.take error.index ++ more) = .ok e) ∧
      (error.index < tokens.length → ∀ more,
        readAll (expression limit) (tokens.take (error.index + 1) ++ more) =
          .error ⟨error.cause, tokens.take (error.index + 1) ++ more, error.index⟩) := by
  obtain ⟨used, q, rest, rfl, index, reached, stuck, -, blamed⟩ :=
    exists_stop_of_readAll failed within
  -- So the error stands right behind the tokens that the check has passed.
  rw [index, List.take_left]
  refine ⟨by simp, ?_, ?_⟩
  · intro allowed
    have room : q.HasRoom limit := by
      rcases allowed with not_ended | shallow
      · exact hasRoom_of_blame blamed not_ended
      · exact hasRoom_of_nestsWithin reached shallow.of_append
    refine ⟨q.completion, exists_readAll_eq_ok_iff.mpr ?_⟩
    rw [check_append reached]
    exact check_completion room
  · intro lt more
    cases rest with
    | nil => simp at lt
    | cons t tail =>
      have front : (used ++ t :: tail).take (used.length + 1) = used ++ [t] := by
        rw [List.append_cons]
        exact List.take_left' (by simp)
      rw [front, List.append_assoc, List.singleton_append]
      exact readAll_eq_error_of_stuck reached (stuck t tail rfl) blamed more

theorem error_at_longest_viable_prefix_unclosed :
    let tokens := [.number 1, .operator .sub, .leftParen, .number 2, .number 3, .rightParen]
    let front := [.number 1, .operator .sub, .leftParen, .number 2]
    ofTokens tokens = .error ⟨.unclosedParenthesis, tokens, 4⟩ ∧
      (∃ more e, ofTokens (front ++ more) = .ok e) ∧
      ∀ more, ofTokens (front ++ .number 3 :: more) =
        .error ⟨.unclosedParenthesis, front ++ .number 3 :: more, 4⟩ := by
  intro tokens front
  have failed : ofTokens tokens = .error ⟨.unclosedParenthesis, tokens, 4⟩ := by decide +kernel
  obtain ⟨-, viable, settled⟩ := error_at_longest_viable_prefix failed (by decide)
  exact ⟨failed, viable (.inl (by decide)), settled (by decide)⟩

/-- In one parenthesis too many the end of the input is still reported where an operand is due,
although nothing can follow there. -/
theorem error_without_continuation :
    let tokens := List.replicate 331 Token.leftParen
    ofTokens tokens = .error ⟨.expectedOperand none, tokens, 331⟩ ∧
      ¬ ∃ more e, ofTokens (tokens ++ more) = .ok e := by
  intro tokens
  refine ⟨by decide +kernel, ?_⟩
  rintro ⟨more, e, reads⟩
  have within := (ofTokens_eq_ok_iff.mp reads).2 tokens (List.prefix_append _ _)
  exact absurd within (by decide +kernel)

end Expr

end InfixCalculator
