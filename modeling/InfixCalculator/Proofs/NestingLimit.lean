import InfixCalculator.Proofs.Viability

/-! # Only nesting is limited

Two checks of the same tokens under different limits go the same way until one of them meets an
opening parenthesis that it may not pass. So a limit shows only where parentheses nest that deep: it
stays unnoticed on shallow tokens, however many they are, and it hides every fault behind the place
where it is first exceeded, but none before. The count of open parentheses that the check keeps is
the number of those that are unclosed: `Prospect.opened_eq_unclosed`.
-/
namespace InfixCalculator

/-- Some expression of the grammar begins with the tokens. -/
def Token.Viable (front : List Token) : Prop :=
  ∃ more e, Derives .expression (front ++ more) e

namespace Expr

namespace Prospect

variable {limit small large : Nat} {p q : Prospect} {t : Token} {used rest tokens : List Token}

/-- One parenthesis more than the limit allows around an operand can be opened. -/
theorem Step.opened_le (h : Step limit p t q) (within : p.opened ≤ limit + 1) :
    q.opened ≤ limit + 1 := by
  cases h with
  | number => exact within
  | opening room => exact Nat.succ_le_succ room
  | operator => exact within
  | closing => exact Nat.le_of_succ_le within

theorem opened_le_of_after? (within : p.opened ≤ limit + 1) (h : p.after? limit used = some q) :
    q.opened ≤ limit + 1 := by
  induction used generalizing p with
  | nil =>
    cases h
    exact within
  | cons t used ih =>
    obtain ⟨p', step, reached⟩ := after?_cons_eq_some_iff.mp h
    exact ih ((next?_eq_some_iff.mp step).opened_le within) reached

theorem Step.mono (h : Step small p t q) (le : small ≤ large) : Step large p t q := by
  cases h with
  | number room value => exact .number (room.trans le) value
  | opening room => exact .opening (room.trans le)
  | operator opened op => exact .operator opened op
  | closing opened => exact .closing opened

theorem after?_mono (h : p.after? small used = some q) (le : small ≤ large) :
    p.after? large used = some q := by
  induction used generalizing p with
  | nil => exact h
  | cons t used ih =>
    obtain ⟨p', step, reached⟩ := after?_cons_eq_some_iff.mp h
    have wider := next?_eq_some_iff.mpr ((next?_eq_some_iff.mp step).mono le)
    exact after?_cons_eq_some_iff.mpr ⟨p', wider, ih reached⟩

/-- Under another limit the same step is possible, or the operand would stand too deep. -/
theorem Step.next?_of_limit (h : Step large p t q) (small : Nat) :
    p.next? small t = some q ∨
      p.next? small t = none ∧ ∀ rest, p.blame small (t :: rest) = .tooDeep := by
  cases h with
  | @number opened room value =>
    by_cases room' : opened ≤ small
    · exact .inl (if_pos room')
    · exact .inr ⟨if_neg room', fun _ => if_neg room'⟩
  | @opening opened room =>
    by_cases room' : opened ≤ small
    · exact .inl (if_pos room')
    · exact .inr ⟨if_neg room', fun _ => if_neg room'⟩
  | operator opened op => exact .inl rfl
  | closing opened => exact .inl rfl

/-- Under another limit the check passes the same tokens, or it gives up among them because of the
limit, whatever follows. -/
theorem after?_of_limit (h : p.after? large used = some q) (small : Nat) :
    p.after? small used = some q ∨ ∀ rest, p.check small (used ++ rest) = .error .tooDeep := by
  induction used generalizing p with
  | nil => exact .inl h
  | cons t used ih =>
    obtain ⟨p', step, reached⟩ := after?_cons_eq_some_iff.mp h
    rcases (next?_eq_some_iff.mp step).next?_of_limit small with same | ⟨stuck, blamed⟩
    · rcases ih reached with passes | gives_up
      · exact .inl (after?_cons_eq_some_iff.mpr ⟨p', same, passes⟩)
      · refine .inr fun rest => ?_
        rw [List.cons_append, check_cons same]
        exact gives_up rest
    · refine .inr fun rest => ?_
      rw [List.cons_append, check_stuck stuck, blamed]

theorem blame_ne_tooDeep (room : p.HasRoom limit) : p.blame limit tokens ≠ .tooDeep := by
  cases p with
  | operandDue opened =>
    cases tokens with
    | nil => simp [blame]
    | cons t rest =>
      have room : opened ≤ limit := room
      simp [blame, room]
  | operandDone opened => cases opened <;> simp [blame]

/-- Tokens that nest within the limit never bring it up. -/
theorem check_ne_tooDeep (shallow : Token.NestsWithin limit tokens) :
    (operandDue 0).check limit tokens ≠ .error .tooDeep := by
  intro failed
  obtain ⟨used, q, rest, rfl, reached, blamed, -⟩ := exists_stop failed
  exact blame_ne_tooDeep (hasRoom_of_nestsWithin reached shallow.of_append) blamed.symm

theorem after?_of_shallow (h : (operandDue 0).after? large used = some q)
    (shallow : Token.NestsWithin small used) : (operandDue 0).after? small used = some q := by
  rcases after?_of_limit h small with passes | gives_up
  · exact passes
  · have failed := gives_up []
    rw [List.append_nil] at failed
    exact absurd failed (check_ne_tooDeep shallow)

end Prospect

open Prospect

/-- A front part is viable when some limit lets the check pass it. -/
theorem viable_iff {front : List Token} :
    Token.Viable front ↔ ∃ limit q, (operandDue 0).after? limit front = some q := by
  constructor
  · rintro ⟨more, e, derives⟩
    have reads := readAll_expression_eq_ok_iff.mpr ⟨derives, Token.nestsWithin_length _⟩
    obtain ⟨q, reached, -⟩ := exists_after?_of_check (exists_readAll_eq_ok_iff.mp ⟨e, reads⟩)
    exact ⟨_, q, reached⟩
  · rintro ⟨limit, q, reached⟩
    -- One more level leaves room for an operand wherever the check has come to.
    have within := opened_le_of_after? (Nat.zero_le (limit + 1)) reached
    have room : q.HasRoom (limit + 1) := by
      cases q with
      | operandDue opened => exact within
      | operandDone opened => trivial
    have completed : (operandDue 0).check (limit + 1) (front ++ q.completion) = .ok () := by
      rw [check_append (after?_mono reached (Nat.le_succ limit))]
      exact check_completion room
    obtain ⟨e, reads⟩ := exists_readAll_eq_ok_iff.mpr completed
    exact ⟨q.completion, e, (readAll_expression_eq_ok_iff.mp reads).1⟩

variable {limit : Nat} {front tokens : List Token} {t : Token}

/-- Where two parentheses more are open than the limit allows around an operand, nothing that
follows is looked at. -/
theorem readAll_of_deep (viable : Token.Viable front) (deep : limit + 1 < Token.unclosed front)
    (rest : List Token) :
    readAll (expression limit) (front ++ rest) =
      .error ⟨.nestedTooDeeply, front ++ rest, 0⟩ := by
  obtain ⟨large, q, reached⟩ := viable_iff.mp viable
  rcases after?_of_limit reached limit with passes | gives_up
  · have opened := opened_eq_unclosed passes
    have within := opened_le_of_after? (Nat.zero_le (limit + 1)) passes
    omega
  · exact readAll_eq_error_iff.mpr ⟨.tooDeep, gives_up rest, rfl⟩

theorem cause_ne_of_blame {p : Prospect} {cause : SyntacticCause} {rest : List Token}
    (h : p.blame limit tokens = .unexpected cause rest) : cause ≠ .nestedTooDeeply := by
  rintro rfl
  cases p with
  | operandDue opened =>
    cases tokens with
    | nil => cases h
    | cons t rest =>
      simp only [blame] at h
      split at h <;> cases h
  | operandDone opened => cases opened <;> cases h

theorem cause_ne_of_shallow (shallow : Token.NestsWithin limit tokens) {error : SyntaxError}
    (failed : readAll (expression limit) tokens = .error error) :
    error.cause ≠ .nestedTooDeeply := by
  obtain ⟨failure, checked, rfl⟩ := readAll_eq_error_iff.mp failed
  cases failure with
  | tooDeep => exact absurd checked (check_ne_tooDeep shallow)
  | unexpected cause rest =>
    obtain ⟨used, q, stop, rfl, -, blamed, -⟩ := exists_stop checked
    exact cause_ne_of_blame blamed.symm

/-- The first token that no expression has in its place is blamed, unless the limit is exceeded in
front of it. -/
theorem readAll_of_not_viable (viable : Token.Viable front)
    (not_viable : ¬ Token.Viable (front ++ [t])) (shallow : Token.NestsWithin limit front) :
    ∃ cause, cause ≠ .nestedTooDeeply ∧ ∀ rest,
      readAll (expression limit) (front ++ t :: rest) =
        .error ⟨cause, front ++ t :: rest, front.length⟩ := by
  obtain ⟨large, q, reached⟩ := viable_iff.mp viable
  have passes := after?_of_shallow reached shallow
  have stuck : q.next? limit t = none := by
    rw [Option.eq_none_iff_forall_ne_some]
    intro q' step
    refine not_viable (viable_iff.mpr ⟨limit, q', ?_⟩)
    rw [after?_append_singleton, passes]
    exact step
  cases blamed : q.blame limit [t] with
  | tooDeep => exact absurd blamed (blame_ne_tooDeep (hasRoom_of_nestsWithin passes shallow))
  | unexpected cause rest =>
    obtain rfl := eq_of_blame blamed
    exact ⟨cause, cause_ne_of_blame blamed, readAll_eq_error_of_stuck passes stuck blamed⟩

/-- Under any limit from 250 on that lets fewer than 1000 parentheses open, tokens in which no more
than 250 parentheses are open at once are never refused for their nesting, a beginning of an
expression with 1000 unclosed parentheses is, whatever follows it, and behind a shallow beginning
the first token that cannot go on is blamed, whatever follows that. `ofTokens` is the case of
`nestingLimit`. -/
theorem readAll_limits_nesting_only {limit : Nat} (low : 250 ≤ limit) (high : limit + 1 < 1000) :
    (∀ tokens error, Token.NestsWithin 250 tokens →
      readAll (expression limit) tokens = .error error → error.cause ≠ .nestedTooDeeply) ∧
      (∀ front rest, Token.Viable front → 1000 ≤ Token.unclosed front →
        readAll (expression limit) (front ++ rest) =
          .error ⟨.nestedTooDeeply, front ++ rest, 0⟩) ∧
      (∀ front t, Token.Viable front → ¬ Token.Viable (front ++ [t]) →
        Token.NestsWithin 250 front →
        ∃ cause, cause ≠ .nestedTooDeeply ∧ ∀ rest,
          readAll (expression limit) (front ++ t :: rest) =
            .error ⟨cause, front ++ t :: rest, front.length⟩) := by
  refine ⟨?_, ?_, ?_⟩
  · intro tokens error shallow failed
    exact cause_ne_of_shallow (shallow.mono low) failed
  · intro front rest viable deep
    exact readAll_of_deep viable (Nat.lt_of_lt_of_le high deep) rest
  · intro front t viable not_viable shallow
    exact readAll_of_not_viable viable not_viable (shallow.mono low)

theorem readAll_limits_nesting_only_opening :
    (∀ rest, ofTokens (List.replicate 1000 .leftParen ++ rest) =
      .error ⟨.nestedTooDeeply, List.replicate 1000 .leftParen ++ rest, 0⟩) ∧
      ∃ cause, cause ≠ .nestedTooDeeply ∧ ∀ rest,
        ofTokens (.number 1 :: .leftParen :: rest) =
          .error ⟨cause, .number 1 :: .leftParen :: rest, 1⟩ := by
  obtain ⟨-, deep, first⟩ :=
    readAll_limits_nesting_only (show 250 ≤ nestingLimit by decide) (by decide)
  constructor
  · intro rest
    have viable : Token.Viable (List.replicate 1000 .leftParen) :=
      viable_iff.mpr ⟨1000, operandDue 1000, by decide +kernel⟩
    exact deep _ rest viable (by decide +kernel)
  · refine first [.number 1] .leftParen (viable_iff.mpr ⟨0, operandDone 0, rfl⟩) ?_ (by decide)
    rintro ⟨more, e, derives⟩
    have reads := readAll_expression_eq_ok_iff.mpr ⟨derives, Token.nestsWithin_length _⟩
    cases exists_readAll_eq_ok_iff.mp ⟨e, reads⟩

end Expr

end InfixCalculator
