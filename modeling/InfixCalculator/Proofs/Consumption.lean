import InfixCalculator.Proofs.Phrases

/-! # What a rule consumes

A rule that starts somewhere in the tokens consumes one phrase of its category, and no longer phrase
starts there. The tokens in front of the phrase have no influence on that, and those behind it only
decide by the first of them that the phrase ends. Main statement: `readAt_maximal_phrase`.
-/
namespace InfixCalculator

namespace Category

variable {category : Category}

/-- Whether a phrase of the category may end in front of `next`, which is `none` at the end of the
input. -/
def EndsAt : Category → (next : Option Token) → Prop
  | .chain .additive, next => ∀ op, next ≠ some (.operator op)
  | .chain .multiplicative, next =>
    next ≠ some (.operator .mul) ∧ next ≠ some (.operator .div)
  | .factor, _ => True

theorem endsBefore_iff_head? {rest : List Token} :
    category.EndsBefore rest ↔
      ∀ op, rest.head? = some (.operator op) → op.level.strength < category.strength := by
  constructor
  · intro ends op first
    obtain ⟨tail, rfl⟩ := List.head?_eq_some_iff.mp first
    exact ends op tail rfl
  · rintro ends op tail rfl
    exact ends op rfl

/-- The operators that end no phrase of the category are those of its own level and of the levels
that bind tighter. -/
theorem endsBefore_iff {rest : List Token} :
    category.EndsBefore rest ↔ category.EndsAt rest.head? := by
  rw [endsBefore_iff_head?]
  cases category with
  | chain level =>
    cases level with
    | additive =>
      constructor
      · intro ends op first
        have looser := ends op first
        revert looser
        cases op <;> decide
      · intro ends op first
        exact absurd first (ends op)
    | multiplicative =>
      constructor
      · intro ends
        exact ⟨fun first => absurd (ends .mul first) (by decide),
          fun first => absurd (ends .div first) (by decide)⟩
      · rintro ⟨no_mul, no_div⟩ op first
        cases op with
        | add | sub => decide
        | mul => exact absurd first no_mul
        | div => exact absurd first no_div
  | factor =>
    constructor
    · intro _
      trivial
    · intro _ op _
      cases op <;> decide

theorem endsBefore_nil (category : Category) : category.EndsBefore [] := by
  rintro op tail ⟨⟩

/-- What follows a phrase is judged by its first token. -/
theorem EndsBefore.take {rest : List Token} (ends : category.EndsBefore rest) (n : Nat) :
    category.EndsBefore (rest.take n) := by
  intro op tail first
  cases n with
  | zero => cases first
  | succ n =>
    cases rest with
    | nil => cases first
    | cons t rest =>
      obtain ⟨rfl, -⟩ := List.cons.inj first
      exact ends op rest rfl

end Category

namespace Derives

variable {category : Category} {tokens more : List Token} {e e' : Expr}

/-- A phrase goes on only where an operator of its category stands. -/
theorem eq_nil_of_append (h : Derives category tokens e)
    (longer : Derives category (tokens ++ more) e') (ends : category.EndsBefore more) :
    more = [] := by
  -- A rule of sufficient depth would have to stop at both ends.
  have shallow := Token.nestsWithin_length (tokens ++ more)
  have exact := Expr.rule_exact (tokens ++ more).length category
  have stops := (exact _ _ _).mpr ⟨tokens, rfl, h, shallow.of_append, ends⟩
  have goes_on := (exact (tokens ++ more) e' []).mpr
    ⟨tokens ++ more, by simp, longer, shallow, category.endsBefore_nil⟩
  cases stops.symm.trans goes_on
  rfl

end Derives

namespace Expr

variable {depth start stop : Nat} {category : Category} {rule : Rule} {tokens : List Token}
  {e : Expr}

/-- The tokens are cut into what stands in front of the phrase, the phrase and what it leaves. -/
theorem Rule.Exact.readAt_eq_ok_iff (exact : rule.Exact category depth) :
    rule.readAt tokens start = .ok (e, stop) ↔
      ∃ before used rest, tokens = before ++ (used ++ rest) ∧ start = before.length ∧
        stop = before.length + used.length ∧ Derives category used e ∧
        Token.NestsWithin depth used ∧ category.EndsBefore rest := by
  rw [Rule.readAt_eq_ok_iff_read]
  constructor
  · rintro ⟨rest, hread, rfl⟩
    obtain ⟨used, split, derives, shallow, ends⟩ := (exact _ _ _).mp hread
    have some_used : 0 < used.length := List.length_pos_iff.mpr derives.ne_nil
    have lengths := congrArg List.length split
    rw [List.length_drop, List.length_append] at lengths
    have front : (tokens.take start).length = start := by
      rw [List.length_take]
      omega
    refine ⟨tokens.take start, used, rest, ?_, front.symm, ?_, derives, shallow, ends⟩
    · rw [← split, List.take_append_drop]
    · rw [front]
      omega
  · rintro ⟨before, used, rest, rfl, rfl, rfl, derives, shallow, ends⟩
    refine ⟨rest, ?_, ?_⟩
    · rw [List.drop_left]
      exact (exact _ _ _).mpr ⟨used, rfl, derives, shallow, ends⟩
    · simp only [List.length_append]
      omega

theorem extract_phrase (before used rest : List Token) (n : Nat) :
    (before ++ (used ++ rest)).extract before.length (before.length + used.length + n) =
      used ++ rest.take n := by
  rw [List.extract_eq_take_drop, List.drop_left, Nat.add_assoc, Nat.add_sub_cancel_left,
    List.take_length_add_append]

theorem getElem?_behind_phrase (before used rest : List Token) :
    (before ++ (used ++ rest))[before.length + used.length]? = rest.head? := by
  rw [← List.append_assoc, ← List.length_append, List.getElem?_append_right (Nat.le_refl _),
    Nat.sub_self, List.head?_eq_getElem?]

/-- Where a rule returns, it has consumed at least one token and none that is not there. What it has
consumed is by itself a phrase of the category with the tree that is returned, the token behind it
may follow such a phrase, and no phrase that starts at the same token is longer. In front of any
other token that may follow, and behind any other tokens, the rule returns the same tree for as many
tokens. -/
theorem readAt_maximal_phrase
    (read : (ruleFor depth category).readAt tokens start = .ok (e, stop)) :
    (start < stop ∧ stop ≤ tokens.length) ∧
      Derives category (tokens.extract start stop) e ∧
      category.EndsAt tokens[stop]? ∧
      (∀ further e', stop < further → further ≤ tokens.length →
        ¬ Derives category (tokens.extract start further) e') ∧
      ∀ before after, category.EndsAt after.head? →
        (ruleFor depth category).readAt (before ++ (tokens.extract start stop ++ after))
            before.length = .ok (e, before.length + (stop - start)) := by
  have exact := rule_exact depth category
  obtain ⟨front, used, rest, rfl, rfl, rfl, derives, shallow, ends⟩ :=
    exact.readAt_eq_ok_iff.mp read
  have some_used : 0 < used.length := List.length_pos_iff.mpr derives.ne_nil
  have phrase : (front ++ (used ++ rest)).extract front.length (front.length + used.length) =
      used := by
    have := extract_phrase front used rest 0
    rwa [Nat.add_zero, List.take_zero, List.append_nil] at this
  rw [phrase, getElem?_behind_phrase]
  refine ⟨⟨by omega, by simp⟩, derives, Category.endsBefore_iff.mp ends, ?_, ?_⟩
  · intro further e' longer within longer_derives
    obtain ⟨n, rfl⟩ := Nat.exists_eq_add_of_le longer.le
    rw [extract_phrase] at longer_derives
    have none_taken := derives.eq_nil_of_append longer_derives (ends.take n)
    simp only [List.length_append] at within
    have := congrArg List.length none_taken
    simp only [List.length_take, List.length_nil] at this
    omega
  · intro before after follows
    refine exact.readAt_eq_ok_iff.mpr ⟨before, used, after, rfl, rfl, ?_, derives, shallow, ?_⟩
    · omega
    · exact Category.endsBefore_iff.mpr follows

/-- The term `2 * 3 / (4)` inside of `8 - (2 * 3 / (4) + 1)`, then between other tokens. -/
theorem readAt_maximal_phrase_inside :
    let front : List Token := [.number 8, .operator .sub, .leftParen]
    let phrase : List Token := [.number 2, .operator .mul, .number 3, .operator .div, .leftParen,
      .number 4, .rightParen]
    let back : List Token := [.operator .add, .number 1, .rightParen]
    let before : List Token := [.rightParen, .operator .mul]
    let after : List Token := [.number 9]
    let quotient := binary .div (binary .mul (number 2) (number 3) .multiplicative) (number 4)
      .multiplicative
    (ruleFor 5 .term).readAt (front ++ (phrase ++ back)) 3 = .ok (quotient, 10) ∧
      Derives .term phrase quotient ∧
      (ruleFor 5 .term).readAt (before ++ (phrase ++ after)) 2 = .ok (quotient, 9) := by
  intro front phrase back before after quotient
  have read : (ruleFor 5 .term).readAt (front ++ (phrase ++ back)) 3 = .ok (quotient, 10) := by
    decide +kernel
  obtain ⟨-, derives, -, -, elsewhere⟩ := readAt_maximal_phrase read
  exact ⟨read, derives, elsewhere before after ⟨nofun, nofun⟩⟩

end Expr

end InfixCalculator
