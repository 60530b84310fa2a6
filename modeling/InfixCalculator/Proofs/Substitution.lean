import InfixCalculator.Proofs.Rendering
import InfixCalculator.Proofs.Viability

/-! # Putting a phrase in place of a number

Where an expression has a number, any phrase may stand that its neighbours do not tear apart, and
its tree takes the place of the leaf. A phrase in parentheses fits between all neighbours, so a
number may always be replaced by an expression in parentheses. Conversely a phrase may be replaced
by a number, hence two phrases with one tree, such as an operand with and without parentheses, serve
equally well. Main statements: `Derives.substitute` and `ofTokens_substitution`.
-/
namespace InfixCalculator

namespace Token

def numberCount (tokens : List Token) : Nat :=
  tokens.countP (·.kind = .number)

@[simp] theorem numberCount_nil : numberCount [] = 0 := rfl

@[simp] theorem numberCount_append (front back : List Token) :
    numberCount (front ++ back) = numberCount front + numberCount back :=
  List.countP_append

@[simp] theorem numberCount_cons (t : Token) (tokens : List Token) :
    numberCount (t :: tokens) = numberCount tokens + if t.kind = .number then 1 else 0 := by
  simp [numberCount, List.countP_cons]

/-- The tokens in so many pairs of parentheses. -/
def parenthesize : Nat → List Token → List Token
  | 0, tokens => tokens
  | n + 1, tokens => .leftParen :: parenthesize n tokens ++ [.rightParen]

end Token

/-- Between these neighbours a phrase of the category stays whole: the operator in front of it binds
looser, and the one behind it does not bind tighter. -/
structure Category.FitsBetween (category : Category) (front back : List Token) : Prop where
  left : ∀ op, front.getLast? = some (.operator op) → op.level.strength < category.strength
  right : ∀ op, back.head? = some (.operator op) → op.level.strength ≤ category.strength

theorem Category.factor_fitsBetween (front back : List Token) :
    Category.factor.FitsBetween front back where
  left op _ := by cases op <;> decide
  right op _ := by cases op <;> decide

namespace Category.FitsBetween

variable {category : Category} {front back : List Token}

theorem of_append_front {before : List Token} (h : category.FitsBetween (before ++ front) back) :
    category.FitsBetween front back where
  left op last := h.left op (by rw [List.getLast?_append, last, Option.some_or])
  right := h.right

theorem of_append_back {behind : List Token} (h : category.FitsBetween front (back ++ behind)) :
    category.FitsBetween front back where
  left := h.left
  right op first := h.right op (by rw [List.head?_append, first, Option.some_or])

end Category.FitsBetween

/-- The second of two different elements stands behind the first or in front of it. -/
theorem exists_of_append_cons_eq {α : Type} {x y : α} {left right front back : List α} (ne : x ≠ y)
    (h : left ++ x :: right = front ++ y :: back) :
    (∃ middle, left = front ++ y :: middle ∧ back = middle ++ x :: right) ∨
      ∃ middle, front = left ++ x :: middle ∧ right = middle ++ y :: back := by
  rcases List.append_eq_append_iff.mp h with ⟨middle, rfl, tail⟩ | ⟨middle, rfl, tail⟩
  · cases middle with
    | nil => exact absurd (List.cons.inj tail).1 ne
    | cons z middle =>
      obtain ⟨rfl, rfl⟩ := List.cons.inj tail
      exact .inr ⟨middle, rfl, rfl⟩
  · cases middle with
    | nil => exact absurd (List.cons.inj tail).1.symm ne
    | cons z middle =>
      obtain ⟨rfl, rfl⟩ := List.cons.inj tail
      exact .inl ⟨middle, rfl, rfl⟩

/-- A number among tokens in parentheses is one of those inside. -/
theorem exists_of_parenthesized_eq {tokens front back : List Token} {value : Nat}
    (h : Token.leftParen :: tokens ++ [Token.rightParen] = front ++ Token.number value :: back) :
    ∃ before behind, front = .leftParen :: before ∧ back = behind ++ [.rightParen] ∧
      tokens = before ++ Token.number value :: behind := by
  have opening : [] ++ Token.leftParen :: (tokens ++ [Token.rightParen]) =
    front ++ Token.number value :: back := h
  rcases exists_of_append_cons_eq (by simp) opening with ⟨_, absent, -⟩ | ⟨before, rfl, inner⟩
  · simp at absent
  · rcases exists_of_append_cons_eq (by simp) inner with ⟨behind, rfl, rfl⟩ | ⟨_, -, absent⟩
    · exact ⟨before, behind, rfl, rfl, rfl⟩
    · simp at absent

namespace Derives

open Expr.Prospect

variable {category outer inner : Category} {tokens fill front back : List Token} {e m : Expr}
  {value : Nat}

theorem length_leaves (h : Derives category tokens e) :
    e.leaves.length = Token.numberCount tokens := by
  induction h with
  | number value => rfl
  | parenthesized _ ih => simp [ih, Token.kind]
  | operand _ ih => exact ih
  | extend op _ _ ihl ihr => simp [Expr.leaves, ihl, ihr, Token.kind]

theorem eq_number (h : Derives category [.number value] e) : e = .number value :=
  h.unambiguous ((Derives.number value).loosen category.strength_le_factor)

/-- A phrase that stays whole may stand in place of a number. Where the number is all there is, the
phrase has to be tight enough for the category itself. -/
theorem substitute (filling : Derives inner fill m)
    (h : Derives outer (front ++ Token.number value :: back) e)
    (fits : inner.FitsBetween front back)
    (alone : front = [] → back = [] → outer.strength ≤ inner.strength) :
    Derives outer (front ++ fill ++ back) (Expr.replaceLeaf (Token.numberCount front) m e) := by
  generalize hole : front ++ Token.number value :: back = tokens at h
  induction h generalizing front back with
  | number other =>
    obtain ⟨rfl, only⟩ := List.append_eq_singleton_iff.mp hole |>.resolve_right (by simp)
    obtain rfl := (List.cons.inj only).2
    simpa [Expr.replaceLeaf] using filling.loosen (alone rfl rfl)
  | @parenthesized tokens e derives ih =>
    obtain ⟨before, behind, rfl, rfl, rfl⟩ := exists_of_parenthesized_eq hole.symm
    have inside : inner.FitsBetween ([Token.leftParen] ++ before)
        (behind ++ [Token.rightParen]) := fits
    have within := ih inside.of_append_front.of_append_back (fun _ _ => Nat.zero_le _) rfl
    simpa [Token.kind] using Derives.parenthesized within
  | @operand level tokens e only ih =>
    -- A number alone is an operand of every level, and no neighbour tells of which one.
    by_cases bare : front = [] ∧ back = []
    · obtain ⟨rfl, rfl⟩ := bare
      subst hole
      rw [only.eq_number]
      simpa [Expr.replaceLeaf] using filling.loosen (alone rfl rfl)
    · exact .operand (ih fits (fun no_front no_back => absurd ⟨no_front, no_back⟩ bare) hole)
  | @extend left right l r op chain next ihl ihr =>
    rcases exists_of_append_cons_eq (by simp) hole.symm with
      ⟨behind, rfl, rfl⟩ | ⟨before, rfl, rfl⟩
    · -- The operator may be the first thing behind the number: it is of the level of the chain.
      have inside : Token.numberCount front < l.leaves.length := by
        simp [chain.length_leaves, Token.kind]
      have replaced := ihl fits.of_append_back ?_ rfl
      · simpa [Expr.replaceLeaf, inside] using replaced.extend op next
      · intro _ no_behind
        exact fits.right op (by rw [no_behind]; rfl)
    · have place : Token.numberCount (left ++ .operator op :: before) =
          l.leaves.length + Token.numberCount before := by
        simp [chain.length_leaves, Token.kind]
      rw [List.append_cons] at fits
      have replaced := ihr fits.of_append_front ?_ rfl
      · rw [place]
        simpa [Expr.replaceLeaf] using chain.extend op replaced
      · intro no_before _
        rw [Level.strength_operand]
        exact fits.left op (by simp [no_before])

/-- The number of a leaf is the count of numbers in front of it. -/
theorem getElem?_leaves (h : Derives category (front ++ Token.number value :: back) e) :
    e.leaves[Token.numberCount front]? = some (value : Int) := by
  obtain ⟨before, behind, leaves, length⟩ : ∃ before behind,
      e.leaves = before ++ (value : Int) :: behind ∧ before.length = Token.numberCount front := by
    refine ⟨_, _, h.leaves_eq.trans List.filterMap_append, ?_⟩
    rw [List.length_filterMap_eq_countP]
    refine List.countP_congr fun t _ => ?_
    cases t <;> simp [Token.kind]
  rw [leaves, ← length, List.getElem?_append_right le_rfl, Nat.sub_self]
  rfl

/-- Going through a phrase, the check turns an operand that is due, and can be had, into one that is
done. -/
theorem exists_of_after? {limit : Nat} {p q : Expr.Prospect} (h : Derives category tokens e)
    (reached : p.after? limit tokens = some q) :
    ∃ opened, p = .operandDue opened ∧ q = .operandDone opened ∧ opened ≤ limit := by
  induction h generalizing p q with
  | number value =>
    obtain ⟨next, step, ended⟩ := after?_cons_eq_some_iff.mp reached
    cases ended
    cases next?_eq_some_iff.mp step with
    | @number opened room => exact ⟨opened, rfl, rfl, room⟩
  | parenthesized _ ih =>
    rw [List.cons_append] at reached
    obtain ⟨inside, opening, reached⟩ := after?_cons_eq_some_iff.mp reached
    rw [after?_append_singleton, Option.bind_eq_some_iff] at reached
    obtain ⟨behind, filled, closing⟩ := reached
    obtain ⟨opened, rfl, rfl, -⟩ := ih filled
    cases next?_eq_some_iff.mp opening with
    | @opening outer room =>
      cases next?_eq_some_iff.mp closing with
      | closing => exact ⟨outer, rfl, rfl, room⟩
  | operand _ ih => exact ih reached
  | extend op _ _ ihl ihr =>
    obtain ⟨done, left_reached, reached⟩ := after?_append_eq_some_iff.mp reached
    obtain ⟨due, step, right_reached⟩ := after?_cons_eq_some_iff.mp reached
    obtain ⟨opened, rfl, rfl, room⟩ := ihl left_reached
    obtain ⟨opened', rfl, rfl, -⟩ := ihr right_reached
    cases next?_eq_some_iff.mp step with
    | operator => exact ⟨opened, rfl, rfl, room⟩

/-- Where a phrase stands in an expression, a number may stand. -/
theorem exists_of_number (h : Derives .expression (front ++ fill ++ back) e)
    (filling : Derives category fill m) (value : Nat) :
    ∃ e', Derives .expression (front ++ Token.number value :: back) e' := by
  rw [List.append_assoc] at h
  have reads := Expr.readAll_expression_eq_ok_iff.mpr ⟨h, Token.nestsWithin_length _⟩
  have passes := Expr.exists_readAll_eq_ok_iff.mp ⟨e, reads⟩
  generalize (front ++ (fill ++ back)).length = limit at passes
  obtain ⟨p, reached, rest⟩ := exists_after?_of_check passes
  obtain ⟨q, filled, behind⟩ := exists_after?_of_check rest
  obtain ⟨opened, rfl, rfl, room⟩ := filling.exists_of_after? filled
  have step := next?_eq_some_iff.mpr (.number room value)
  have replaced : (operandDue 0).check limit (front ++ Token.number value :: back) = .ok () := by
    rw [check_append reached, check_cons step]
    exact behind
  obtain ⟨e', reads'⟩ := Expr.exists_readAll_eq_ok_iff.mpr replaced
  exact ⟨e', (Expr.readAll_expression_eq_ok_iff.mp reads').1⟩

/-- Where phrases of the category stay whole, two with the same tree may stand for each other. -/
theorem exchange {other : List Token} (h : Derives .expression (front ++ fill ++ back) e)
    (fits : category.FitsBetween front back) (filling : Derives category fill m)
    (same : Derives category other m) : Derives .expression (front ++ other ++ back) e := by
  obtain ⟨e', h'⟩ := h.exists_of_number filling 0
  have replaced := filling.substitute h' fits (fun _ _ => Nat.zero_le _)
  rw [h.unambiguous replaced]
  exact same.substitute h' fits (fun _ _ => Nat.zero_le _)

theorem parenthesize (h : Derives category tokens e) (n : Nat) :
    Derives category (Token.parenthesize n tokens) e := by
  induction n with
  | zero => exact h
  | succ n ih =>
    have inner : Derives .expression (Token.parenthesize n tokens) e := ih.loosen (Nat.zero_le _)
    exact (Derives.parenthesized inner).loosen category.strength_le_factor

end Derives

namespace Expr

/-- In place of a number, an expression in parentheses is read as its tree in place of the leaf.
Parentheses around an operand that stays whole without them are redundant, however many they are. -/
theorem ofTokens_substitution :
    (∀ front back tokens e m, ∀ value : Nat,
      ofTokens (front ++ Token.number value :: back) = .ok e → ofTokens tokens = .ok m →
      Token.NestsWithin 250 (front ++ (Token.leftParen :: tokens ++ [Token.rightParen]) ++ back) →
        e.leaves[Token.numberCount front]? = some (value : Int) ∧
          ofTokens (front ++ (Token.leftParen :: tokens ++ [Token.rightParen]) ++ back) =
            .ok (replaceLeaf (Token.numberCount front) m e)) ∧
      (∀ n category front operand back e m, Derives category operand m →
        category.FitsBetween front back → ofTokens (front ++ operand ++ back) = .ok e →
        Token.NestsWithin 250 (front ++ Token.parenthesize n operand ++ back) →
          ofTokens (front ++ Token.parenthesize n operand ++ back) = .ok e) := by
  simp only [ofTokens_eq_ok_iff]
  constructor
  · intro front back tokens e m value whole inner shallow
    have filling := Derives.parenthesized inner.1
    have fits := Category.factor_fitsBetween front back
    have replaced := filling.substitute whole.1 fits (fun _ _ => Nat.zero_le _)
    exact ⟨whole.1.getElem?_leaves, replaced, shallow.mono (by decide)⟩
  · intro n category front operand back e m phrase fits whole shallow
    exact ⟨whole.1.exchange fits phrase (phrase.parenthesize n), shallow.mono (by decide)⟩

theorem ofTokens_substitution_difference :
    let front : List Token := [.number 2, .operator .mul, .leftParen, .number 9, .operator .sub]
    let inner : List Token := [.number 3, .operator .sub, .number 5]
    let back : List Token := [.rightParen, .operator .div, .number 4]
    let tree := fun e : Expr =>
      binary .div (binary .mul (number 2) (binary .sub (number 9) e .additive) .multiplicative)
        (number 4) .multiplicative
    ofTokens (front ++ Token.number 7 :: back) = .ok (tree (number 7)) ∧
      ofTokens (front ++ (Token.leftParen :: inner ++ [Token.rightParen]) ++ back) =
        .ok (tree (binary .sub (number 3) (number 5) .additive)) ∧
      ofTokens ([Token.number 1, .operator .sub] ++
          Token.parenthesize 2 [.number 3, .operator .mul, .number 5] ++ []) =
        .ok (binary .sub (number 1) (binary .mul (number 3) (number 5) .multiplicative)
          .additive) := by
  intro front inner back tree
  obtain ⟨substituted, redundant⟩ := ofTokens_substitution
  have whole : ofTokens (front ++ Token.number 7 :: back) = .ok (tree (number 7)) := by decide +kernel
  have difference : ofTokens inner = .ok (binary .sub (number 3) (number 5) .additive) := by
    decide +kernel
  have replaced := substituted front back inner _ _ 7 whole difference (by decide)
  have product : Derives .term [.number 3, .operator .mul, .number 5]
      (binary .mul (number 3) (number 5) .multiplicative) :=
    .extend .mul (.operand (.number 3)) (.number 5)
  have fits : Category.term.FitsBetween [.number 1, .operator .sub] [] := by
    constructor
    · intro op last
      cases last
      decide
    · exact nofun
  exact ⟨whole, replaced.2, redundant 2 _ _ _ _ _ _ product fits (by decide +kernel) (by decide)⟩

end Expr

end InfixCalculator
