import InfixCalculator.Token

/-! # Nesting of parentheses -/
namespace InfixCalculator.Token

/-- How many more opening than closing parentheses there are, none if there are fewer. -/
def unclosed (tokens : List Token) : Nat :=
  tokens.count .leftParen - tokens.count .rightParen

/-- No front part leaves more than `limit` parentheses open. -/
def NestsWithin (limit : Nat) (tokens : List Token) : Prop :=
  ∀ front, front <+: tokens → unclosed front ≤ limit

def isParenthesis : Token → Bool
  | leftParen | rightParen => true
  | _ => false

theorem NestsWithin.mono {small large : Nat} {tokens : List Token} (le : small ≤ large)
    (h : NestsWithin small tokens) : NestsWithin large tokens :=
  fun front hfront => Nat.le_trans (h front hfront) le

theorem NestsWithin.of_append {limit : Nat} {front back : List Token}
    (h : NestsWithin limit (front ++ back)) : NestsWithin limit front :=
  fun _ hpart => h _ (hpart.trans (List.prefix_append front back))

theorem nestsWithin_iff_take {limit : Nat} {tokens : List Token} :
    NestsWithin limit tokens ↔ ∀ n ≤ tokens.length, unclosed (tokens.take n) ≤ limit := by
  constructor
  · intro h n _
    exact h _ (List.take_prefix n tokens)
  · intro h front hfront
    rw [List.prefix_iff_eq_take.mp hfront]
    exact h _ hfront.length_le

theorem nestsWithin_length (tokens : List Token) : NestsWithin tokens.length tokens := by
  intro front hfront
  have opens : front.count .leftParen ≤ front.length := List.count_le_length
  exact Nat.le_trans (Nat.sub_le _ _) (Nat.le_trans opens hfront.length_le)

instance (limit : Nat) (tokens : List Token) : Decidable (NestsWithin limit tokens) :=
  decidable_of_iff _ nestsWithin_iff_take.symm

theorem unclosed_append {front : List Token}
    (balanced : front.count .leftParen = front.count .rightParen) (back : List Token) :
    unclosed (front ++ back) = unclosed back := by
  simp only [unclosed, List.count_append]
  omega

theorem nestsWithin_append {limit : Nat} {front : List Token}
    (balanced : front.count .leftParen = front.count .rightParen) (back : List Token) :
    NestsWithin limit (front ++ back) ↔ NestsWithin limit front ∧ NestsWithin limit back := by
  constructor
  · intro h
    refine ⟨h.of_append, fun part hpart => ?_⟩
    have := h (front ++ part) ((List.prefix_append_right_inj front).mpr hpart)
    rwa [unclosed_append balanced] at this
  · rintro ⟨hfront, hback⟩ part hpart
    rcases Nat.le_total part.length front.length with hle | hle
    · exact hfront part (List.prefix_of_prefix_length_le hpart (List.prefix_append _ _) hle)
    · obtain ⟨tail, rfl⟩ := List.prefix_of_prefix_length_le (List.prefix_append _ _) hpart hle
      rw [unclosed_append balanced]
      exact hback tail ((List.prefix_append_right_inj front).mp hpart)

theorem nestsWithin_of_none {limit : Nat} {tokens : List Token}
    (none_open : tokens.count .leftParen = 0) : NestsWithin limit tokens := by
  intro front hfront
  have := hfront.sublist.count_le .leftParen
  unfold unclosed
  omega

theorem nestsWithin_operator_cons {limit : Nat} {op : Operator} {tokens : List Token} :
    NestsWithin limit (.operator op :: tokens) ↔ NestsWithin limit tokens := by
  have balanced : [operator op].count .leftParen = [operator op].count .rightParen := by simp
  have single : NestsWithin limit [operator op] := nestsWithin_of_none (by simp)
  have := (nestsWithin_append balanced tokens : NestsWithin limit _ ↔ _)
  simpa [single] using this

theorem nestsWithin_parenthesized {limit : Nat} {tokens : List Token} :
    NestsWithin (limit + 1) (.leftParen :: tokens ++ [.rightParen]) ↔ NestsWithin limit tokens := by
  constructor
  · intro h front hfront
    have hpart : .leftParen :: front <+: .leftParen :: tokens ++ [.rightParen] :=
      (List.prefix_cons_inj _).mpr (hfront.trans (List.prefix_append _ _))
    have := h _ hpart
    simp [unclosed] at this ⊢
    omega
  · intro h front hfront
    rcases List.prefix_concat_iff.mp hfront with rfl | hfront
    · have := h tokens List.prefix_rfl
      simp [unclosed] at this ⊢
      omega
    · rcases List.prefix_cons_iff.mp hfront with rfl | ⟨part, rfl, hpart⟩
      · simp [unclosed]
      · have := h part hpart
        simp [unclosed] at this ⊢
        omega

theorem not_nestsWithin_zero {tokens : List Token} : ¬ NestsWithin 0 (.leftParen :: tokens) := by
  intro h
  have := h [.leftParen] ⟨tokens, rfl⟩
  simp [unclosed] at this

/-- The second list is the first with some parentheses left out. -/
inductive DropParentheses : List Token → List Token → Prop
  | nil : DropParentheses [] []
  | keep (t : Token) {tokens kept : List Token} (h : DropParentheses tokens kept) :
      DropParentheses (t :: tokens) (t :: kept)
  | drop {t : Token} (paren : t.isParenthesis) {tokens kept : List Token}
      (h : DropParentheses tokens kept) : DropParentheses (t :: tokens) kept

namespace DropParentheses

variable {tokens kept : List Token}

theorem refl (tokens : List Token) : DropParentheses tokens tokens := by
  induction tokens with
  | nil => exact .nil
  | cons t tokens ih => exact .keep t ih

theorem append {back back' : List Token} (h : DropParentheses tokens kept)
    (h' : DropParentheses back back') : DropParentheses (tokens ++ back) (kept ++ back') := by
  induction h with
  | nil => exact h'
  | keep t _ ih => exact .keep t ih
  | drop paren _ ih => exact .drop paren ih

theorem trans {fewer : List Token} (h : DropParentheses tokens kept)
    (h' : DropParentheses kept fewer) : DropParentheses tokens fewer := by
  induction h generalizing fewer with
  | nil => exact h'
  | keep t _ ih =>
    cases h' with
    | keep _ h' => exact .keep t (ih h')
    | drop paren h' => exact .drop paren (ih h')
  | drop paren _ ih => exact .drop paren (ih h')

theorem wrap (h : DropParentheses tokens kept) :
    DropParentheses (.leftParen :: tokens ++ [.rightParen]) (.leftParen :: kept ++ [.rightParen]) :=
  .keep _ (h.append (refl _))

theorem unwrap (tokens : List Token) :
    DropParentheses (.leftParen :: tokens ++ [.rightParen]) tokens := by
  have closed : DropParentheses (tokens ++ [.rightParen]) (tokens ++ []) :=
    (refl tokens).append (.drop rfl .nil)
  rw [List.append_nil] at closed
  exact .drop rfl closed

theorem sublist (h : DropParentheses tokens kept) : kept.Sublist tokens := by
  induction h with
  | nil => exact .slnil
  | keep t _ ih => exact ih.cons_cons t
  | drop _ _ ih => exact ih.cons _

theorem filter_eq (h : DropParentheses tokens kept) :
    kept.filter (fun t => !t.isParenthesis) = tokens.filter (fun t => !t.isParenthesis) := by
  induction h with
  | nil => rfl
  | keep t _ ih => simp [List.filter_cons, ih]
  | drop paren _ ih => simp [paren, ih]

end DropParentheses

end InfixCalculator.Token
