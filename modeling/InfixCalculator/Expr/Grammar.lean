import InfixCalculator.Expr
import InfixCalculator.Token

/-! # The grammar of expressions

    expression := term (("+" | "-") term)*
    term       := factor (("*" | "/") factor)*
    factor     := number | "(" expression ")"

`Derives` relates tokens to the tree they spell. A chain is one operand, or a chain, an operator of
its level and one more operand, so chains associate to the left; parentheses leave no trace in the
tree. Nothing limits how deep they nest.
-/
namespace InfixCalculator

inductive Category
  | chain (level : Level)
  | factor
deriving DecidableEq, Repr

namespace Category

abbrev expression : Category := chain .additive
abbrev term : Category := chain .multiplicative

end Category

/-- What the operators of a level join. -/
def Level.operand : Level → Category
  | additive => .term
  | multiplicative => .factor

inductive Derives : Category → List Token → Expr → Prop
  | number (value : Nat) : Derives .factor [.number value] (.number value)
  | parenthesized {tokens : List Token} {e : Expr} (inner : Derives .expression tokens e) :
      Derives .factor (.leftParen :: tokens ++ [.rightParen]) e
  | operand {level : Level} {tokens : List Token} {e : Expr}
      (only : Derives level.operand tokens e) : Derives (.chain level) tokens e
  | extend {left right : List Token} {l r : Expr} (op : Operator)
      (chain : Derives (.chain op.level) left l) (next : Derives op.level.operand right r) :
      Derives (.chain op.level) (left ++ .operator op :: right) (.binary op l r op.level)

namespace Derives

variable {category : Category} {tokens : List Token} {e : Expr}

theorem ne_nil (h : Derives category tokens e) : tokens ≠ [] := by
  induction h <;> simp_all

theorem wellLevelled (h : Derives category tokens e) : e.WellLevelled := by
  induction h with
  | number value => exact .number value
  | parenthesized _ ih => exact ih
  | operand _ ih => exact ih
  | extend op _ _ ihl ihr => exact .binary op ihl ihr

/-- No operator is lost, doubled or moved. -/
theorem operators_eq (h : Derives category tokens e) :
    e.operators = tokens.filterMap Token.operator? := by
  induction h with
  | number value => rfl
  | parenthesized _ ih => simp [ih, List.filterMap_cons, Token.operator?]
  | operand _ ih => exact ih
  | extend op _ _ ihl ihr => simp [Expr.operators, ihl, ihr, Token.operator?]

/-- Nor is an operand. -/
theorem leaves_eq (h : Derives category tokens e) :
    e.leaves = tokens.filterMap fun | .number value => some (value : Int) | _ => none := by
  induction h with
  | number value => rfl
  | parenthesized _ ih => simp [ih]
  | operand _ ih => exact ih
  | extend op _ _ ihl ihr => simp [Expr.leaves, ihl, ihr]

end Derives

end InfixCalculator
