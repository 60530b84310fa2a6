import InfixCalculator.Operator

/-! # Expressions

Trees of binary operations over integers. An inner node keeps the precedence level at which it was
read; trees built by hand may carry any level and negative leaves, which evaluation does not look
at.
-/
namespace InfixCalculator

inductive Expr
  | number (value : Int)
  | binary (op : Operator) (left right : Expr) (level : Level)
deriving DecidableEq, Repr

namespace Expr

/-- Leaves are not negative and each node carries the level of its operator, as in every expression
that was read from tokens. -/
inductive WellLevelled : Expr → Prop
  | number (value : Nat) : WellLevelled (.number value)
  | binary (op : Operator) {left right : Expr} (hl : WellLevelled left) (hr : WellLevelled right) :
      WellLevelled (.binary op left right op.level)

/-- The value over the integers; where a division takes part there is none. -/
def integer? : Expr → Option Int
  | number value => some value
  | binary op left right _ =>
    match left.integer?, right.integer? with
    | some a, some b => op.integer? a b
    | _, _ => none

/-- The operators of a tree from left to right. -/
def operators : Expr → List Operator
  | number _ => []
  | binary op left right _ => left.operators ++ op :: right.operators

/-- The leaves of a tree from left to right. -/
def leaves : Expr → List Int
  | number value => [value]
  | binary _ left right _ => left.leaves ++ right.leaves

/-- Puts a tree in place of the leaf with the given number, counted from the left. -/
def replaceLeaf (index : Nat) (new : Expr) : Expr → Expr
  | number value => if index = 0 then new else number value
  | binary op left right level =>
    if index < left.leaves.length then binary op (replaceLeaf index new left) right level
    else binary op left (replaceLeaf (index - left.leaves.length) new right) level

end Expr

end InfixCalculator
