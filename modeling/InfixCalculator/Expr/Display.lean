import InfixCalculator.Expr
import InfixCalculator.Token

/-! # Writing expressions with few parentheses

An operand is put in parentheses only where its tree would be read differently without them: to the
left of an operator if it binds looser, to the right if it does not bind tighter.
-/
namespace InfixCalculator

/-- How tight an expression holds together: sums 0, products 1, numbers 2. -/
def Level.strength : Level → Nat
  | additive => 0
  | multiplicative => 1

namespace Expr

def strength : Expr → Nat
  | number _ => 2
  | binary _ _ _ level => level.strength

def parenthesizeIf (needed : Bool) (tokens : List Token) : List Token :=
  if needed then .leftParen :: tokens ++ [.rightParen] else tokens

/-- The shortest tokens that spell an expression; a negative leaf has none and is written as 0. -/
def toTokens : Expr → List Token
  | number value => [.number value.toNat]
  | binary op left right level =>
    parenthesizeIf (left.strength < level.strength) left.toTokens ++
      .operator op :: parenthesizeIf (right.strength ≤ level.strength) right.toTokens

end Expr

end InfixCalculator
