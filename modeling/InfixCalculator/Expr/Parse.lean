import InfixCalculator.Expr
import InfixCalculator.Token.Display

/-! # Reading expressions from tokens

Three rules, each of which takes a phrase off the front of the remaining tokens:

* an expression is a chain of terms joined by additive operators,
* a term is a chain of factors joined by multiplicative operators,
* a factor is a number or an expression in parentheses.

Chains are folded to the left. The rules never look past the first token after their phrase and
never go back. Only parentheses nest, and behind one that opens a level too many no operand can be
read: whatever stands there ends the reading, and only the end of the input is still reported as
such.
-/
namespace InfixCalculator

inductive SyntacticCause
  /-- An operand is missing; `none` stands for the end of the input. -/
  | expectedOperand (found : Option Token.Kind)
  | unclosedParenthesis
  | trailingInput
  | nestedTooDeeply
deriving DecidableEq, Repr

/-- Why tokens are no expression, and the index of the token to blame. -/
structure SyntaxError where
  cause : SyntacticCause
  tokens : List Token
  index : Nat
deriving DecidableEq, Repr

namespace Expr

/-- Where and why a rule gave up: the tokens from the one to blame on, or the nesting limit. -/
inductive Failure
  | unexpected (cause : SyntacticCause) (rest : List Token)
  | tooDeep
deriving DecidableEq, Repr

def Failure.toError (tokens : List Token) : Failure → SyntaxError
  | unexpected cause rest => ⟨cause, tokens, tokens.length - rest.length⟩
  | tooDeep => ⟨.nestedTooDeeply, tokens, 0⟩

/-- An expression and the tokens left behind it. -/
abbrev Reading := Except Failure (Expr × List Token)

/-- Takes an expression off the front, and with it at least one token. -/
structure Rule where
  read : List Token → Reading
  shorter : ∀ {tokens e rest}, read tokens = .ok (e, rest) → rest.length < tokens.length

/-- Continues a chain to the right as long as operators of its level follow. -/
def extendChain (level : Level) (operand : Rule) (left : Expr) (tokens : List Token) : Reading :=
  match tokens with
  | .operator op :: rest =>
    if op.level = level then
      match _h : operand.read rest with
      | .error failure => .error failure
      | .ok (right, rest) => extendChain level operand (.binary op left right level) rest
    else .ok (left, tokens)
  | _ => .ok (left, tokens)
termination_by tokens.length
decreasing_by
  have := operand.shorter ‹_›
  simp only [List.length_cons]
  omega

theorem length_extendChain {level : Level} {operand : Rule} {left e : Expr}
    {tokens rest : List Token} (h : extendChain level operand left tokens = .ok (e, rest)) :
    rest.length ≤ tokens.length := by
  fun_induction extendChain level operand left tokens with
  | case1 => cases h
  | case2 left op _ _ right rest' hread ih =>
    have := ih h
    have := operand.shorter hread
    simp only [List.length_cons]
    omega
  | case3 => cases h; simp
  | case4 => cases h; simp

/-- Operands joined by the operators of one level. -/
def chained (level : Level) (operand : Rule) : Rule where
  read tokens :=
    match operand.read tokens with
    | .error failure => .error failure
    | .ok (first, rest) => extendChain level operand first rest
  shorter {tokens} _ _ h := by
    split at h
    · cases h
    · next hread => exact Nat.lt_of_le_of_lt (length_extendChain h) (operand.shorter hread)

/-- Reads nothing any more; that nothing is left can still be told. -/
def exhausted : Rule where
  read
    | [] => .error (.unexpected (.expectedOperand none) [])
    | _ :: _ => .error .tooDeep
  shorter {tokens} _ _ h := by
    split at h <;> cases h

/-- A number, or what `inside` reads between parentheses. -/
def operandOf (inside : Rule) : Rule where
  read
    | [] => .error (.unexpected (.expectedOperand none) [])
    | .number value :: rest => .ok (.number value, rest)
    | .leftParen :: rest =>
      match inside.read rest with
      | .error failure => .error failure
      | .ok (e, .rightParen :: rest) => .ok (e, rest)
      | .ok (_, rest) => .error (.unexpected .unclosedParenthesis rest)
    | token :: rest => .error (.unexpected (.expectedOperand (some token.kind)) (token :: rest))
  shorter {tokens} _ _ h := by
    split at h
    · cases h
    · cases h; simp
    · split at h
      · cases h
      · next hread =>
        have := inside.shorter hread
        cases h
        simp only [List.length_cons] at *
        omega
      · cases h
    · cases h

/-- A factor with no more than `depth` parentheses open around any of its operands. -/
def factor : (depth : Nat) → Rule
  | 0 => operandOf exhausted
  | depth + 1 => operandOf (chained .additive (chained .multiplicative (factor depth)))

def term (depth : Nat) : Rule := chained .multiplicative (factor depth)

def expression (depth : Nat) : Rule := chained .additive (term depth)

/-- Reads from the token with index `start` on and gives the index of the first token left. -/
def Rule.readAt (rule : Rule) (tokens : List Token) (start : Nat) : Except Failure (Expr × Nat) :=
  (rule.read (tokens.drop start)).map fun (e, rest) => (e, tokens.length - rest.length)

theorem Rule.readAt_eq_ok_iff_read {rule : Rule} {tokens : List Token} {start stop : Nat}
    {e : Expr} :
    rule.readAt tokens start = .ok (e, stop) ↔
      ∃ rest, rule.read (tokens.drop start) = .ok (e, rest) ∧
        stop = tokens.length - rest.length := by
  unfold Rule.readAt
  cases rule.read (tokens.drop start) with
  | error failure => simp [Except.map]
  | ok reading =>
    constructor
    · intro h
      cases h
      exact ⟨reading.2, rfl, rfl⟩
    · rintro ⟨rest, ⟨⟩, rfl⟩
      rfl

/-- Reads all of `tokens` by one rule. -/
def readAll (rule : Rule) (tokens : List Token) : Except SyntaxError Expr :=
  match rule.readAt tokens 0 with
  | .ok (e, stop) =>
    if stop < tokens.length then .error ⟨.trailingInput, tokens, stop⟩ else .ok e
  | .error failure => .error (failure.toError tokens)

/-- All tokens are read when the rule leaves none behind the phrase that it finds at the front. -/
theorem readAll_eq_ok_iff_readAt {rule : Rule} {tokens : List Token} {e : Expr} :
    readAll rule tokens = .ok e ↔ rule.readAt tokens 0 = .ok (e, tokens.length) := by
  unfold readAll
  cases hread : rule.readAt tokens 0 with
  | error failure => simp
  | ok reading =>
    obtain ⟨found, stop⟩ := reading
    have within : stop ≤ tokens.length := by
      obtain ⟨rest, -, rfl⟩ := Rule.readAt_eq_ok_iff_read.mp hread
      exact Nat.sub_le _ _
    by_cases left : stop < tokens.length
    · simp [left, Nat.ne_of_lt left]
    · simp [Nat.le_antisymm within (Nat.le_of_not_lt left)]

/-- How many calls may be under way at once. -/
def callLimit : Nat := 1000

/-- How many parentheses may be open around an operand. Two calls are under way when the first rule
is called. Every expression, the outermost and each one in parentheses, takes three calls: its own,
that of a term and that of a factor. Inside of the innermost, five more serve to read an operand, to
look at what follows it or to name a token that is none. In one parenthesis more, only two calls are
left: enough to report the end of the input, and nothing else. Every call that is under way before
those counted here lowers the limit accordingly; so does, for naming a token, the one call more that
this takes the first few times, which is not counted. -/
def nestingLimit : Nat := (callLimit - 2 - 5) / 3 - 1

/-- An expression in which no more parentheses than the limit allows are open at once. -/
def limitedExpression : Rule := expression nestingLimit

def ofTokens (tokens : List Token) : Except SyntaxError Expr :=
  readAll limitedExpression tokens

end Expr

def SyntacticCause.summary : SyntacticCause → String
  | expectedOperand none => "Expected number or parenthesis, found end of input"
  | expectedOperand (some kind) => "Expected number or parenthesis, found " ++ kind.name
  | unclosedParenthesis => "Unclosed parenthesis"
  | trailingInput => "Trailing input"
  | nestedTooDeeply => "Parentheses nested too deeply"

/-- The error as it is shown to a user, with a caret under the token to blame. -/
def SyntaxError.message (e : SyntaxError) : String :=
  Token.pointAt e.cause.summary e.tokens e.index

end InfixCalculator
