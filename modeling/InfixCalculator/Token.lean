import InfixCalculator.Operator

/-! # Tokens

A number token carries its value, so leading zeros of the text it was read from are not kept.
-/
namespace InfixCalculator

inductive Token
  | number (value : Nat)
  | operator (op : Operator)
  | leftParen
  | rightParen
deriving DecidableEq, Repr

namespace Token

inductive Kind
  | number
  | operator
  | leftParen
  | rightParen
deriving DecidableEq, Repr

def Kind.name : Kind → String
  | .number => "NUMBER"
  | .operator => "OPERATOR"
  | .leftParen => "LEFT_PAREN"
  | .rightParen => "RIGHT_PAREN"

def kind : Token → Kind
  | number _ => .number
  | operator _ => .operator
  | leftParen => .leftParen
  | rightParen => .rightParen

def operator? : Token → Option Operator
  | operator op => some op
  | _ => none

/-- The canonical spelling: decimal without leading zeros, or the one symbol. -/
def lexeme : Token → List Char
  | number value => Nat.toDigits 10 value
  | operator op => [op.symbol]
  | leftParen => ['(']
  | rightParen => [')']

/-- Kind and spelling together, as in `<NUMBER>12`. -/
def label (t : Token) : String :=
  "<" ++ t.kind.name ++ ">" ++ String.ofList t.lexeme

/-- The token that a single character stands for, numbers apart. -/
def ofSymbol? (c : Char) : Option Token :=
  if c = '(' then some leftParen
  else if c = ')' then some rightParen
  else (Operator.ofSymbol? c).map operator

theorem lexeme_ne_nil (t : Token) : t.lexeme ≠ [] := by
  cases t <;> simp [lexeme]

/-- A character stands for a token exactly when it is the whole spelling of a token other than a
number. -/
theorem ofSymbol?_eq_some_iff {c : Char} {t : Token} :
    ofSymbol? c = some t ↔ t.kind ≠ .number ∧ t.lexeme = [c] := by
  unfold ofSymbol?
  split
  · next h => subst h; cases t with
    | operator op => cases op <;> simp [kind, lexeme, Operator.symbol]
    | _ => simp [kind, lexeme]
  · next hl =>
    split
    · next h => subst h; cases t with
      | operator op => cases op <;> simp [kind, lexeme, Operator.symbol]
      | _ => simp [kind, lexeme]
    · next hr =>
      cases t with
      | operator op => simp [kind, lexeme, Operator.ofSymbol?_eq_some_iff]
      | number v => simp [kind]
      | leftParen => simpa [kind, lexeme] using Ne.symm hl
      | rightParen => simpa [kind, lexeme] using Ne.symm hr

/-- The characters that are tokens by themselves. -/
def symbols : List Char := ['+', '-', '*', '/', '(', ')']

theorem mem_symbols_iff {c : Char} : c ∈ symbols ↔ ∃ t, ofSymbol? c = some t := by
  constructor
  · intro h
    simp only [symbols, List.mem_cons, List.not_mem_nil, or_false] at h
    rcases h with rfl | rfl | rfl | rfl | rfl | rfl <;> exact ⟨_, rfl⟩
  · rintro ⟨t, h⟩
    obtain ⟨kind, spelling⟩ := ofSymbol?_eq_some_iff.mp h
    cases t with
    | number value => exact absurd rfl kind
    | operator op => cases op <;> cases spelling <;> decide
    | leftParen => cases spelling; decide
    | rightParen => cases spelling; decide

theorem not_isDigit_of_ofSymbol? {c : Char} {t : Token} (h : ofSymbol? c = some t) :
    c.isDigit = false := by
  have symbol := mem_symbols_iff.mpr ⟨t, h⟩
  simp only [symbols, List.mem_cons, List.not_mem_nil, or_false] at symbol
  rcases symbol with rfl | rfl | rfl | rfl | rfl | rfl <;> rfl

end Token

/-- A token and the index of its first character in the text. -/
structure PlacedToken where
  token : Token
  position : Nat
deriving DecidableEq, Repr

end InfixCalculator
