/-! # Binary operators

The four operators, their symbols and the precedence level each belongs to. Both levels associate to
the left, and every multiplicative operator binds tighter than every additive one.
-/
namespace InfixCalculator

inductive Level
  | additive
  | multiplicative
deriving DecidableEq, Repr

inductive Operator
  | add
  | sub
  | mul
  | div
deriving DecidableEq, Repr

namespace Operator

def level : Operator → Level
  | add | sub => .additive
  | mul | div => .multiplicative

def symbol : Operator → Char
  | add => '+'
  | sub => '-'
  | mul => '*'
  | div => '/'

/-- The name that error messages use. -/
def name : Operator → String
  | add => "ADD"
  | sub => "SUB"
  | mul => "MUL"
  | div => "DIV"

def ofSymbol? : Char → Option Operator
  | '+' => some add
  | '-' => some sub
  | '*' => some mul
  | '/' => some div
  | _ => none

/-- The operation over the integers, division apart. -/
def integer? : Operator → Int → Int → Option Int
  | add, a, b => some (a + b)
  | sub, a, b => some (a - b)
  | mul, a, b => some (a * b)
  | div, _, _ => none

@[simp] theorem ofSymbol?_symbol (op : Operator) : ofSymbol? op.symbol = some op := by
  cases op <;> rfl

theorem symbol_of_ofSymbol? {c : Char} {op : Operator} (h : ofSymbol? c = some op) :
    op.symbol = c := by
  unfold ofSymbol? at h
  split at h <;> cases h <;> rfl

theorem ofSymbol?_eq_some_iff {c : Char} {op : Operator} :
    ofSymbol? c = some op ↔ op.symbol = c :=
  ⟨symbol_of_ofSymbol?, fun h => h ▸ ofSymbol?_symbol op⟩

end Operator

end InfixCalculator
