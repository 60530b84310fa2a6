import InfixCalculator.Token.Scan

/-! # Where tokens lie in a text

A placement says which characters belong to which token, without reference to the order in which a
scan meets them. Each text has at most one.
-/
namespace InfixCalculator

/-- How many characters of the text a token covers: the run of digits at its place, or one. -/
def PlacedToken.extent (text : List Char) (t : PlacedToken) : Nat :=
  match t.token with
  | .number _ => (Token.digitRun (text.drop t.position)).1.length
  | _ => 1

/-- Whether a token covers the character with the given index. -/
def PlacedToken.Covers (text : List Char) (t : PlacedToken) (i : Nat) : Prop :=
  t.position ≤ i ∧ i < t.position + t.extent text

/-- A token is what the text spells at its place. A number starts where no digit stands before it
and goes as far as there are digits. -/
def PlacedToken.Spelled (text : List Char) (t : PlacedToken) : Prop :=
  match t.token with
  | .number value =>
    let run := (Token.digitRun (text.drop t.position)).1
    run ≠ [] ∧ Nat.ofDigitChars 10 run 0 = value ∧
      ∀ before, t.position = before + 1 → ∀ c, text[before]? = some c → c.isDigit = false
  | token => text[t.position]?.bind Token.ofSymbol? = some token

structure IsPlacement (text : List Char) (tokens : List PlacedToken) : Prop where
  spelled : ∀ t ∈ tokens, t.Spelled text
  /-- In order and without overlaps. -/
  apart : tokens.Pairwise fun t u => t.position + t.extent text ≤ u.position
  /-- Only spaces are left out. -/
  spaces : ∀ i, i < text.length → (∀ t ∈ tokens, ¬ t.Covers text i) → text[i]? = some ' '

end InfixCalculator
