import InfixCalculator.Token
import InfixCalculator.Text.Caret

/-! # Writing tokens as text

Tokens are written with one space between neighbours, except after an opening and before a closing
parenthesis. The text is made in three steps: join everything with single spaces, take out the
spaces that follow an opening parenthesis, take out those that precede a closing one.
-/
namespace InfixCalculator.Token

def joinSpaced (tokens : List Token) : List Char :=
  [' '].intercalate (tokens.map lexeme)

/-- Takes out each run of spaces that directly follows an opening parenthesis; `opened` says whether
one was just passed. -/
def closeUpOpening (opened : Bool) : List Char → List Char
  | [] => []
  | c :: text =>
    if opened ∧ c = ' ' then closeUpOpening true text
    else c :: closeUpOpening (c = '(') text

/-- Takes out each run of spaces that directly precedes a closing parenthesis. -/
def closeUpClosing (text : List Char) : List Char :=
  text.foldr (fun c rest => if c = ' ' ∧ rest.head? = some ')' then rest else c :: rest) []

def chars (tokens : List Token) : List Char :=
  closeUpClosing (closeUpOpening false (joinSpaced tokens))

/-- What stands between two neighbours. -/
def separator : Token → Token → List Char
  | leftParen, _ | _, rightParen => []
  | _, _ => [' ']

/-- The same text from neighbours alone. -/
def pairwiseChars : List Token → List Char
  | [] => []
  | [t] => t.lexeme
  | t :: u :: tokens => t.lexeme ++ separator t u ++ pairwiseChars (u :: tokens)

/-- The canonical text of a list of tokens. -/
def canonicalText (tokens : List Token) : String :=
  String.ofList (chars tokens)

/-- The index in the canonical text at which the token with the given index starts. Past the last
token this is one blank after the text, and 0 in an empty one. -/
def offset (tokens : List Token) (index : Nat) : Nat :=
  match tokens[index]? with
  | some token => (chars (tokens.take (index + 1))).length - token.lexeme.length
  | none => (chars tokens).length + if tokens.isEmpty then 0 else 1

/-- Shows a fault in a list of tokens by a caret under the token with the given index. -/
def pointAt (summary : String) (tokens : List Token) (index : Nat) : String :=
  Caret.display ("[Parser error] " ++ summary) (chars tokens) (offset tokens index)

end InfixCalculator.Token
