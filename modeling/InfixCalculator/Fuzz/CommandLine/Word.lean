import InfixCalculator.Text.Digit

/-! # Words of a command line

What a word is on its own. A word that begins with a dash is an option if it is a name behind two
dashes, of which any unambiguous beginning will do, or `-h`; a negative number is a value all the
same, and so is a word with a space in it. Behind the word `--` everything is a value.
-/
namespace InfixCalculator.CommandLine

inductive Setting
  | iterations
  | length
  | seed
deriving DecidableEq, Repr

def Setting.name : Setting → String
  | iterations => "iterations"
  | length => "length"
  | seed => "seed"

/-- An option, or the request for help. -/
inductive Flag
  | help
  | set (setting : Setting)
deriving DecidableEq, Repr

namespace Flag

def all : List Flag := [help, set .iterations, set .length, set .seed]

/-- The name behind the two dashes. -/
def name : Flag → List Char
  | help => ['h', 'e', 'l', 'p']
  | set setting => setting.name.toList

/-- The flags whose names begin with the given text. -/
def abbreviatedBy (text : List Char) : List Flag :=
  all.filter (text.isPrefixOf ·.name)

end Flag

/-- What a word is on its own. -/
inductive Word
  /-- May serve as the value of the option before it. -/
  | value
  | flag (flag : Flag) (attached : Option (List Char))
  /-- The short request for help and what is written behind it in the same word. -/
  | shortHelp (attached : List Char)
  | unknown
  | ambiguous
deriving DecidableEq, Repr

namespace Word

/-- Whether a dash and then this is a negative decimal number, with or without a point; one line
feed may follow. -/
def isNegativeNumber (digits : List Char) : Bool :=
  let isDigit c := (digitValue? c).isSome
  let fraction := digits.dropWhile isDigit
  let ends text := text = [] || text = ['\n']
  (digits.head?.any isDigit && ends fraction) ||
    match fraction with
    | '.' :: decimals => decimals.head?.any isDigit && ends (decimals.dropWhile isDigit)
    | _ => false

/-- A word that begins with a dash and is no option. -/
def ofOther (rest : List Char) : Word :=
  if rest = [] || isNegativeNumber rest || ' ' ∈ rest then value else unknown

/-- A name behind two dashes, perhaps with a value behind an equals sign. -/
def ofName (text : List Char) : Word :=
  let name := text.takeWhile (· ≠ '=')
  let attached := (text.dropWhile (· ≠ '=')).tail?
  match Flag.abbreviatedBy name with
  | [] => ofOther ('-' :: text)
  | [found] => flag found attached
  | _ => ambiguous

def ofChars : List Char → Word
  | '-' :: '-' :: text => ofName text
  | '-' :: 'h' :: text => shortHelp text
  | '-' :: text => ofOther text
  | _ => value

def ofString (word : String) : Word := ofChars word.toList

end Word

/-- What the words of a command line are. Behind `--` they are no options, and `--` is no value. -/
def classify : List String → List (String × Word)
  | [] => []
  | word :: words =>
    if word = "--" then (word, .unknown) :: words.map (·, .value)
    else (word, .ofString word) :: classify words

end InfixCalculator.CommandLine
