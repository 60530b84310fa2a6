import InfixCalculator.Fuzz.CommandLine.Word
import InfixCalculator.Text.Integer

/-! # Requests to the fuzzer

The three settings take an integer each, either as the next word or behind an equals sign, and the
last occurrence wins. Two dashes behind the equals sign leave a setting without a value. Words are
handled from left to right, and the first bad value or request for help ends it. Words that nothing
took are reported last.
-/
namespace InfixCalculator.CommandLine

/-- Where the random numbers of a campaign start. -/
inductive Seed
  | entropy
  | number (n : Int)
deriving DecidableEq, Repr

def Seed.value (entropy : Int) : Seed → Int
  | .entropy => entropy
  | .number n => n

/-- The settings, each with its value if it has one. -/
structure Settings where
  iterations : Option Int := some 100000
  length : Option Int := some 10
  seed : Option Seed := some .entropy
deriving DecidableEq, Repr

def Settings.set (settings : Settings) (value : Option Int) : Setting → Settings
  | .iterations => { settings with iterations := value }
  | .length => { settings with length := value }
  | .seed => { settings with seed := value.map .number }

inductive UsageError
  | ambiguousOption (word : String)
  | expectedArgument (setting : Setting)
  | invalidInteger (setting : Setting) (value : String)
  /-- Help takes no argument. -/
  | ignoredArgument (argument : String)
  | unrecognized (words : List String)
deriving DecidableEq, Repr

/-- What remains of a text once the letters that ask for help again are gone. -/
def beyondHelp (text : List Char) : Option (List Char) :=
  match text.dropWhile (· = 'h') with
  | [] => none
  | rest => some rest

/-- What is refused behind a short request for help. Further requests are welcome there, also behind
one equals sign, but the equals sign may not end the word. -/
def refusedAfterHelp : List Char → Option (List Char)
  | ['='] => some []
  | '=' :: text => beyondHelp text
  | text => beyondHelp text

/-- What the command line asks for. -/
inductive Request
  | help
  | run (settings : Settings)
deriving DecidableEq, Repr

namespace Request

def setFrom (settings : Settings) (setting : Setting) (value : String) :
    Except UsageError Settings :=
  match Integer.read? value.toList with
  | some n => .ok (settings.set (some n) setting)
  | none => .error (.invalidInteger setting value)

/-- Text behind an equals sign, where two dashes alone take the value away. -/
def setFromAttached (settings : Settings) (setting : Setting) (text : List Char) :
    Except UsageError Settings :=
  if text = ['-', '-'] then .ok (settings.set none setting)
  else setFrom settings setting (String.ofList text)

/-- Help, unless something that is refused was attached to the request. -/
def helpUnless (refused : Option (List Char)) : Except UsageError Request :=
  match refused with
  | none => .ok help
  | some text => .error (.ignoredArgument (String.ofList text))

/-- Handles words from left to right; `leftOver` holds those that nothing took so far, the latest
first. -/
def handle (settings : Settings) (leftOver : List String) :
    List (String × Word) → Except UsageError Request
  | [] => if leftOver = [] then .ok (run settings) else .error (.unrecognized leftOver.reverse)
  | (_, .flag .help attached) :: _ => helpUnless attached
  | (_, .shortHelp attached) :: _ => helpUnless (refusedAfterHelp attached)
  | (_, .flag (.set setting) (some value)) :: words => do
    handle (← setFromAttached settings setting value) leftOver words
  | (_, .flag (.set setting) none) :: (value, .value) :: words => do
    handle (← setFrom settings setting value) leftOver words
  | (_, .flag (.set setting) none) :: _ => .error (.expectedArgument setting)
  | (word, .ambiguous) :: _ => .error (.ambiguousOption word)
  | (word, .value) :: words | (word, .unknown) :: words => handle settings (word :: leftOver) words

/-- An ambiguous name is reported before any word is handled. -/
def ofWords (words : List (String × Word)) : Except UsageError Request :=
  match words.find? (·.2 = .ambiguous) with
  | some (word, _) => .error (.ambiguousOption word)
  | none => handle {} [] words

def ofArguments (arguments : List String) : Except UsageError Request :=
  ofWords (classify arguments)

end Request

end InfixCalculator.CommandLine
