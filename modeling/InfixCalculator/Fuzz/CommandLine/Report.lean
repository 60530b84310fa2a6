import InfixCalculator.Fuzz.Campaign
import InfixCalculator.Fuzz.CommandLine.Request

/-! # What a run of the fuzzer shows

Help on the standard output, usage errors on the standard error with exit code 2, or the records of a
campaign. A campaign that fails ends with exit code 1 and without its last record.
-/
namespace InfixCalculator.CommandLine

def program : String := "fuzz_arithmetic.py"

def usage : String :=
  "usage: " ++ program ++ " [-h] [--iterations ITERATIONS] [--length LENGTH]\n" ++
  "                          [--seed SEED]\n"

def helpText : String :=
  usage ++
  "\nDifferential fuzzing of exprcalc against Python's eval, to be run from project\nroot\n\n" ++
  "options:\n" ++
  "  -h, --help            show this help message and exit\n" ++
  "  --iterations ITERATIONS\n" ++
  "  --length LENGTH\n" ++
  "  --seed SEED\n"

def UsageError.message : UsageError → String
  | ambiguousOption word =>
    "ambiguous option: " ++ word ++ " could match --help, --iterations, --length, --seed"
  | expectedArgument setting => "argument --" ++ setting.name ++ ": expected one argument"
  | invalidInteger setting value =>
    "argument --" ++ setting.name ++ ": invalid int value: " ++
      String.ofList (Quoted.quote isPrintable value.toList)
  | ignoredArgument argument =>
    "argument -h/--help: ignored explicit argument " ++
      String.ofList (Quoted.quote isPrintable argument.toList)
  | unrecognized words => "unrecognized arguments: " ++ " ".intercalate words

/-- What ends a run with exit code 1. -/
inductive Failure
  | noValue (setting : Setting)
  | campaign (failure : Campaign.Failure)
deriving DecidableEq, Repr

/-- All that a run of the fuzzer shows, apart from the traces that are written to the standard error
for a failure and for a record that is lost. -/
structure Report where
  exit : Nat
  stdout : String := ""
  stderr : String := ""
  log : List LogRecord := []
  evaluated : List (String × Except String Number) := []
  failure : Option Failure := none

/-- A campaign with the given settings. -/
def Report.ofCampaign (reference : String → Answer) (seed length iterations : Int) : Report :=
  let outcome := Campaign.run reference seed length iterations
  match outcome.failure with
  | none =>
    { exit := 0
      log := outcome.warnings ++ [Campaign.summaryRecord iterations outcome]
      evaluated := outcome.evaluated }
  | some failure =>
    { exit := 1
      log := outcome.warnings
      evaluated := outcome.evaluated
      failure := some (.campaign failure) }

/-- A campaign that cannot go on for want of a value. -/
def Report.withoutValue (setting : Setting) : Report :=
  { exit := 1, failure := some (.noValue setting) }

/-- A campaign needs a seed and a number of iterations, and a length as soon as it draws a text. -/
def Report.ofSettings (reference : String → Answer) (entropy : Int) (settings : Settings) :
    Report :=
  match settings.seed, settings.iterations, settings.length with
  | none, _, _ => .withoutValue .seed
  | some _, none, _ => .withoutValue .iterations
  | some seed, some iterations, some length =>
    .ofCampaign reference (seed.value entropy) length iterations
  | some seed, some iterations, none =>
    if iterations ≤ 0 then .ofCampaign reference (seed.value entropy) 0 iterations
    else .withoutValue .length

/-- What the fuzzer does with its arguments; `entropy` seeds a campaign that is given no seed. -/
def report (reference : String → Answer) (entropy : Int) (arguments : List String) : Report :=
  match Request.ofArguments arguments with
  | .error error =>
    { exit := 2, stderr := usage ++ program ++ ": error: " ++ error.message ++ "\n" }
  | .ok .help => { exit := 0, stdout := helpText }
  | .ok (.run settings) => .ofSettings reference entropy settings

end InfixCalculator.CommandLine
