import InfixCalculator.Fuzz.CommandLine.Report

/-! # The fuzzer as a program

Prints what a run shows: help on the standard output, usage errors and log records on the standard
error. A campaign that is given no seed takes one from the system. For want of another evaluator the
calculator is compared with itself: the reference uses the same tokens and the same tree, and only
finds the value by recursion on the tree.
-/
namespace InfixCalculator.CommandLine

/-- The calculator's own answer, with the value by recursion instead of the machine's. -/
def ownReference (text : String) : Answer :=
  match readTokens text >>= readExpr with
  | .error error => .message error.message
  | .ok expr =>
    match expr.value with
    | .error error => .message error.message
    | .ok value => .number value

/-- The number whose digits in base 256 are the given bytes. -/
def seedOfBytes (bytes : ByteArray) : Nat :=
  bytes.foldl (fun n byte => 256 * n + byte.toNat) 0

def write (report : Report) : IO UInt32 := do
  IO.print report.stdout
  IO.eprint report.stderr
  for record in report.log do
    IO.eprintln record.line
  return report.exit.toUInt32

end InfixCalculator.CommandLine

def main (arguments : List String) : IO UInt32 := do
  let entropy ← IO.getRandomBytes 16
  let seed := InfixCalculator.CommandLine.seedOfBytes entropy
  InfixCalculator.CommandLine.write
    (InfixCalculator.CommandLine.report InfixCalculator.CommandLine.ownReference seed arguments)
