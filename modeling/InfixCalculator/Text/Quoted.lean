/-! # Quoted text

A text is quoted between apostrophes, or between double quotes when it holds an apostrophe and no
double quote. The delimiter and the backslash are written after a backslash, tab, line feed and
carriage return as letters after one, and any other character that is not printable as its code
point in hexadecimal. Which characters count as printable is a parameter.
-/
namespace InfixCalculator.Quoted

def apostrophe : Char := '\x27'
def doubleQuote : Char := '\x22'
def backslash : Char := '\x5c'

def delimiter (text : List Char) : Char :=
  if apostrophe ∈ text ∧ doubleQuote ∉ text then doubleQuote else apostrophe

/-- The last `width` hexadecimal digits of a number, in lower case. -/
def hexDigits : Nat → Nat → List Char
  | 0, _ => []
  | width + 1, n => hexDigits width (n / 16) ++ [Nat.digitChar (n % 16)]

def codeEscape (c : Char) : List Char :=
  if c.toNat < 0x100 then 'x' :: hexDigits 2 c.toNat
  else if c.toNat < 0x10000 then 'u' :: hexDigits 4 c.toNat
  else 'U' :: hexDigits 8 c.toNat

def escape (printable : Char → Bool) (delimiter c : Char) : List Char :=
  if c = delimiter ∨ c = backslash then [backslash, c]
  else if c = '\t' then [backslash, 't']
  else if c = '\n' then [backslash, 'n']
  else if c = '\r' then [backslash, 'r']
  else if printable c then [c]
  else backslash :: codeEscape c

def quote (printable : Char → Bool) (text : List Char) : List Char :=
  delimiter text :: text.flatMap (escape printable (delimiter text)) ++ [delimiter text]

end InfixCalculator.Quoted
