/-! # Log records -/
namespace InfixCalculator

inductive Severity
  | debug
  | info
  | warning
deriving DecidableEq, Repr

def Severity.name : Severity → String
  | debug => "DEBUG"
  | info => "INFO"
  | warning => "WARNING"

structure LogRecord where
  severity : Severity
  logger : String
  message : String
deriving DecidableEq, Repr

/-- The record on one line, without a time. -/
def LogRecord.line (r : LogRecord) : String :=
  r.severity.name ++ " " ++ r.logger ++ ": " ++ r.message

end InfixCalculator
