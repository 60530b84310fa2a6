import InfixCalculator.Expr.Display
import InfixCalculator.Expr.Grammar
import InfixCalculator.Main
import InfixCalculator.Number.Encoding
import InfixCalculator.Text.Unquoted
import InfixCalculator.Token.Nesting
import InfixCalculator.Token.Placement
import InfixCalculator.Proofs.Phrases
import InfixCalculator.Proofs.Viability
import InfixCalculator.Proofs.Rendering
import InfixCalculator.Proofs.NumberKind
import InfixCalculator.Proofs.Concatenation
import InfixCalculator.Proofs.CanonicalText
import InfixCalculator.Proofs.Composition
import InfixCalculator.Proofs.Forgiveness
import InfixCalculator.Proofs.Placement
import InfixCalculator.Proofs.ScanOutcome
import InfixCalculator.Proofs.NestingLimit
import InfixCalculator.Proofs.Campaign
import InfixCalculator.Number.Rounding
import InfixCalculator.Proofs.Evaluation
import InfixCalculator.Proofs.Division
import InfixCalculator.Proofs.Diagnosis
import InfixCalculator.Proofs.Substitution
import InfixCalculator.Proofs.Operations
import InfixCalculator.Proofs.Excerpt
import InfixCalculator.Proofs.TokenOffset
import InfixCalculator.Proofs.Respacing
import InfixCalculator.Proofs.Agreement
import InfixCalculator.Proofs.DebugLog
import InfixCalculator.Proofs.RandomTexts
import InfixCalculator.Proofs.UnarySign
import InfixCalculator.Proofs.Consumption
import InfixCalculator.Proofs.Quoting
import InfixCalculator.Proofs.FuzzerRuns
