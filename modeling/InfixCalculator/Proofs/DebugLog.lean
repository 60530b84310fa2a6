import InfixCalculator.Proofs.CanonicalText

/-! # The debug log

Each stage may fail, and what is on record by then depends on how far the evaluation came. Main
statement: `evaluateLogged_records`. Debugging does not change the outcome, and the log holds the
tokens, if there are any, and then the failure, if there is one.
-/
namespace InfixCalculator

namespace Calculator

variable {debug : Bool} {text : String} {tokens : List Token} {error : CalculationError}

/-- What is put on record once the first stage is done. -/
def tokensRecords (text : String) : List LogRecord :=
  match readTokens text with
  | .ok tokens => [tokensRecord tokens]
  | .error _ => []

/-- What is put on record when all is done. -/
def failureRecords (text : String) : List LogRecord :=
  match evaluateText text with
  | .ok _ => []
  | .error error => [failureRecord text error]

theorem run_note (debug : Bool) (record : LogRecord) (log : List LogRecord) :
    (note debug record).run log = ((), log ++ if debug then [record] else []) := by
  cases debug with
  | false =>
    rw [if_neg Bool.false_ne_true, List.append_nil]
    rfl
  | true => rfl

theorem run_ofExcept {α : Type} (result : Except CalculationError α) (log : List LogRecord) :
    (ofExcept result : ExceptT CalculationError (StateM (List LogRecord)) α).run.run log =
      (result, log) := by
  cases result <;> rfl

/-- Only the tokens are put on record by the stages, whether a later stage fails or not. -/
theorem run_stages (debug : Bool) (text : String) (log : List LogRecord) :
    (stages debug text).run.run log =
      (evaluateText text, log ++ if debug then tokensRecords text else []) := by
  cases scanned : readTokens text with
  | error error =>
    rw [stages, evaluateText, tokensRecords, scanned, ite_self, List.append_nil]
    rfl
  | ok tokens =>
    have staged : (stages debug text).run.run log =
        (evaluateTokens tokens, ((note debug (tokensRecord tokens)).run log).2) := by
      rw [stages, scanned]
      exact run_ofExcept (evaluateTokens tokens) _
    rw [staged, run_note, evaluateText_of_readTokens scanned, tokensRecords, scanned]

/-- What is put on record: first the tokens and then the failure, and nothing without debugging. -/
theorem evaluateLogged_eq (debug : Bool) (text : String) :
    evaluateLogged debug text =
      (evaluateText text, if debug then tokensRecords text ++ failureRecords text else []) := by
  have staged := run_stages debug text []
  rw [List.nil_append] at staged
  rw [evaluateLogged, outcome, StateT.run_bind, staged, failureRecords]
  cases evaluateText text with
  | ok value =>
    rw [List.append_nil]
    rfl
  | error error => cases debug <;> rfl

/-- A text without tokens leaves its failure alone, any other one record more. -/
theorem length_records (text : String) :
    (tokensRecords text ++ failureRecords text).length =
      match evaluateText text with
      | .ok _ | .error (.lexical _) => 1
      | .error (.syntactic _) | .error (.arithmetic _) => 2 := by
  cases scanned : scanText text with
  | error error =>
    have read : readTokens text = .error (.lexical error) := by rw [readTokens, scanned]
    rw [tokensRecords, failureRecords, read, evaluateText_of_scanText_error scanned]
    rfl
  | ok placed =>
    have read : readTokens text = .ok (placed.map (·.token)) := by rw [readTokens, scanned]
    cases parsed : Expr.ofTokens (placed.map (·.token)) with
    | error error =>
      rw [tokensRecords, failureRecords, read, evaluateText_of_ofTokens_error read parsed]
      rfl
    | ok expr =>
      have valued := evaluateText_eq read (readExpr_eq_ok_iff.mpr parsed)
      rw [tokensRecords, failureRecords, read, valued]
      cases expr.evaluate <;> rfl

end Calculator

open Calculator

/-- Debugging leaves the outcome as it is, and without it nothing is put on record. With it the log
starts with the number of tokens and their canonical text, from which they are read back, unless the
text has no tokens; then comes the failure, if there is one, with the quoted text and the message of
the error that is returned. So there are two records if the text has tokens and fails all the same,
and one otherwise. -/
theorem evaluateLogged_records (text : String) :
    (∀ debug, (evaluateLogged debug text).1 = evaluateText text) ∧
      (evaluateLogged false text).2 = [] ∧
      ∃ first second : List LogRecord,
        (evaluateLogged true text).2 = first ++ second ∧
        (match readTokens text with
          | .error _ => first = []
          | .ok tokens => ∃ canonical, readTokens canonical = .ok tokens ∧
              first = [⟨.debug, "exprcalc.calculator",
                toString tokens.length ++ " tokens: " ++ canonical⟩]) ∧
        (match evaluateText text with
          | .ok _ => second = []
          | .error error => second = [⟨.debug, "exprcalc.calculator",
              "evaluation of " ++ String.ofList (Quoted.quote isPrintable text.toList) ++
                " failed: " ++ error.message⟩]) ∧
        (first ++ second).length =
          match evaluateText text with
          | .ok _ | .error (.lexical _) => 1
          | .error (.syntactic _) | .error (.arithmetic _) => 2 := by
  refine ⟨fun debug => ?_, ?_, tokensRecords text, failureRecords text, ?_, ?_, ?_, ?_⟩
  · rw [evaluateLogged_eq]
  · rw [evaluateLogged_eq]
    rfl
  · rw [evaluateLogged_eq]
    rfl
  · rw [tokensRecords]
    cases scanned : readTokens text with
    | error error => rfl
    | ok tokens =>
      have fit := Token.numbersFit_of_spells (readTokens_eq_ok_iff.mp scanned)
      exact ⟨_, Token.readTokens_canonicalText fit, rfl⟩
  · rw [failureRecords]
    cases evaluateText text <;> rfl
  · exact length_records text

end InfixCalculator
