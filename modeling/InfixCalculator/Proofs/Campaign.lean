import InfixCalculator.Fuzz.CommandLine.Report
import InfixCalculator.Proofs.Forgiveness
import InfixCalculator.Proofs.RandomTexts

/-! # What a campaign evaluates

A campaign evaluates the texts that are drawn one after the other from its seed, without those that
double an operator, and in the order in which they are drawn. Whether a text is passed over has no
influence on the texts behind it, so a campaign of more iterations only goes on where a shorter one
ends. Two answers that cannot be compared end it behind their text. Main statements: `run_eq` and
`Report.ofCampaign_of_comparable`.
-/
namespace InfixCalculator

namespace Comparison

/-- Two stars or two slashes with nothing but blanks between them. -/
def DoublesOperator (text : List Char) : Prop :=
  ∃ c front gap back, (c = '*' ∨ c = '/') ∧ text = front ++ c :: (gap ++ c :: back) ∧
    ∀ d ∈ gap, isBlank d

theorem hasPair_eq_iff {c : Char} {text : List Char} :
    hasPair (· = c) (· = c) text ↔
      ∃ front gap back, text = front ++ c :: (gap ++ c :: back) ∧ ∀ d ∈ gap, isBlank d := by
  rw [hasPair_eq_true_iff]
  constructor
  · rintro ⟨front, d, behind, rfl, hd, hbehind⟩
    obtain ⟨gap, e, back, rfl, blanks, he⟩ := startsWith_eq_true_iff.mp hbehind
    obtain rfl := of_decide_eq_true hd
    obtain rfl := of_decide_eq_true he
    exact ⟨front, gap, back, rfl, blanks⟩
  · rintro ⟨front, gap, back, rfl, blanks⟩
    refine ⟨front, c, _, rfl, by simp, startsWith_eq_true_iff.mpr ?_⟩
    exact ⟨gap, c, back, rfl, blanks, by simp⟩

theorem hasDoubledOperator_iff {text : List Char} :
    hasDoubledOperator text ↔ DoublesOperator text := by
  rw [hasDoubledOperator, Bool.or_eq_true, hasPair_eq_iff, hasPair_eq_iff]
  constructor
  · rintro (stars | slashes)
    · obtain ⟨front, gap, back, split, blanks⟩ := stars
      exact ⟨'*', front, gap, back, .inl rfl, split, blanks⟩
    · obtain ⟨front, gap, back, split, blanks⟩ := slashes
      exact ⟨'/', front, gap, back, .inr rfl, split, blanks⟩
  · rintro ⟨c, front, gap, back, rfl | rfl, split, blanks⟩
    · exact .inl ⟨front, gap, back, split, blanks⟩
    · exact .inr ⟨front, gap, back, split, blanks⟩

instance (text : List Char) : Decidable (DoublesOperator text) :=
  decidable_of_iff _ hasDoubledOperator_iff

end Comparison

namespace Sample

end Sample

namespace Campaign

open Comparison (DoublesOperator)

variable {reference : String → Answer} {seed length iterations : Int} {texts : List String}

/-- The texts of a campaign in the order in which they are drawn, each with as many characters as
`length` says. -/
def drawn (seed length iterations : Int) : Except Sample.LengthError (List String) :=
  Sample.randomTexts (List.replicate iterations.toNat length) (.ofSeed seed)

/-- The texts that are not passed over. -/
def kept (texts : List String) : List String :=
  texts.filter fun text => ¬ DoublesOperator text.toList

def withAnswers (texts : List String) : List (String × Except String Number) :=
  texts.map fun text => (text, answer text)

/-- The texts up to the first whose answers cannot be compared, with this one. -/
def compared (reference : String → Answer) : List String → List String
  | [] => []
  | text :: texts =>
    match verdict reference text with
    | .ok _ => text :: compared reference texts
    | .error _ => [text]

def Comparable (reference : String → Answer) (text : String) : Prop :=
  ∃ differs, verdict reference text = .ok differs

def mismatches (reference : String → Answer) (texts : List String) : List String :=
  texts.filter fun text => verdict reference text = .ok true

def comparisonFailure? (reference : String → Answer) (text : String) : Option Failure :=
  match verdict reference text with
  | .ok _ => none
  | .error error => some (.comparison error)

/-- The failure of the first comparison that fails. -/
def firstFailure (reference : String → Answer) (texts : List String) : Option Failure :=
  texts.findSome? (comparisonFailure? reference)

/-- What evaluating the texts comes to. -/
def Outcome.ofTexts (reference : String → Answer) (texts : List String) : Outcome where
  evaluated := withAnswers texts
  warnings := (mismatches reference texts).filterMap (mismatchRecord? reference)
  disagreements := (mismatches reference texts).length
  failure := firstFailure reference texts

theorem Outcome.reverse_reverse (outcome : Outcome) : outcome.reverse.reverse = outcome := by
  simp [reverse]

theorem firstFailure_append (unfailed : firstFailure reference texts = none) (text : String) :
    firstFailure reference (texts ++ [text]) = comparisonFailure? reference text := by
  rw [firstFailure] at unfailed ⊢
  rw [List.findSome?_append, unfailed, Option.none_or, List.findSome?_singleton]

/-- One more text is put in front of those before it, until all are put in order at the end. -/
theorem Outcome.record_ofTexts (unfailed : firstFailure reference texts = none) (text : String) :
    (ofTexts reference texts).reverse.record reference text =
      (ofTexts reference (texts ++ [text])).reverse := by
  have failure := firstFailure_append unfailed text
  simp only [ofTexts, reverse, record, failure, unfailed, comparisonFailure?, mismatches,
    withAnswers, List.filter_append, List.filterMap_append, List.map_append]
  cases differs : verdict reference text with
  | error error => simp [differs]
  | ok differ =>
    cases differ with
    | false => simp [differs]
    | true => cases shown : mismatchRecord? reference text <;> simp [differs, shown]

theorem failure_ofTexts (texts : List String) :
    (Outcome.ofTexts reference texts).reverse.failure = firstFailure reference texts := rfl

theorem pass_of_doubled {text : String} (doubled : DoublesOperator text.toList)
    (outcome : Outcome) : outcome.pass reference text = outcome :=
  if_pos (Comparison.hasDoubledOperator_iff.mpr doubled)

theorem pass_of_not_doubled {text : String} (simple : ¬ DoublesOperator text.toList)
    (outcome : Outcome) : outcome.pass reference text = outcome.record reference text :=
  if_neg fun doubled => simple (Comparison.hasDoubledOperator_iff.mp doubled)

/-- From where the texts `before` have been evaluated, a run evaluates those that it draws and
keeps, up to the first that cannot be compared. -/
theorem runFrom_eq (inRange : Sample.InRange length) (iterations : Nat) (twister : Twister)
    {before : List String} (unfailed : firstFailure reference before = none) :
    runFrom reference length (Outcome.ofTexts reference before).reverse iterations twister =
      .ofTexts reference (before ++ compared reference (kept
        (Sample.pieces Twister.nextFraction (List.replicate iterations length) twister))) := by
  induction iterations generalizing before twister with
  | zero =>
    rw [runFrom, Outcome.reverse_reverse]
    simp [Sample.pieces, kept, compared]
  | succ iterations ih =>
    rw [runFrom, Sample.randomText_eq inRange, List.replicate_succ, Sample.pieces]
    generalize String.ofList _ = text
    dsimp only
    by_cases doubled : DoublesOperator text.toList
    · -- The text is passed over.
      have kept_eq : ∀ texts, kept (text :: texts) = kept texts := fun texts => by
        simp [kept, doubled]
      rw [pass_of_doubled doubled, failure_ofTexts, unfailed, kept_eq]
      exact ih _ unfailed
    · have kept_eq : ∀ texts, kept (text :: texts) = text :: kept texts := fun texts => by
        simp [kept, doubled]
      have failure := firstFailure_append unfailed text
      rw [pass_of_not_doubled doubled, Outcome.record_ofTexts unfailed, failure_ofTexts,
        kept_eq, compared, failure, comparisonFailure?]
      cases differs : verdict reference text with
      | error error => simp [Outcome.reverse_reverse]
      | ok differ =>
        have unfailed' : firstFailure reference (before ++ [text]) = none := by
          rw [failure, comparisonFailure?, differs]
        simpa using ih _ unfailed'

/-- Texts can be drawn if their length is in range or none is drawn. -/
theorem drawn_eq (inRange : Sample.InRange length ∨ iterations ≤ 0) :
    drawn seed length iterations =
      .ok (Sample.pieces Twister.nextFraction (List.replicate iterations.toNat length)
        (.ofSeed seed)) := by
  rcases inRange with inRange | none_drawn
  · refine Sample.randomTexts_eq ?_ _
    intro asked mem
    rwa [List.eq_of_mem_replicate mem]
  · rw [drawn, Int.toNat_of_nonpos none_drawn]
    rfl

theorem drawn_of_outside (outside : ¬ Sample.InRange length) (positive : 0 < iterations) :
    drawn seed length iterations = .error .outOfRange := by
  have some_asked : iterations.toNat ≠ 0 := by omega
  exact Sample.randomTexts_eq_error (List.mem_replicate.mpr ⟨some_asked, rfl⟩) outside _

theorem run_of_outside (outside : ¬ Sample.InRange length) (positive : 0 < iterations) :
    run reference seed length iterations = { failure := some (.length .outOfRange) } := by
  obtain ⟨n, hn⟩ : ∃ n, iterations.toNat = n + 1 := ⟨iterations.toNat - 1, by omega⟩
  rw [run, hn, runFrom, Sample.randomText, if_neg outside]
  rfl

/-- A campaign evaluates the texts that it draws and keeps, up to the first that cannot be
compared. -/
theorem run_eq (h : drawn seed length iterations = .ok texts) :
    run reference seed length iterations =
      .ofTexts reference (compared reference (kept texts)) := by
  by_cases inRange : Sample.InRange length
  · rw [drawn_eq (.inl inRange)] at h
    cases h
    have start : firstFailure reference [] = none := rfl
    exact runFrom_eq inRange iterations.toNat (.ofSeed seed) start
  · by_cases positive : 0 < iterations
    · cases (drawn_of_outside inRange positive).symm.trans h
    · have none_drawn : iterations ≤ 0 := Int.not_lt.mp positive
      rw [drawn_eq (.inr none_drawn)] at h
      cases h
      rw [run, Int.toNat_of_nonpos none_drawn]
      rfl

theorem compared_of_comparable (comparable : ∀ text ∈ texts, Comparable reference text) :
    compared reference texts = texts := by
  induction texts with
  | nil => rfl
  | cons text texts ih =>
    obtain ⟨⟨differs, compares⟩, others⟩ := List.forall_mem_cons.mp comparable
    rw [compared, compares, ih others]

theorem firstFailure_of_comparable (comparable : ∀ text ∈ texts, Comparable reference text) :
    firstFailure reference texts = none := by
  rw [firstFailure, List.findSome?_eq_none_iff]
  intro text mem
  obtain ⟨differs, compares⟩ := comparable text mem
  rw [comparisonFailure?, compares]

theorem mismatches_eq_nil (agree : ∀ text ∈ texts, verdict reference text = .ok false) :
    mismatches reference texts = [] := by
  rw [mismatches, List.filter_eq_nil_iff]
  intro text mem
  simp [agree text mem]

end Campaign

namespace CommandLine.Report

open Campaign

variable {reference : String → Answer} {seed length iterations : Int} {texts : List String}

/-- A campaign without a failure evaluates all texts that it keeps, puts those on record whose
answers differ, and at the end the number of iterations as it was asked for. -/
theorem ofCampaign_of_comparable (h : drawn seed length iterations = .ok texts)
    (comparable : ∀ text ∈ kept texts, Comparable reference text) :
    let differing := mismatches reference (kept texts)
    ofCampaign reference seed length iterations =
      { exit := 0
        log := differing.filterMap (mismatchRecord? reference) ++
          [⟨.info, "fuzz_arithmetic",
            s!"{iterations} iterations, {differing.length} mismatches"⟩]
        evaluated := withAnswers (kept texts) } := by
  intro differing
  have unfailed := firstFailure_of_comparable comparable
  simp only [ofCampaign, run_eq h, compared_of_comparable comparable, Outcome.ofTexts, unfailed]
  rfl

/-- Where all answers agree, the last record is the only one. -/
theorem ofCampaign_of_agreement (h : drawn seed length iterations = .ok texts)
    (agree : ∀ text ∈ kept texts, verdict reference text = .ok false) :
    ofCampaign reference seed length iterations =
      { exit := 0
        log := [⟨.info, "fuzz_arithmetic", s!"{iterations} iterations, 0 mismatches"⟩]
        evaluated := withAnswers (kept texts) } := by
  have comparable : ∀ text ∈ kept texts, Comparable reference text := fun text mem =>
    ⟨false, agree text mem⟩
  rw [ofCampaign_of_comparable h comparable, mismatches_eq_nil agree, String.append_assoc,
    String.append_assoc]
  rfl

theorem stdout_ofCampaign (reference : String → Answer) (seed length iterations : Int) :
    (ofCampaign reference seed length iterations).stdout = "" := by
  unfold ofCampaign
  dsimp only
  split <;> rfl

theorem ofCampaign_of_outside (outside : ¬ Sample.InRange length) (positive : 0 < iterations) :
    ofCampaign reference seed length iterations =
      { exit := 1, failure := some (.campaign (.length .outOfRange)) } := by
  simp only [ofCampaign, run_of_outside outside positive]

end CommandLine.Report

end InfixCalculator
