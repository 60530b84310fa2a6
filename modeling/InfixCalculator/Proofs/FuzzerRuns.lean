import InfixCalculator.Proofs.Agreement
import InfixCalculator.Proofs.Campaign
import InfixCalculator.Proofs.SettingOccurrences

/-! # What runs of the fuzzer show

A run shows the campaign that its command line asks for. Which texts are evaluated can be told from
the seed, the length and the number of iterations alone, and of several values of a setting the last
one counts. Main statements: `report_evaluates_kept`, `report_last_values`.
-/
namespace InfixCalculator.CommandLine

open Campaign

/-- A run that is given its iterations and its seed shows the same, in whatever form, under whatever
beginnings of their names, in whatever order and however often the settings are given, as if each
were given once, in full and with its last value; the length is 10 if it is not given. What it shows
is the campaign with these values. If its texts can be drawn and their answers compared, it ends
without an error, and if no answer differs, all that is put on record is the end. -/
theorem report_last_values (reference : String → Answer) (entropy : Int)
    {occurrences : List Occurrence}
    (iterations_given : .iterations ∈ occurrences.map (·.setting))
    (seed_given : .seed ∈ occurrences.map (·.setting)) :
    ∃ iterations seed, lastValue? .iterations occurrences = some iterations ∧
      lastValue? .seed occurrences = some seed ∧
      let length := (lastValue? .length occurrences).getD 10
      let whole := report reference entropy (commandLine occurrences)
      whole = report reference entropy ["--iterations", toString iterations,
          "--length", toString length, "--seed", toString seed] ∧
        whole = .ofCampaign reference seed length iterations ∧ whole.stdout = "" ∧
        (Sample.InRange length ∨ iterations ≤ 0 →
          ∃ texts, drawn seed length iterations = .ok texts ∧
            ((∀ text ∈ kept texts, Comparable reference text) →
              whole.exit = 0 ∧ whole.failure = none) ∧
            ((∀ text ∈ kept texts, verdict reference text = .ok false) →
              whole.stderr = "" ∧ whole.log = [⟨.info, "fuzz_arithmetic",
                s!"{iterations} iterations, 0 mismatches"⟩])) := by
  obtain ⟨iterations, last_iterations⟩ := exists_lastValue? iterations_given
  obtain ⟨seed, last_seed⟩ := exists_lastValue? seed_given
  refine ⟨iterations, seed, last_iterations, last_seed, ?_⟩
  intro length whole
  have readable_length : Integer.Readable length :=
    readable_getD_lastValue? .length occurrences (by decide)
  have asked_once : Request.ofArguments ["--iterations", toString iterations, "--length",
      toString length, "--seed", toString seed] =
      .ok (.run ⟨some iterations, some length, some (.number seed)⟩) :=
    Request.ofArguments_spelled (readable_of_lastValue? last_iterations) readable_length
      (readable_of_lastValue? last_seed)
  have shown : whole = .ofCampaign reference seed length iterations :=
    report_of_run (ofArguments_of_lastValue? last_iterations last_seed) reference entropy
  rw [report_of_run asked_once, shown]
  refine ⟨rfl, rfl, Report.stdout_ofCampaign .., fun can_draw => ?_⟩
  refine ⟨_, drawn_eq can_draw, fun comparable => ?_, fun agree => ?_⟩
  · rw [Report.ofCampaign_of_comparable (drawn_eq can_draw) comparable]
    exact ⟨rfl, rfl⟩
  · rw [Report.ofCampaign_of_agreement (drawn_eq can_draw) agree]
    exact ⟨rfl, rfl⟩

/-- The iterations and the seed are given twice, in both forms. Of the two texts that are drawn with
the last seed the reference says what is wrong. -/
theorem report_last_values_overridden :
    let reference := fun text => Answer.message
      (if text = "(+-" then "'(' was never closed (<string>, line 1)"
        else "invalid syntax (<string>, line 1)")
    let occurrences : List Occurrence := [
      ⟨.seed, "se", .oneWord, -7, by decide +kernel, by decide, by decide⟩,
      ⟨.iterations, "it", .twoWords, 4, by decide +kernel, by decide, by decide⟩,
      ⟨.length, "l", .oneWord, 3, by decide +kernel, by decide, by decide⟩,
      ⟨.iterations, "iterations", .oneWord, 2, by decide +kernel, by decide, by decide⟩,
      ⟨.seed, "s", .twoWords, -5, by decide +kernel, by decide, by decide⟩]
    let whole := report reference 0 (commandLine occurrences)
    commandLine occurrences =
        ["--se=-7", "--it", "4", "--l=3", "--iterations=2", "--s", "-5"] ∧
      drawn (-5) 3 2 = .ok ["(+-", " +/"] ∧
      whole = report reference 0 ["--iterations", "2", "--length", "3", "--seed", "-5"] ∧
      whole = .ofCampaign reference (-5) 3 2 ∧ whole.exit = 0 ∧ whole.stdout = "" ∧
      whole.stderr = "" ∧
      whole.log = [⟨.info, "fuzz_arithmetic", "2 iterations, 0 mismatches"⟩] := by
  intro reference occurrences whole
  have iterations_given : .iterations ∈ occurrences.map (·.setting) := by decide
  have seed_given : .seed ∈ occurrences.map (·.setting) := by decide
  obtain ⟨iterations, seed, last_iterations, last_seed, same, campaign, stdout, ends⟩ :=
    report_last_values reference 0 iterations_given seed_given
  cases last_iterations
  cases last_seed
  have texts_eq : drawn (-5) 3 2 = .ok ["(+-", " +/"] := by
    rw [drawn, Sample.randomTexts_eq_packed (by decide)]
    decide +kernel
  obtain ⟨texts, texts_eq', compares, agrees⟩ := ends (.inl (by decide))
  cases texts_eq.symm.trans texts_eq'
  have agree : ∀ text ∈ kept ["(+-", " +/"], verdict reference text = .ok false := by
    decide +kernel
  obtain ⟨exit, -⟩ := compares fun text mem => ⟨false, agree text mem⟩
  obtain ⟨stderr, log⟩ := agrees agree
  exact ⟨by decide +kernel, texts_eq, same, campaign, exit, stdout, stderr, log⟩

/-- With a length that is out of range, a run of one iteration ends with an error and without its
last record. -/
theorem report_last_values_out_of_range :
    let reference := fun _ => Answer.message "invalid syntax (<string>, line 0)"
    let occurrences : List Occurrence := [
      ⟨.length, "length", .oneWord, -9223372036854775809, by decide +kernel, by decide, by decide⟩,
      ⟨.iterations, "iterations", .twoWords, 1, by decide +kernel, by decide, by decide⟩,
      ⟨.seed, "seed", .twoWords, 1, by decide +kernel, by decide, by decide⟩]
    commandLine occurrences =
        ["--length=-9223372036854775809", "--iterations", "1", "--seed", "1"] ∧
      (report reference 0 (commandLine occurrences)).exit = 1 ∧
      (report reference 0 (commandLine occurrences)).log = [] := by
  intro reference occurrences
  have asked : Request.ofArguments (commandLine occurrences) =
      .ok (.run ⟨some 1, some (-9223372036854775809), some (.number 1)⟩) := by decide +kernel
  rw [report_of_run asked, Report.ofCampaign_of_outside (by decide) (by decide)]
  exact ⟨by decide +kernel, rfl, rfl⟩

end InfixCalculator.CommandLine
