import InfixCalculator.Fuzz.CommandLine.Report
import InfixCalculator.Proofs.IntegerWords

/-! # Settings given several times

A setting may be given in either form, under a shortened name, in any place and again and again. A
run is asked for with the last value of each setting: an occurrence sets its own setting and leaves
the others alone, so the settings that a command line asks for are those of a fold over its
occurrences. Main statement: `ofArguments_of_lastValue?`.
-/
namespace InfixCalculator.CommandLine

/-- How a setting is given: with its value as the next word, or behind an equals sign. -/
inductive Form
  | twoWords
  | oneWord
deriving DecidableEq, Repr

/-- A setting that is given a value on a command line. Any beginning of its name will do. -/
structure Occurrence where
  setting : Setting
  name : String
  form : Form
  value : Int
  named : name.toList <+: setting.name.toList
  nonempty : name.toList ≠ []
  readable : Integer.Readable value

namespace Occurrence

def words (o : Occurrence) : List String :=
  match o.form with
  | .twoWords => ["--" ++ o.name, toString o.value]
  | .oneWord => ["--" ++ o.name ++ "=" ++ toString o.value]

/-- The words of an occurrence with what they are. -/
def classified (o : Occurrence) : List (String × Word) :=
  match o.form with
  | .twoWords => [("--" ++ o.name, .flag (.set o.setting) none), (toString o.value, .value)]
  | .oneWord =>
    [("--" ++ o.name ++ "=" ++ toString o.value,
      .flag (.set o.setting) (some (toString o.value).toList))]

/-- The settings once the occurrence is handled. -/
def apply (settings : Settings) (o : Occurrence) : Settings :=
  settings.set (some o.value) o.setting

end Occurrence

def commandLine (occurrences : List Occurrence) : List String :=
  occurrences.flatMap Occurrence.words

/-- The value of the last occurrence of a setting. -/
def lastValue? (setting : Setting) (occurrences : List Occurrence) : Option Int :=
  (occurrences.filter (·.setting = setting)).getLast?.map (·.value)

section Names

variable {setting : Setting} {name : List Char}

/-- No two names begin with the same letter, and none has an equals sign. -/
theorem abbreviatedBy_of_isPrefix (named : name <+: setting.name.toList) (ne : name ≠ []) :
    Flag.abbreviatedBy name = [.set setting] ∧ ∀ c ∈ name, decide (c ≠ '=') = true := by
  have all : ∀ name ∈ setting.name.toList.inits, name ≠ [] →
      Flag.abbreviatedBy name = [.set setting] ∧ '=' ∉ name := by
    cases setting <;> decide +kernel
  obtain ⟨flags, no_sign⟩ := all name ((List.mem_inits _ _).mpr named) ne
  exact ⟨flags, fun c mem => decide_eq_true fun h => no_sign (h ▸ mem)⟩

theorem Word.ofName_of_isPrefix (named : name <+: setting.name.toList) (ne : name ≠ []) :
    Word.ofName name = .flag (.set setting) none := by
  obtain ⟨flags, no_sign⟩ := abbreviatedBy_of_isPrefix named ne
  simp only [Word.ofName, List.takeWhile_eq_self_iff.mpr no_sign,
    List.dropWhile_eq_nil_iff.mpr no_sign, flags]
  rfl

theorem Word.ofName_of_isPrefix_append (named : name <+: setting.name.toList) (ne : name ≠ [])
    (value : List Char) :
    Word.ofName (name ++ '=' :: value) = .flag (.set setting) (some value) := by
  obtain ⟨flags, no_sign⟩ := abbreviatedBy_of_isPrefix named ne
  have front : (name ++ '=' :: value).takeWhile (· ≠ '=') = name := by
    rw [List.takeWhile_append_of_pos no_sign]
    simp
  have back : (name ++ '=' :: value).dropWhile (· ≠ '=') = '=' :: value := by
    rw [List.dropWhile_append_of_pos no_sign]
    simp
  simp only [Word.ofName, front, back, flags]
  rfl

end Names

theorem classify_named {word : String} {text : List Char}
    (split : word.toList = '-' :: '-' :: text) (ne : text ≠ []) (words : List String) :
    classify (word :: words) = (word, Word.ofName text) :: classify words := by
  have no_dashes : word ≠ "--" := by
    rintro rfl
    exact ne (List.cons.inj (List.cons.inj split).2).2.symm
  rw [classify_cons no_dashes, Word.ofString, split]
  rfl

namespace Occurrence

variable (o : Occurrence)

theorem classify_words (words : List String) :
    classify (o.words ++ words) = o.classified ++ classify words := by
  unfold Occurrence.words classified
  cases o.form with
  | twoWords =>
    have split : ("--" ++ o.name).toList = '-' :: '-' :: o.name.toList := by
      rw [String.toList_append]
      rfl
    simp only [List.cons_append, List.nil_append]
    rw [classify_named split o.nonempty, Word.ofName_of_isPrefix o.named o.nonempty,
      classify_cons (toString_ne_dashes o.value), Word.ofString_toString]
  | oneWord =>
    have split : ("--" ++ o.name ++ "=" ++ toString o.value).toList =
        '-' :: '-' :: (o.name.toList ++ '=' :: (toString o.value).toList) := by
      simp only [String.toList_append, List.append_assoc]
      rfl
    simp only [List.cons_append, List.nil_append]
    rw [classify_named split (by simp), Word.ofName_of_isPrefix_append o.named o.nonempty]

theorem not_ambiguous : ∀ word ∈ o.classified, word.2 ≠ .ambiguous := by
  unfold classified
  cases o.form <;> simp

/-- Handling an occurrence sets its setting and takes nothing else from the words. -/
theorem handle_classified (settings : Settings) (leftOver : List String)
    (words : List (String × Word)) :
    Request.handle settings leftOver (o.classified ++ words) =
      Request.handle (apply settings o) leftOver words := by
  unfold classified
  cases o.form with
  | twoWords => exact Request.handle_setting settings leftOver o.setting _ o.readable words
  | oneWord =>
    have no_dashes : (toString o.value).toList ≠ ['-', '-'] := fun h =>
      toString_ne_dashes o.value (String.toList_injective h)
    simp only [List.cons_append, List.nil_append]
    rw [Request.handle, Request.setFromAttached, if_neg no_dashes, String.ofList_toList,
      Request.setFrom_toString settings o.setting o.readable]
    rfl

end Occurrence

section Lines

variable {occurrences : List Occurrence} {setting : Setting}

theorem classify_commandLine (occurrences : List Occurrence) :
    classify (commandLine occurrences) = occurrences.flatMap Occurrence.classified := by
  induction occurrences with
  | nil => rfl
  | cons o occurrences ih =>
    rw [commandLine, List.flatMap_cons, o.classify_words, List.flatMap_cons]
    exact congrArg (o.classified ++ ·) ih

theorem handle_commandLine (settings : Settings) (occurrences : List Occurrence) :
    Request.handle settings [] (occurrences.flatMap Occurrence.classified) =
      .ok (.run (occurrences.foldl Occurrence.apply settings)) := by
  induction occurrences generalizing settings with
  | nil => rfl
  | cons o occurrences ih => rw [List.flatMap_cons, o.handle_classified, ih, List.foldl_cons]

theorem ofArguments_commandLine (occurrences : List Occurrence) :
    Request.ofArguments (commandLine occurrences) =
      .ok (.run (occurrences.foldl Occurrence.apply {})) := by
  have unambiguous : (occurrences.flatMap Occurrence.classified).find? (·.2 = .ambiguous) =
      none := by
    rw [List.find?_eq_none]
    intro word mem
    obtain ⟨o, -, mem⟩ := List.mem_flatMap.mp mem
    simpa using o.not_ambiguous word mem
  rw [Request.ofArguments, classify_commandLine, Request.ofWords, unambiguous]
  exact handle_commandLine {} occurrences

theorem lastValue?_concat (setting : Setting) (occurrences : List Occurrence) (o : Occurrence) :
    lastValue? setting (occurrences ++ [o]) =
      if o.setting = setting then some o.value else lastValue? setting occurrences := by
  rw [lastValue?, List.filter_append]
  split_ifs with same
  · simp [same]
  · simp [same, lastValue?]

theorem exists_lastValue? (given : setting ∈ occurrences.map (·.setting)) :
    ∃ n, lastValue? setting occurrences = some n := by
  obtain ⟨o, mem, same⟩ := List.mem_map.mp given
  have kept : o ∈ occurrences.filter (·.setting = setting) := by
    rw [List.mem_filter]
    exact ⟨mem, decide_eq_true same⟩
  have last := List.getLast?_eq_some_getLast (List.ne_nil_of_mem kept)
  exact ⟨_, Option.map_eq_some_iff.mpr ⟨_, last, rfl⟩⟩

theorem readable_of_lastValue? {n : Int} (last : lastValue? setting occurrences = some n) :
    Integer.Readable n := by
  obtain ⟨o, -, rfl⟩ := Option.map_eq_some_iff.mp last
  exact o.readable

theorem readable_getD_lastValue? (setting : Setting) (occurrences : List Occurrence) {default : Int}
    (readable : Integer.Readable default) :
    Integer.Readable ((lastValue? setting occurrences).getD default) := by
  cases last : lastValue? setting occurrences with
  | none => exact readable
  | some n => exact readable_of_lastValue? last

/-- After all occurrences each setting has its last value, or the value from before if there is no
occurrence of it. -/
theorem foldl_apply (settings : Settings) (occurrences : List Occurrence) :
    occurrences.foldl Occurrence.apply settings =
      { iterations := (lastValue? .iterations occurrences).or settings.iterations
        length := (lastValue? .length occurrences).or settings.length
        seed := ((lastValue? .seed occurrences).map .number).or settings.seed } := by
  induction occurrences using List.reverseRecOn with
  | nil => rfl
  | append_singleton occurrences o ih =>
    rw [List.foldl_concat, ih, lastValue?_concat, lastValue?_concat, lastValue?_concat]
    cases named : o.setting <;> simp [Occurrence.apply, Settings.set, named]

/-- Where the iterations and the seed are given, the command line asks for the last values. -/
theorem ofArguments_of_lastValue? {iterations seed : Int}
    (last_iterations : lastValue? .iterations occurrences = some iterations)
    (last_seed : lastValue? .seed occurrences = some seed) :
    Request.ofArguments (commandLine occurrences) =
      .ok (.run ⟨some iterations, some ((lastValue? .length occurrences).getD 10),
        some (.number seed)⟩) := by
  have length : (lastValue? .length occurrences).or (some 10) =
      some ((lastValue? .length occurrences).getD 10) := by
    cases lastValue? .length occurrences <;> rfl
  rw [ofArguments_commandLine, foldl_apply, last_iterations, last_seed, length]
  rfl

end Lines

/-- The setting under its full name, with the value as a word of its own. -/
def Occurrence.full (setting : Setting) {n : Int} (readable : Integer.Readable n) : Occurrence where
  setting
  name := setting.name
  form := .twoWords
  value := n
  named := List.prefix_rfl
  nonempty := by cases setting <;> decide
  readable

/-- The name of a setting and its value, each as a word of its own. -/
def Setting.spell (setting : Setting) (n : Int) : List String :=
  ["--" ++ setting.name, toString n]

/-- The command line that gives each setting once, in this order. -/
def Request.spelled (iterations length seed : Int) : List String :=
  Setting.iterations.spell iterations ++ (Setting.length.spell length ++
    (Setting.seed.spell seed ++ []))

theorem Request.ofArguments_spelled {iterations length seed : Int}
    (readable_iterations : Integer.Readable iterations) (readable_length : Integer.Readable length)
    (readable_seed : Integer.Readable seed) :
    ofArguments (spelled iterations length seed) =
      .ok (.run ⟨some iterations, some length, some (.number seed)⟩) := by
  have line : spelled iterations length seed =
      commandLine [.full .iterations readable_iterations, .full .length readable_length,
        .full .seed readable_seed] := rfl
  rw [line, ofArguments_commandLine]
  rfl

theorem report_of_run {arguments : List String} {iterations length seed : Int}
    (asked : Request.ofArguments arguments =
      .ok (.run ⟨some iterations, some length, some (.number seed)⟩))
    (reference : String → Answer) (entropy : Int) :
    report reference entropy arguments = .ofCampaign reference seed length iterations := by
  rw [report, asked]
  rfl

end InfixCalculator.CommandLine
