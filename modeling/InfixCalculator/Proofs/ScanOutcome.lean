import InfixCalculator.Proofs.Concatenation
import InfixCalculator.Proofs.Placement

/-! # What a scan comes to

A character that fits nowhere is a fault, and so is the first digit of a run that is too long.
`scan_outcome` goes along with the scan from any place that is not inside a run of digits: what
stands behind it is placed if it has no fault, and otherwise the scan ends at the first.
-/
namespace InfixCalculator

namespace Token

/-- What makes a text unreadable, and where. -/
inductive Fault (text : List Char) : LexicalCause → Nat → Prop
  | unexpectedCharacter {c : Char} {i : Nat} (found : text[i]? = some c) (no_digit : ¬ c.isDigit)
      (no_symbol : c ∉ symbols) (no_space : c ≠ ' ') : Fault text (.unexpectedCharacter c) i
  | numberTooLong {start length : Nat} (run : IsDigitRun text start length)
      (long : maxDigits < length) : Fault text .numberTooLong start

variable {text rest : List Char} {start stop next i : Nat} {c : Char}

/-- Nothing is wrong with the text from `start` to `stop`. -/
def Faultless (text : List Char) (start stop : Nat) : Prop :=
  ∀ i, start ≤ i → i < stop → ∀ cause, ¬ Fault text cause i

theorem Faultless.trans (h : Faultless text start next) (h' : Faultless text next stop) :
    Faultless text start stop := by
  intro i le lt
  rcases Nat.lt_or_ge i next with inside | behind
  · exact h i le inside
  · exact h' i behind lt

theorem Faultless.of_le (le : stop ≤ start) : Faultless text start stop :=
  fun _ hi lt => absurd lt (Nat.not_lt.mpr (le.trans hi))

theorem Fault.lt_length {cause : LexicalCause} (h : Fault text cause i) : i < text.length := by
  cases h with
  | unexpectedCharacter found => exact (List.getElem?_eq_some_iff.mp found).1
  | numberTooLong run =>
    obtain ⟨c, hc, -⟩ := run.digits i le_rfl (Nat.lt_add_of_pos_right run.nonempty)
    exact (List.getElem?_eq_some_iff.mp hc).1

theorem faultless_of_known (found : text[i]? = some c) (no_digit : c.isDigit = false)
    (known : c ∈ symbols ∨ c = ' ') : Faultless text i (i + 1) := by
  intro j le lt cause fault
  obtain rfl : j = i := by omega
  cases fault with
  | unexpectedCharacter found' _ no_symbol no_space =>
    rw [found] at found'
    cases found'
    rcases known with symbol | space
    · exact no_symbol symbol
    · exact no_space space
  | numberTooLong run =>
    have digit := run.digits j le_rfl (Nat.lt_add_of_pos_right run.nonempty)
    rw [digitAt_iff_of_getElem? found, no_digit] at digit
    cases digit

theorem IsDigitRun.faultless {length : Nat} (run : IsDigitRun text start length)
    (short : length ≤ maxDigits) : Faultless text start (start + length) := by
  intro i le lt cause fault
  cases fault with
  | unexpectedCharacter found no_digit =>
    exact no_digit ((digitAt_iff_of_getElem? found).mp (run.digits i le lt))
  | numberTooLong other long =>
    obtain rfl := run.start_eq other le lt
    rw [← run.length_eq, other.length_eq] at short
    omega

/-- What the scan of the text from `start` on comes to: a placement if nothing is wrong, and the
first fault otherwise. -/
def ScanOutcome (text : List Char) (start : Nat) :
    Except (LexicalCause × Nat) (List PlacedToken) → Prop
  | .ok placed => IsPlacementFrom start text placed ∧ Faultless text start text.length
  | .error (cause, index) =>
    start ≤ index ∧ Fault text cause index ∧ Faultless text start index

namespace ScanOutcome

variable {t : PlacedToken} {outcome : Except (LexicalCause × Nat) (List PlacedToken)}

theorem space (h : ScanOutcome text (start + 1) outcome) (found : text[start]? = some ' ') :
    ScanOutcome text start outcome := by
  have sound := faultless_of_known found rfl (.inr rfl)
  cases outcome with
  | error failure =>
    obtain ⟨le, fault, first⟩ := h
    exact ⟨Nat.le_of_succ_le le, fault, sound.trans first⟩
  | ok placed =>
    obtain ⟨placement, faultless⟩ := h
    exact ⟨placement.space found, sound.trans faultless⟩

theorem cons (h : ScanOutcome text (t.position + t.extent text) outcome) (spelled : t.Spelled text)
    (sound : Faultless text t.position (t.position + t.extent text)) :
    ScanOutcome text t.position (outcome.map (t :: ·)) := by
  cases outcome with
  | error failure =>
    obtain ⟨le, fault, first⟩ := h
    exact ⟨Nat.le_of_add_right_le le, fault, sound.trans first⟩
  | ok placed =>
    obtain ⟨placement, faultless⟩ := h
    exact ⟨placement.cons spelled, sound.trans faultless⟩

end ScanOutcome

theorem getElem?_of_drop_eq_cons (h : text.drop start = c :: rest) : text[start]? = some c := by
  rw [← List.head?_drop, h]
  rfl

theorem drop_succ_of_drop_eq_cons (h : text.drop start = c :: rest) :
    text.drop (start + 1) = rest := by
  rw [← List.drop_drop, h]
  rfl

theorem digitRun_cons (digit : c.isDigit) (text : List Char) :
    digitRun (c :: text) = (c :: (digitRun text).1, (digitRun text).2) := by
  simp [digitRun, digit]

theorem drop_length_digitRun (text : List Char) :
    text.drop (digitRun text).1.length = (digitRun text).2 := by
  calc
    _ = ((digitRun text).1 ++ (digitRun text).2).drop (digitRun text).1.length := by
      rw [digitRun_append]
    _ = _ := List.drop_left

theorem isDigitRun_of_drop_eq_cons (hrest : text.drop start = c :: rest) (digit : c.isDigit)
    (starts : ∀ before, start = before + 1 → ¬ DigitAt text before) :
    IsDigitRun text start ((digitRun rest).1.length + 1) := by
  have here : digitRun (text.drop start) = (c :: (digitRun rest).1, (digitRun rest).2) := by
    rw [hrest, digitRun_cons digit]
  have run := isDigitRun_of_starts starts (by simp [here])
  rwa [here] at run

/-- The scan goes by the text from `start` on, provided that `start` is not inside a run of
digits. -/
theorem scan_outcome (text : List Char) (start : Nat)
    (starts : DigitAt text start → ∀ before, start = before + 1 → ¬ DigitAt text before) :
    ScanOutcome text start (scan start (text.drop start)) := by
  generalize hrest : text.drop start = rest
  fun_induction scan start rest with
  | case1 start =>
    have past := List.drop_eq_nil_iff.mp hrest
    exact ⟨.nil past, .of_le past⟩
  | case2 start c rest digit run long =>
    have found := getElem?_of_drop_eq_cons hrest
    have isRun := isDigitRun_of_drop_eq_cons hrest digit (starts ⟨c, found, digit⟩)
    exact ⟨le_rfl, .numberTooLong isRun long, .of_le le_rfl⟩
  | case3 start c rest digit run short =>
    rename_i ih
    have found := getElem?_of_drop_eq_cons hrest
    have isRun := isDigitRun_of_drop_eq_cons hrest digit (starts ⟨c, found, digit⟩)
    have extent := (PlacedToken.extent_number text
      (t := ⟨.number (Nat.ofDigitChars 10 (c :: run.1) 0), start⟩) rfl).trans isRun.length_eq
    have behind : text.drop (start + run.1.length + 1) = run.2 := by
      rw [Nat.add_right_comm, ← List.drop_drop, drop_succ_of_drop_eq_cons hrest,
        drop_length_digitRun]
    refine ScanOutcome.cons ?_ ?_ ?_
    · rw [extent]
      exact ih (fun digit' => absurd digit' isRun.ends) behind
    · refine PlacedToken.spelled_number_iff.mpr ⟨?_, ?_⟩
      · rw [isRun.length_eq]
        exact isRun
      · rw [hrest, digitRun_cons digit]
    · rw [extent]
      exact isRun.faultless (Nat.not_lt.mp short)
  | case4 start c rest no_digit t ht ih =>
    have found := getElem?_of_drop_eq_cons hrest
    have symbol := (ofSymbol?_eq_some_iff.mp ht).1
    have no_digit_here : ¬ DigitAt text start := by
      rw [digitAt_iff_of_getElem? found]
      exact no_digit
    have extent := PlacedToken.extent_symbol text (t := ⟨t, start⟩) symbol
    refine ScanOutcome.cons ?_ ?_ ?_
    · rw [extent]
      refine ih ?_ (drop_succ_of_drop_eq_cons hrest)
      rintro - before ⟨⟩
      exact no_digit_here
    · exact (PlacedToken.spelled_symbol_iff symbol).mpr ⟨c, found, ht⟩
    · rw [extent]
      exact faultless_of_known found (not_isDigit_of_ofSymbol? ht)
        (.inl (mem_symbols_iff.mpr ⟨t, ht⟩))
  | case5 start rest no_digit no_symbol ih =>
    have found := getElem?_of_drop_eq_cons hrest
    refine ScanOutcome.space (ih ?_ (drop_succ_of_drop_eq_cons hrest)) found
    rintro - before ⟨⟩
    rw [digitAt_iff_of_getElem? found]
    exact no_digit
  | case6 start c rest no_digit no_symbol no_space =>
    have found := getElem?_of_drop_eq_cons hrest
    have unknown : c ∉ symbols := by
      intro known
      obtain ⟨t, ht⟩ := mem_symbols_iff.mp known
      rw [no_symbol] at ht
      cases ht
    exact ⟨le_rfl, .unexpectedCharacter found no_digit unknown no_space, .of_le le_rfl⟩

theorem scanOutcome_scan (text : List Char) : ScanOutcome text 0 (scan 0 text) := by
  have outcome := scan_outcome text 0 (by simp)
  rwa [List.drop_zero] at outcome

theorem faultless_iff :
    Faultless text 0 text.length ↔
      (∀ c ∈ text, c.isDigit ∨ c ∈ symbols ∨ c = ' ') ∧
        ∀ start length, IsDigitRun text start length → length ≤ maxDigits := by
  constructor
  · intro h
    constructor
    · intro c hc
      obtain ⟨i, hi⟩ := List.mem_iff_getElem?.mp hc
      by_contra unknown
      rw [not_or, not_or] at unknown
      obtain ⟨no_digit, no_symbol, no_space⟩ := unknown
      have fault := Fault.unexpectedCharacter hi no_digit no_symbol no_space
      exact h i (Nat.zero_le i) fault.lt_length _ fault
    · intro start length run
      by_contra long
      have fault := Fault.numberTooLong run (Nat.not_le.mp long)
      exact h start (Nat.zero_le start) fault.lt_length _ fault
  · rintro ⟨known, short⟩ i - - cause fault
    cases fault with
    | unexpectedCharacter found no_digit no_symbol no_space =>
      rcases known _ (List.mem_of_getElem? found) with digit | symbol | space
      · exact no_digit digit
      · exact no_symbol symbol
      · exact no_space space
    | numberTooLong run long => exact absurd (short _ _ run) (Nat.not_le.mpr long)

variable {cause other : LexicalCause}

/-- No place has two faults. -/
theorem Fault.cause_eq (h : Fault text cause i) (h' : Fault text other i) : cause = other := by
  have apart : ∀ {c length}, text[i]? = some c → ¬ c.isDigit → ¬ IsDigitRun text i length := by
    intro c length found no_digit run
    have digit := run.digits i le_rfl (Nat.lt_add_of_pos_right run.nonempty)
    exact no_digit ((digitAt_iff_of_getElem? found).mp digit)
  cases h with
  | unexpectedCharacter found no_digit =>
    cases h' with
    | unexpectedCharacter found' => rw [Option.some.inj (found.symm.trans found')]
    | numberTooLong run => exact absurd run (apart found no_digit)
  | numberTooLong run =>
    cases h' with
    | unexpectedCharacter found no_digit => exact absurd run (apart found no_digit)
    | numberTooLong => rfl

/-- No run of digits goes on from what precedes a fault. -/
theorem Fault.digitsApart (h : Fault text cause i) : DigitsApart (text.take i) (text.drop i) := by
  have within := h.lt_length
  cases h with
  | unexpectedCharacter found no_digit =>
    apply DigitsApart.of_back
    intro d hd
    rw [List.head?_drop, found] at hd
    cases hd
    exact Bool.eq_false_iff.mpr no_digit
  | numberTooLong run =>
    apply DigitsApart.of_front
    intro c hc
    rw [List.getLast?_take] at hc
    split_ifs at hc with zero
    · cases hc
    · obtain ⟨before, rfl⟩ := Nat.exists_eq_succ_of_ne_zero zero
      have found : text[before]? = some text[before] := List.getElem?_eq_getElem (by omega)
      rw [Nat.succ_sub_one, found] at hc
      cases hc
      have no_digit := run.starts before rfl
      rw [digitAt_iff_of_getElem? found] at no_digit
      exact Bool.eq_false_iff.mpr no_digit

/-- What precedes the fault that ends a scan is scanned by itself. -/
theorem exists_scan_take (failed : scan 0 text = .error (cause, i)) :
    ∃ placed, scan 0 (text.take i) = .ok placed := by
  have outcome := scanOutcome_scan text
  rw [failed] at outcome
  obtain ⟨-, fault, -⟩ := outcome
  cases front : scan 0 (text.take i) with
  | ok placed => exact ⟨placed, rfl⟩
  | error failure =>
    -- The front would fail in the same place, which is not in it.
    have whole := scan_append_error_front fault.digitsApart front
    rw [List.take_append_drop, failed] at whole
    obtain rfl : (cause, i) = failure := Except.error.inj whole
    have inside := scanOutcome_scan (text.take i)
    rw [front] at inside
    have := inside.2.1.lt_length
    rw [List.length_take] at this
    omega

end Token

/-- A text is scanned exactly if it has no other characters than digits, symbols and spaces and no
run of digits that is too long. The tokens are then the one placement of tokens in the text. -/
theorem scanText_placement (text : String) :
    ((∃ placed, scanText text = .ok placed) ↔
      (∀ c ∈ text.toList, c.isDigit ∨ c ∈ Token.symbols ∨ c = ' ') ∧
        ∀ start length, Token.IsDigitRun text.toList start length → length ≤ Token.maxDigits) ∧
      ∀ placed, scanText text = .ok placed →
        placed.Pairwise (·.position < ·.position) ∧
          ∀ others, IsPlacement text.toList others ↔ others = placed := by
  have outcome := Token.scanOutcome_scan text.toList
  simp only [scanText_eq_ok_iff, ← Token.faultless_iff]
  cases scanned : Token.scan 0 text.toList with
  | error failure =>
    rw [scanned] at outcome
    obtain ⟨-, fault, -⟩ := outcome
    have faulty : ¬ Token.Faultless text.toList 0 text.toList.length :=
      fun h => h failure.2 (Nat.zero_le _) fault.lt_length failure.1 fault
    simp [faulty]
  | ok placed =>
    rw [scanned] at outcome
    obtain ⟨placement, faultless⟩ := outcome
    have placement := placement.isPlacement
    refine ⟨by simp [faultless], ?_⟩
    rintro _ ⟨⟩
    exact ⟨placement.increasing, fun others => ⟨placement.unique, fun h => h ▸ placement⟩⟩

theorem scanText_placement_leading_zero :
    let placed := [⟨.number 7, 1⟩, ⟨.operator .mul, 3⟩, ⟨.leftParen, 4⟩, ⟨.number 12, 6⟩]
    scanText " 07*( 12" = .ok placed ∧ placed.Pairwise (·.position < ·.position) ∧
      ∀ others, IsPlacement " 07*( 12".toList others ↔ others = placed := by
  intro placed
  have scanned : scanText " 07*( 12" = .ok placed := by decide +kernel
  exact ⟨scanned, (scanText_placement " 07*( 12").2 placed scanned⟩

/-- A scan that fails blames the first fault of the text, by the message for its kind. A run of
digits that is too long is blamed at its first digit, whatever stands behind it. All that precedes
the fault can be scanned. -/
theorem scanText_first_fault {text : String} {error : LexicalError}
    (failed : scanText text = .error error) :
    IsLeast {i | ∃ cause, Token.Fault text.toList cause i} error.index ∧
      (∀ c, Token.Fault text.toList (.unexpectedCharacter c) error.index →
        error.cause.summary =
          "Unexpected character: " ++ String.ofList (Quoted.quote isPrintable [c])) ∧
      (Token.Fault text.toList .numberTooLong error.index →
        error.cause.summary = "Number literal longer than 4300 digits") ∧
      (∀ start, Token.Fault text.toList .numberTooLong start →
        Token.Faultless text.toList 0 start → error = ⟨.numberTooLong, text, start⟩) ∧
      error.text = text ∧ error.index < text.length ∧
      ∃ placed, scanText (String.ofList (text.toList.take error.index)) = .ok placed := by
  obtain ⟨scanned, origin⟩ := scanText_eq_error_iff.mp failed
  have outcome := Token.scanOutcome_scan text.toList
  rw [scanned] at outcome
  obtain ⟨-, fault, first⟩ := outcome
  have least : IsLeast {i | ∃ cause, Token.Fault text.toList cause i} error.index := by
    refine ⟨⟨error.cause, fault⟩, ?_⟩
    intro i hi
    obtain ⟨cause, earlier⟩ := hi
    by_contra before
    exact first i (Nat.zero_le i) (Nat.lt_of_not_le before) cause earlier
  refine ⟨least, ?_, ?_, ?_, origin, ?_, ?_⟩
  · intro c unexpected
    rw [fault.cause_eq unexpected]
    rfl
  · intro long
    rw [fault.cause_eq long]
    rfl
  · intro start long faultless
    have le : error.index ≤ start := least.2 ⟨.numberTooLong, long⟩
    have ge : start ≤ error.index := by
      by_contra before
      exact faultless error.index (Nat.zero_le _) (Nat.lt_of_not_le before) error.cause fault
    obtain ⟨cause, origin', index⟩ := error
    obtain rfl : index = start := Nat.le_antisymm le ge
    obtain rfl : cause = .numberTooLong := fault.cause_eq long
    obtain rfl : origin' = text := origin
    rfl
  · rw [← String.length_toList]
    exact fault.lt_length
  · obtain ⟨placed, front⟩ := Token.exists_scan_take scanned
    refine ⟨placed, scanText_eq_ok_iff.mpr ?_⟩
    rw [String.toList_ofList]
    exact front

theorem scanText_first_fault_before_letter :
    let text := String.ofList (' ' :: '7' :: (List.replicate 4300 '7' ++ ['x']))
    scanText text = .error ⟨.numberTooLong, text, 1⟩ ∧
      IsLeast {i | ∃ cause, Token.Fault text.toList cause i} 1 ∧
      ∃ placed, scanText (String.ofList (text.toList.take 1)) = .ok placed := by
  intro text
  have run : ∀ n, (Token.digitRun (List.replicate n '7' ++ ['x'])).1.length = n := by
    intro n
    rw [Token.digitRun, List.takeWhile_append_of_pos (by simp)]
    simp
  have failed : scanText text = .error ⟨.numberTooLong, text, 1⟩ := by
    refine scanText_eq_error_iff.mpr ⟨?_, rfl⟩
    rw [String.toList_ofList, Token.scan_space]
    exact Token.scan_tooLong 1 (by decide) (by rw [run]; decide)
  obtain ⟨least, -, -, -, -, -, front⟩ := scanText_first_fault failed
  exact ⟨failed, least, front⟩

end InfixCalculator
