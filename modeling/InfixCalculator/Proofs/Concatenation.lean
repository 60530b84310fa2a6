import InfixCalculator.Calculator
import Mathlib

/-! # Scanning one text after another

Where a text is cut between two characters that are not both digits, its tokens are those of the
front part and then those of the back part, moved to the right by the length of the front. An error
in the front part comes before everything behind it. `Token.Spells` says the same without places, of
texts that have tokens.
-/
namespace InfixCalculator

namespace Except

variable {ε ε' α β : Type} {x : Except ε α}

@[simp] theorem map_eq_ok_iff {f : α → β} {b : β} :
    x.map f = .ok b ↔ ∃ a, x = .ok a ∧ f a = b := by
  cases x <;> simp [Except.map]

@[simp] theorem mapError_eq_ok_iff {f : ε → ε'} {a : α} : x.mapError f = .ok a ↔ x = .ok a := by
  cases x <;> simp [Except.mapError]

@[simp] theorem bind_eq_ok_iff {f : α → Except ε β} {b : β} :
    x.bind f = .ok b ↔ ∃ a, x = .ok a ∧ f a = .ok b := by
  cases x <;> simp [Except.bind]

end Except

/-- The same token further to the right. -/
def PlacedToken.shift (distance : Nat) (t : PlacedToken) : PlacedToken :=
  { t with position := t.position + distance }

theorem PlacedToken.map_token_shift (distance : Nat) (placed : List PlacedToken) :
    (placed.map (PlacedToken.shift distance)).map (·.token) = placed.map (·.token) := by
  rw [List.map_map]
  rfl

namespace Token

/-- No run of digits goes on from the front into the back. -/
def DigitsApart (front back : List Char) : Prop :=
  ∀ c ∈ front.getLast?, ∀ d ∈ back.head?, c.isDigit → d.isDigit = false

variable {c : Char} {front back text : List Char} {t : Token} {tokens : List Token}

theorem DigitsApart.of_front (h : ∀ c ∈ front.getLast?, c.isDigit = false) :
    DigitsApart front back := by
  intro c hc _ _ digit
  rw [h c hc] at digit
  cases digit

theorem DigitsApart.of_back (h : ∀ d ∈ back.head?, d.isDigit = false) : DigitsApart front back :=
  fun _ _ d hd _ => h d hd

theorem DigitsApart.of_cons (apart : DigitsApart (c :: front) back) : DigitsApart front back := by
  intro d hd
  refine apart d ?_
  cases front with
  | nil => cases hd
  | cons e front => rwa [List.getLast?_cons_cons]

/-- The digits that the front begins with go no further behind it. -/
theorem digitRun_append_of_apart (digit : c.isDigit) (apart : DigitsApart (c :: front) back) :
    digitRun (front ++ back) = ((digitRun front).1, (digitRun front).2 ++ back) := by
  induction front generalizing c with
  | nil =>
    cases back with
    | nil => rfl
    | cons d back => simp [digitRun, apart c rfl d rfl digit]
  | cons d front ih =>
    cases hd : d.isDigit with
    | true => simpa [digitRun, hd] using ih hd apart.of_cons
    | false => simp [digitRun, hd]

theorem DigitsApart.behind_digitRun (apart : DigitsApart (c :: front) back) :
    DigitsApart (digitRun front).2 back := by
  induction front generalizing c with
  | nil => simp [digitRun, DigitsApart]
  | cons d front ih =>
    cases hd : d.isDigit with
    | true => simpa [digitRun, hd] using ih apart.of_cons
    | false => simpa [digitRun, hd] using apart.of_cons

theorem scan_append (apart : DigitsApart front back) (start : Nat) :
    scan start (front ++ back) =
      (scan start front).bind fun placed =>
        (scan (start + front.length) back).map (placed ++ ·) := by
  fun_induction scan start front with
  | case1 start =>
    simp only [Except.bind, List.nil_append]
    exact (congrFun Except.map_id _).symm
  | case2 start c text digit run long =>
    rw [List.cons_append, scan_tooLong start digit]
    · rfl
    · rwa [digitRun_append_of_apart digit apart]
  | case3 start c text digit run short =>
    rename_i ih
    have length : run.1.length + run.2.length = text.length := by
      rw [← List.length_append, digitRun_append]
    have stop : start + (c :: text).length = start + run.1.length + 1 + run.2.length := by
      rw [List.length_cons]
      omega
    rw [List.cons_append, scan_number start digit, digitRun_append_of_apart digit apart,
      ih apart.behind_digitRun, stop]
    · cases scan (start + run.1.length + 1) run.2 <;>
        cases scan (start + run.1.length + 1 + run.2.length) back <;> rfl
    · rw [digitRun_append_of_apart digit apart]
      exact Nat.not_lt.mp short
  | case4 start c text no_digit t ht ih =>
    rw [List.cons_append, scan_symbol start ht, ih apart.of_cons, List.length_cons,
      Nat.add_comm text.length, ← Nat.add_assoc]
    cases scan (start + 1) text <;> cases scan (start + 1 + text.length) back <;> rfl
  | case5 start text no_digit no_symbol ih =>
    rw [List.cons_append, scan_space, ih apart.of_cons, List.length_cons, Nat.add_comm text.length,
      ← Nat.add_assoc]
  | case6 start c text no_digit no_symbol no_space =>
    rw [List.cons_append, scan_unexpected start no_digit no_symbol no_space]
    rfl

/-- Where the text starts decides the places and nothing else. -/
theorem scan_shift (distance start : Nat) (text : List Char) :
    scan (start + distance) text =
      ((scan start text).map (·.map (PlacedToken.shift distance))).mapError
        fun (cause, index) => (cause, index + distance) := by
  fun_induction scan start text with
  | case1 start =>
    rw [scan]
    rfl
  | case2 start c text digit run long =>
    rw [scan_tooLong _ digit long]
    rfl
  | case3 start c text digit run short =>
    rename_i ih
    have next : start + distance + run.1.length + 1 = start + run.1.length + 1 + distance := by
      omega
    rw [scan_number _ digit (Nat.not_lt.mp short), next, ih]
    cases scan (start + run.1.length + 1) run.2 <;> rfl
  | case4 start c text no_digit t ht ih =>
    rw [scan_symbol _ ht, Nat.add_right_comm, ih]
    cases scan (start + 1) text <;> rfl
  | case5 start text no_digit no_symbol ih =>
    rw [scan_space, Nat.add_right_comm, ih]
  | case6 start c text no_digit no_symbol no_space =>
    rw [scan_unexpected _ no_digit no_symbol no_space]
    rfl

section Parts

variable {first second : List PlacedToken} {cause : LexicalCause} {index : Nat}

theorem scan_append_ok (apart : DigitsApart front back) (scanned : scan 0 front = .ok first)
    (scanned' : scan 0 back = .ok second) :
    scan 0 (front ++ back) = .ok (first ++ second.map (PlacedToken.shift front.length)) := by
  rw [scan_append apart, scan_shift, scanned, scanned']
  rfl

theorem scan_append_error_front (apart : DigitsApart front back)
    (failed : scan 0 front = .error (cause, index)) :
    scan 0 (front ++ back) = .error (cause, index) := by
  rw [scan_append apart, failed]
  rfl

theorem scan_append_error_back (apart : DigitsApart front back) (scanned : scan 0 front = .ok first)
    (failed : scan 0 back = .error (cause, index)) :
    scan 0 (front ++ back) = .error (cause, front.length + index) := by
  rw [scan_append apart, scan_shift, scanned, failed, Nat.add_comm front.length]
  rfl

end Parts

/-- The text has these tokens, wherever they lie. -/
def Spells (text : List Char) (tokens : List Token) : Prop :=
  ∃ placed, scan 0 text = .ok placed ∧ placed.map (·.token) = tokens

theorem spells_iff_scan (start : Nat) :
    Spells text tokens ↔
      ∃ placed, scan start text = .ok placed ∧ placed.map (·.token) = tokens := by
  have moved := scan_shift start 0 text
  rw [Nat.zero_add] at moved
  rw [moved]
  constructor
  · rintro ⟨placed, h, rfl⟩
    exact ⟨_, by simp [h], PlacedToken.map_token_shift start placed⟩
  · rintro ⟨_, h, rfl⟩
    obtain ⟨placed, scanned, rfl⟩ := Except.map_eq_ok_iff.mp (Except.mapError_eq_ok_iff.mp h)
    exact ⟨placed, scanned, (PlacedToken.map_token_shift start placed).symm⟩

@[simp] theorem spells_nil_iff : Spells [] tokens ↔ tokens = [] := by
  simp [Spells, scan, eq_comm]

theorem spells_append_iff (apart : DigitsApart front back) :
    Spells (front ++ back) tokens ↔
      ∃ first second, Spells front first ∧ Spells back second ∧ tokens = first ++ second := by
  constructor
  · rintro ⟨placed, h, rfl⟩
    rw [scan_append apart] at h
    obtain ⟨first, hfirst, h⟩ := Except.bind_eq_ok_iff.mp h
    obtain ⟨second, hsecond, rfl⟩ := Except.map_eq_ok_iff.mp h
    have back_spelled := (spells_iff_scan _).mpr ⟨second, hsecond, rfl⟩
    exact ⟨_, _, ⟨first, hfirst, rfl⟩, back_spelled, List.map_append⟩
  · rintro ⟨_, _, ⟨first, hfirst, rfl⟩, ⟨second, hsecond, rfl⟩, rfl⟩
    refine ⟨_, scan_append_ok apart hfirst hsecond, ?_⟩
    rw [List.map_append, PlacedToken.map_token_shift]

theorem spells_symbol_cons_iff (symbol : ofSymbol? c = some t) :
    Spells (c :: text) tokens ↔ ∃ rest, Spells text rest ∧ tokens = t :: rest := by
  constructor
  · rintro ⟨placed, h, rfl⟩
    rw [scan_symbol 0 symbol] at h
    obtain ⟨behind, scanned, rfl⟩ := Except.map_eq_ok_iff.mp h
    exact ⟨_, (spells_iff_scan _).mpr ⟨behind, scanned, rfl⟩, rfl⟩
  · rintro ⟨rest, spelled, rfl⟩
    obtain ⟨behind, h, rfl⟩ := (spells_iff_scan (0 + 1)).mp spelled
    exact ⟨⟨t, 0⟩ :: behind, by simp [scan_symbol 0 symbol, h], rfl⟩

@[simp] theorem spells_space_cons_iff : Spells (' ' :: text) tokens ↔ Spells text tokens := by
  rw [Spells, scan_space, ← spells_iff_scan]

end Token

theorem scanText_eq_ok_iff {text : String} {placed : List PlacedToken} :
    scanText text = .ok placed ↔ Token.scan 0 text.toList = .ok placed :=
  Except.mapError_eq_ok_iff

theorem scanText_eq_error_iff {text : String} {error : LexicalError} :
    scanText text = .error error ↔
      Token.scan 0 text.toList = .error (error.cause, error.index) ∧ error.text = text := by
  unfold scanText
  obtain ⟨cause, origin, index⟩ := error
  cases Token.scan 0 text.toList with
  | error failure =>
    simp [Except.mapError, Prod.ext_iff, eq_comm, and_comm, and_assoc, and_left_comm]
  | ok placed => simp [Except.mapError]

theorem readTokens_eq_ok_iff {text : String} {tokens : List Token} :
    readTokens text = .ok tokens ↔ Token.Spells text.toList tokens := by
  unfold readTokens Token.Spells
  simp only [← scanText_eq_ok_iff]
  cases scanText text <;> simp

end InfixCalculator
