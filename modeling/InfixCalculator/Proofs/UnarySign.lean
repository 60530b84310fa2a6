import InfixCalculator.Proofs.Forgiveness

/-! # Signs in unary position

A refusal is forgiven when the text has a sign where an operand should stand. Three descriptions of
such a sign come to the same: a match of a search that may start anywhere, the nearest character
before the sign that is not blank, and one pass over the text that remembers no more than that
character. Main statement: `disagree_forgives_unary_sign`.
-/
namespace InfixCalculator.Comparison

variable {front text : List Char} {last : Option Char} {c : Char}

/-- The last character of what stands before a place, blanks apart. -/
def nearestBefore (front : List Char) : Option Char :=
  front.reverse.find? (!isBlank ·)

/-- Some sign has nothing before it, or the nearest character before it opens an operand; blanks do
not count. -/
def HasSignForOperand (text : List Char) : Prop :=
  ∃ front sign back, text = front ++ sign :: back ∧ (sign = '+' ∨ sign = '-') ∧
    ∀ c, nearestBefore front = some c → c ∈ ['-', '+', '*', '/', '(']

/-- What a search for a sign in unary position finds behind `front`: blanks and a sign, which stand
at the start of the text or follow a character that opens an operand. -/
inductive UnaryMatch : (front found : List Char) → Prop
  | start {gap : List Char} {sign : Char} (blanks : ∀ d ∈ gap, isBlank d) (hsign : isSign sign) :
      UnaryMatch [] (gap ++ [sign])
  | behind (front : List Char) {c : Char} {gap : List Char} {sign : Char} (opens : opensOperand c)
      (blanks : ∀ d ∈ gap, isBlank d) (hsign : isSign sign) :
      UnaryMatch front (c :: gap ++ [sign])

theorem isSign_iff : isSign c ↔ c = '+' ∨ c = '-' := by
  simp [isSign]

theorem opensOperand_iff : opensOperand c ↔ c ∈ ['-', '+', '*', '/', '('] := by
  simp [opensOperand, isSign]
  tauto

theorem isBlank_of_opensOperand (opens : opensOperand c) : isBlank c = false := by
  obtain ⟨t, symbol, -⟩ := exists_ofSymbol?_of_opensOperand opens
  exact isBlank_of_ofSymbol? symbol

theorem nearestBefore_eq_none_iff : nearestBefore front = none ↔ ∀ d ∈ front, isBlank d := by
  simp [nearestBefore]

theorem nearestBefore_eq_some_iff :
    nearestBefore front = some c ↔
      isBlank c = false ∧ ∃ before gap, front = before ++ c :: gap ∧ ∀ d ∈ gap, isBlank d := by
  rw [nearestBefore, List.find?_eq_some_iff_append]
  constructor
  · intro h
    obtain ⟨visible, gap, before, split, blanks⟩ := h
    refine ⟨by simpa using visible, before.reverse, gap.reverse, ?_, ?_⟩
    · simpa using congrArg List.reverse split
    · simpa using blanks
  · intro h
    obtain ⟨visible, before, gap, rfl, blanks⟩ := h
    exact ⟨by simpa using visible, gap.reverse, before.reverse, by simp, by simpa using blanks⟩

theorem nearestBefore_append_singleton (front : List Char) (c : Char) :
    nearestBefore (front ++ [c]) = if isBlank c then nearestBefore front else some c := by
  rw [nearestBefore, List.reverse_concat, List.find?_cons]
  cases isBlank c <;> rfl

/-- The search tries the start of the text first and then every character that opens an operand. -/
theorem hasUnarySign_iff_match :
    hasUnarySign text ↔
      ∃ front found back, text = front ++ found ++ back ∧ UnaryMatch front found := by
  rw [hasUnarySign, Bool.or_eq_true, startsWith_eq_true_iff, hasPair_eq_true_iff]
  constructor
  · intro h
    rcases h with ⟨gap, sign, back, rfl, blanks, hsign⟩ | ⟨front, c, behind, rfl, opens, hbehind⟩
    · exact ⟨[], gap ++ [sign], back, by simp, .start blanks hsign⟩
    · obtain ⟨gap, sign, back, rfl, blanks, hsign⟩ := startsWith_eq_true_iff.mp hbehind
      exact ⟨front, c :: gap ++ [sign], back, by simp, .behind front opens blanks hsign⟩
  · intro h
    obtain ⟨front, found, back, rfl, found_here⟩ := h
    cases found_here with
    | @start gap sign blanks hsign => exact .inl ⟨gap, sign, back, by simp, blanks, hsign⟩
    | @behind _ c gap sign opens blanks hsign =>
      refine .inr ⟨front, c, gap ++ sign :: back, by simp, opens, ?_⟩
      exact startsWith_eq_true_iff.mpr ⟨gap, sign, back, rfl, blanks, hsign⟩

theorem exists_match_iff :
    (∃ front found back, text = front ++ found ++ back ∧ UnaryMatch front found) ↔
      HasSignForOperand text := by
  constructor
  · intro h
    obtain ⟨front, found, back, rfl, found_here⟩ := h
    cases found_here with
    | @start gap sign blanks hsign =>
      refine ⟨gap, sign, back, by simp, isSign_iff.mp hsign, ?_⟩
      rw [nearestBefore_eq_none_iff.mpr blanks]
      exact nofun
    | @behind _ c gap sign opens blanks hsign =>
      have nearest : nearestBefore (front ++ c :: gap) = some c :=
        nearestBefore_eq_some_iff.mpr ⟨isBlank_of_opensOperand opens, front, gap, rfl, blanks⟩
      refine ⟨front ++ c :: gap, sign, back, by simp, isSign_iff.mp hsign, ?_⟩
      rw [nearest]
      rintro _ ⟨⟩
      exact opensOperand_iff.mp opens
  · intro h
    obtain ⟨front, sign, back, rfl, hsign, opens⟩ := h
    cases nearest : nearestBefore front with
    | none =>
      have blanks := nearestBefore_eq_none_iff.mp nearest
      exact ⟨[], front ++ [sign], back, by simp, .start blanks (isSign_iff.mpr hsign)⟩
    | some c =>
      obtain ⟨-, before, gap, rfl, blanks⟩ := nearestBefore_eq_some_iff.mp nearest
      have opens_c := opensOperand_iff.mpr (opens c nearest)
      exact ⟨before, c :: gap ++ [sign], back, by simp,
        .behind before opens_c blanks (isSign_iff.mpr hsign)⟩

/-- What the pass remembers when it has gone over some characters. -/
def remembered (last : Option Char) (front : List Char) : Option Char :=
  front.foldl (fun last c => if isBlank c then last else some c) last

theorem remembered_eq (last : Option Char) (front : List Char) :
    remembered last front = (nearestBefore front).or last := by
  induction front using List.reverseRecOn with
  | nil => rfl
  | append_singleton front c ih =>
    rw [remembered, List.foldl_concat, ← remembered, ih, nearestBefore_append_singleton]
    split <;> rfl

/-- The pass stops at a sign with nothing remembered or something remembered that opens an
operand. -/
theorem signFollows_iff :
    signFollows last text ↔
      ∃ front sign back, text = front ++ sign :: back ∧ isSign sign ∧
        (remembered last front).all opensOperand := by
  induction text generalizing last with
  | nil => simp [signFollows]
  | cons c text ih =>
    rw [signFollows, Bool.or_eq_true, Bool.and_eq_true, ih]
    constructor
    · intro h
      rcases h with ⟨hsign, opens⟩ | ⟨front, sign, back, rfl, hsign, opens⟩
      · exact ⟨[], c, text, rfl, hsign, opens⟩
      · exact ⟨c :: front, sign, back, rfl, hsign, opens⟩
    · intro h
      obtain ⟨front, sign, back, split, hsign, opens⟩ := h
      cases front with
      | nil =>
        cases split
        exact .inl ⟨hsign, opens⟩
      | cons d front =>
        cases split
        exact .inr ⟨front, sign, back, rfl, hsign, opens⟩

theorem signFollows_none_iff : signFollows none text ↔ HasSignForOperand text := by
  rw [signFollows_iff]
  simp only [remembered_eq, Option.or_none, Option.all_eq_true, opensOperand_iff, isSign_iff]
  rfl

theorem hasUnarySign_iff : hasUnarySign text ↔ HasSignForOperand text :=
  hasUnarySign_iff_match.trans exists_match_iff

instance (text : List Char) : Decidable (HasSignForOperand text) :=
  decidable_of_iff _ hasUnarySign_iff

/-- When the reference has a number and the calculator refuses the text, this is forgiven exactly if
some sign has nothing before it, or one of `-`, `+`, `*`, `/` and `(` as the nearest character that
is not blank. A search for such a sign from any start finds the same texts, and so does the pass
that remembers one character. -/
theorem disagree_forgives_unary_sign (code : String) (value : Number) (message : String) :
    (disagree code (.number value) (.error message) = .ok false ↔ HasSignForOperand code.toList) ∧
      (disagree code (.number value) (.error message) = .ok true ↔
        ¬ HasSignForOperand code.toList) ∧
      ((∃ front found back, code.toList = front ++ found ++ back ∧ UnaryMatch front found) ↔
        HasSignForOperand code.toList) ∧
      (signFollows none code.toList ↔ HasSignForOperand code.toList) := by
  have judged : disagree code (.number value) (.error message) =
      .ok (!hasUnarySign code.toList) := rfl
  rw [judged, ← hasUnarySign_iff]
  refine ⟨?_, ?_, ?_, ?_⟩
  · simp
  · simp
  · exact hasUnarySign_iff_match.symm
  · exact signFollows_none_iff.trans hasUnarySign_iff.symm

example : HasSignForOperand "2*\u2003-3".toList ∧ ¬ HasSignForOperand "(2) -3+4".toList := by
  decide +kernel

end InfixCalculator.Comparison
