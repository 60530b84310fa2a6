import InfixCalculator.Proofs.ScanOutcome

/-! # Spaces between tokens

A space has no tokens of its own, so one more or one less where a text may be cut moves tokens and
faults and does nothing else: `finding` is what a scan comes to but for places, and it stays the
same however often spaces are put in or taken out.
-/
namespace InfixCalculator

namespace Token

variable {front back text text' : List Char} {placed : List PlacedToken} {cause : LexicalCause}
  {index : Nat}

/-- A text without its spaces. -/
def unspaced (text : List Char) : List Char :=
  text.filter (· ≠ ' ')

theorem unspaced_append (front back : List Char) :
    unspaced (front ++ back) = unspaced front ++ unspaced back :=
  List.filter_append front back

/-- What a scan comes to, wherever it lies: the tokens, or the fault and what precedes it, spaces
apart. -/
def finding (text : List Char) : Except (LexicalCause × List Char) (List Token) :=
  match scan 0 text with
  | .ok placed => .ok (placed.map (·.token))
  | .error (cause, index) => .error (cause, unspaced (text.take index))

theorem finding_of_ok (scanned : scan 0 text = .ok placed) :
    finding text = .ok (placed.map (·.token)) := by
  rw [finding, scanned]

theorem finding_of_error (failed : scan 0 text = .error (cause, index)) :
    finding text = .error (cause, unspaced (text.take index)) := by
  rw [finding, failed]

/-- Where a text may be cut, its finding is put together from those of the parts. -/
theorem finding_append (apart : DigitsApart front back) :
    finding (front ++ back) =
      (finding front).bind fun tokens =>
        ((finding back).map (tokens ++ ·)).mapError
          fun (cause, before) => (cause, unspaced front ++ before) := by
  have outcome := scanOutcome_scan front
  cases hfront : scan 0 front with
  | error failure =>
    -- The fault lies in the front, so the back is no part of what precedes it.
    rw [hfront] at outcome
    have within := outcome.2.1.lt_length.le
    rw [finding_of_error (scan_append_error_front apart hfront), finding_of_error hfront,
      List.take_append_of_le_length within]
    rfl
  | ok first =>
    cases hback : scan 0 back with
    | error failure =>
      rw [finding_of_error (scan_append_error_back apart hfront hback), finding_of_ok hfront,
        finding_of_error hback, List.take_length_add_append, unspaced_append]
      rfl
    | ok second =>
      rw [finding_of_ok (scan_append_ok apart hfront hback), finding_of_ok hfront,
        finding_of_ok hback, List.map_append, PlacedToken.map_token_shift]
      rfl

theorem finding_space_cons (text : List Char) : finding (' ' :: text) = finding text := by
  have apart : DigitsApart [' '] text := DigitsApart.of_front (by simp)
  have space : finding [' '] = .ok [] := by rw [finding, scan_space, scan]; rfl
  rw [← List.singleton_append, finding_append apart, space]
  cases finding text <;> rfl

/-- A text and the same with one more space, which is not put inside a run of digits. -/
inductive SpaceInserted : List Char → List Char → Prop
  | between (front back : List Char) (apart : DigitsApart front back) :
      SpaceInserted (front ++ back) (front ++ ' ' :: back)

/-- Spaces are put in and taken out, one after another. None is put inside a run of digits, and none
is taken out that alone keeps two runs apart. -/
def Respaced : List Char → List Char → Prop :=
  Relation.EqvGen SpaceInserted

theorem SpaceInserted.finding_eq (h : SpaceInserted text text') : finding text' = finding text := by
  cases h with
  | between front back apart =>
    have behind : DigitsApart front (' ' :: back) := DigitsApart.of_back (by simp)
    rw [finding_append behind, finding_space_cons, finding_append apart]

theorem Respaced.finding_eq (h : Respaced text text') : finding text' = finding text := by
  induction h with
  | rel text text' step => exact step.finding_eq
  | refl text => rfl
  | symm text text' _ ih => exact ih.symm
  | trans text between text' _ _ ih ih' => exact ih'.trans ih

theorem spells_iff_finding {tokens : List Token} : Spells text tokens ↔ finding text = .ok tokens := by
  unfold Spells
  cases scanned : scan 0 text with
  | error failure => simp [finding_of_error scanned]
  | ok placed => simp [finding_of_ok scanned]

/-- A fault of a text is found again in the other, at the same place but for spaces. -/
theorem Respaced.exists_scan_error (h : Respaced text text')
    (failed : scan 0 text = .error (cause, index)) :
    ∃ index', scan 0 text' = .error (cause, index') ∧
      unspaced (text'.take index') = unspaced (text.take index) := by
  have same := h.finding_eq
  rw [finding_of_error failed] at same
  cases scanned : scan 0 text' with
  | ok placed =>
    rw [finding_of_ok scanned] at same
    cases same
  | error failure =>
    rw [finding_of_error scanned] at same
    obtain ⟨rfl, before⟩ := Prod.ext_iff.mp (Except.error.inj same)
    exact ⟨failure.2, rfl, before⟩

end Token

/-- Where a text is cut between two characters that are not both digits, its tokens are those of the
front and, moved by its length, those of the back. A failure of the front is that of the whole, and
so is one of the back, moved, if the front has tokens. So spaces put in or taken out at such places
change no token and no outcome. A text that has no tokens gets none by them, and is refused for the
same reason at the same character. -/
theorem scanText_append :
    (∀ u v : String, Token.DigitsApart u.toList v.toList →
      (∀ first second, scanText u = .ok first → scanText v = .ok second →
        scanText (u ++ v) = .ok (first ++ second.map (PlacedToken.shift u.length))) ∧
        (∀ error, scanText u = .error error →
          scanText (u ++ v) = .error ⟨error.cause, u ++ v, error.index⟩) ∧
        ∀ first error, scanText u = .ok first → scanText v = .error error →
          scanText (u ++ v) = .error ⟨error.cause, u ++ v, u.length + error.index⟩) ∧
      ∀ text text' : String, Token.Respaced text.toList text'.toList →
        (∀ tokens, readTokens text = .ok tokens →
          readTokens text' = .ok tokens ∧ evaluateText text' = evaluateText text) ∧
          ∀ error, scanText text = .error error →
            evaluateText text = .error (.lexical error) ∧
              ∃ error', evaluateText text' = .error (.lexical error') ∧
                error'.cause = error.cause ∧
                Token.unspaced (text'.toList.take error'.index) =
                  Token.unspaced (text.toList.take error.index) := by
  constructor
  · intro u v apart
    simp only [scanText_eq_ok_iff, scanText_eq_error_iff, String.toList_append,
      ← String.length_toList, and_true]
    refine ⟨?_, ?_, ?_⟩
    · intro first second scanned scanned'
      exact Token.scan_append_ok apart scanned scanned'
    · intro error failed
      exact Token.scan_append_error_front apart failed.1
    · intro first error scanned failed
      exact Token.scan_append_error_back apart scanned failed.1
  · intro text text' respaced
    constructor
    · intro tokens scanned
      have read : readTokens text' = .ok tokens := by
        rw [readTokens_eq_ok_iff, Token.spells_iff_finding] at scanned ⊢
        rw [respaced.finding_eq, scanned]
      exact ⟨read, by rw [evaluateText_of_readTokens read, evaluateText_of_readTokens scanned]⟩
    · intro error failed
      refine ⟨evaluateText_of_scanText_error failed, ?_⟩
      obtain ⟨index', failed', before⟩ :=
        respaced.exists_scan_error (scanText_eq_error_iff.mp failed).1
      have failed' : scanText text' = .error ⟨error.cause, text', index'⟩ :=
        scanText_eq_error_iff.mpr ⟨failed', rfl⟩
      exact ⟨_, evaluateText_of_scanText_error failed', rfl, before⟩

theorem scanText_append_at_seams :
    scanText ("12" ++ " 3") = .ok [⟨.number 12, 0⟩, ⟨.number 3, 3⟩] ∧
      scanText ("1&" ++ "2x") = .error ⟨.unexpectedCharacter '&', "1&2x", 1⟩ ∧
      scanText ("(1" ++ "*x") = .error ⟨.unexpectedCharacter 'x', "(1*x", 3⟩ ∧
      evaluateText "7/ 2" = evaluateText "7 /2" ∧
      ∃ error, evaluateText "1x" = .error (.lexical error) ∧
        error.cause = .unexpectedCharacter 'x' := by
  obtain ⟨cut, respaced⟩ := scanText_append
  refine ⟨?_, ?_, ?_, ?_, ?_⟩
  · have apart : Token.DigitsApart "12".toList " 3".toList := Token.DigitsApart.of_back (by simp)
    exact (cut "12" " 3" apart).1 [⟨.number 12, 0⟩] [⟨.number 3, 1⟩] (by decide +kernel)
      (by decide +kernel)
  · have apart : Token.DigitsApart "1&".toList "2x".toList := Token.DigitsApart.of_front (by simp)
    exact (cut "1&" "2x" apart).2.1 ⟨.unexpectedCharacter '&', "1&", 1⟩ (by decide +kernel)
  · have apart : Token.DigitsApart "(1".toList "*x".toList := Token.DigitsApart.of_back (by simp)
    exact (cut "(1" "*x" apart).2.2 [⟨.leftParen, 0⟩, ⟨.number 1, 1⟩]
      ⟨.unexpectedCharacter 'x', "*x", 1⟩ (by decide +kernel) (by decide +kernel)
  · have taken_out : Token.SpaceInserted "7/2".toList "7 /2".toList :=
      .between ['7'] ['/', '2'] (Token.DigitsApart.of_back (by simp))
    have put_in : Token.SpaceInserted "7/2".toList "7/ 2".toList :=
      .between ['7', '/'] ['2'] (Token.DigitsApart.of_front (by simp))
    have scanned : readTokens "7 /2" = .ok [.number 7, .operator .div, .number 2] := by
      decide +kernel
    have moved : Token.Respaced "7 /2".toList "7/ 2".toList :=
      (Relation.EqvGen.rel _ _ taken_out).symm.trans _ _ _ (.rel _ _ put_in)
    exact ((respaced "7 /2" "7/ 2" moved).1 _ scanned).2
  · have taken_out : Token.SpaceInserted "1x".toList "1 x".toList :=
      .between ['1'] ['x'] (Token.DigitsApart.of_back (by simp))
    have closed : Token.Respaced "1 x".toList "1x".toList :=
      (Relation.EqvGen.rel _ _ taken_out).symm
    obtain ⟨-, error, refused, cause, -⟩ := (respaced "1 x" "1x" closed).2
      ⟨.unexpectedCharacter 'x', "1 x", 2⟩ (by decide +kernel)
    exact ⟨error, refused, cause⟩

end InfixCalculator
