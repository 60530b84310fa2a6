import InfixCalculator.Token.Placement
import Mathlib

/-! # A text has at most one placement of tokens

Two longest runs of digits are the same or have nothing in common, so no token reaches the place of
another. What is not covered is a space. Hence a placement has every token that the text spells, in
the order of their places, and there is no second one. `IsPlacementFrom` is a placement of the back
part of a text, made token by token.
-/
namespace InfixCalculator

namespace Token

/-- A digit stands at the index. -/
def DigitAt (text : List Char) (i : Nat) : Prop :=
  ∃ c, text[i]? = some c ∧ c.isDigit

/-- A longest run of digits: none stands right before it or right behind it. -/
structure IsDigitRun (text : List Char) (start length : Nat) : Prop where
  nonempty : 0 < length
  digits : ∀ i, start ≤ i → i < start + length → DigitAt text i
  starts : ∀ before, start = before + 1 → ¬ DigitAt text before
  ends : ¬ DigitAt text (start + length)

variable {text : List Char} {start length i : Nat} {c : Char}

theorem digitAt_iff_of_getElem? (h : text[i]? = some c) : DigitAt text i ↔ c.isDigit := by
  simp [DigitAt, h]

theorem digitAt_drop_iff : DigitAt (text.drop start) i ↔ DigitAt text (start + i) := by
  simp [DigitAt]

theorem digitAt_of_lt_digitRun (h : i < (digitRun text).1.length) : DigitAt text i := by
  have inside : ((digitRun text).1 ++ (digitRun text).2)[i]? = some (digitRun text).1[i] := by
    rw [List.getElem?_append_left h, List.getElem?_eq_getElem h]
  rw [digitRun_append] at inside
  exact ⟨_, inside, isDigit_of_mem_digitRun (List.getElem_mem h)⟩

theorem not_isDigit_of_head?_digitRun (h : (digitRun text).2.head? = some c) : ¬ c.isDigit := by
  have stop := List.head?_dropWhile_not Char.isDigit text
  unfold digitRun at h
  rw [h] at stop
  exact Bool.eq_false_iff.mp stop

theorem not_digitAt_length_digitRun : ¬ DigitAt text (digitRun text).1.length := by
  rintro ⟨c, hc, digit⟩
  have behind : ((digitRun text).1 ++ (digitRun text).2)[(digitRun text).1.length]? = some c := by
    rw [digitRun_append]
    exact hc
  rw [List.getElem?_append_right le_rfl, Nat.sub_self, ← List.head?_eq_getElem?] at behind
  exact not_isDigit_of_head?_digitRun behind digit

theorem IsDigitRun.length_eq (h : IsDigitRun text start length) :
    (digitRun (text.drop start)).1.length = length := by
  rcases Nat.lt_trichotomy (digitRun (text.drop start)).1.length length with lt | eq | gt
  · have := h.digits (start + (digitRun (text.drop start)).1.length) (by omega) (by omega)
    exact absurd (digitAt_drop_iff.mpr this) not_digitAt_length_digitRun
  · exact eq
  · exact absurd (digitAt_drop_iff.mp (digitAt_of_lt_digitRun gt)) h.ends

theorem isDigitRun_of_starts (starts : ∀ before, start = before + 1 → ¬ DigitAt text before)
    (nonempty : (digitRun (text.drop start)).1 ≠ []) :
    IsDigitRun text start (digitRun (text.drop start)).1.length where
  nonempty := List.length_pos_iff.mpr nonempty
  digits i le lt := by
    obtain ⟨offset, rfl⟩ := Nat.exists_eq_add_of_le le
    exact digitAt_drop_iff.mp (digitAt_of_lt_digitRun (by omega))
  starts := starts
  ends := fun h => not_digitAt_length_digitRun (digitAt_drop_iff.mpr h)

/-- Two longest runs of digits never overlap but in whole. -/
theorem IsDigitRun.start_eq {start' length' : Nat} (h : IsDigitRun text start length)
    (h' : IsDigitRun text start' length') (le : start ≤ start') (lt : start' < start + length) :
    start' = start := by
  by_contra ne
  obtain ⟨before, rfl⟩ := Nat.exists_eq_succ_of_ne_zero (show start' ≠ 0 by omega)
  exact h'.starts before rfl (h.digits before (by omega) (by omega))

end Token

namespace PlacedToken

open Token

variable {text : List Char} {t u : PlacedToken}

theorem extent_symbol (text : List Char) (symbol : t.token.kind ≠ .number) : t.extent text = 1 := by
  obtain ⟨token, position⟩ := t
  cases token with
  | number value => exact absurd rfl symbol
  | _ => rfl

theorem extent_number (text : List Char) (number : t.token.kind = .number) :
    t.extent text = (digitRun (text.drop t.position)).1.length := by
  obtain ⟨token, position⟩ := t
  cases token with
  | number value => rfl
  | _ => cases number

theorem spelled_symbol_iff (symbol : t.token.kind ≠ .number) :
    t.Spelled text ↔ ∃ c, text[t.position]? = some c ∧ ofSymbol? c = some t.token := by
  rw [← Option.bind_eq_some_iff]
  obtain ⟨token, position⟩ := t
  cases token with
  | number value => exact absurd rfl symbol
  | _ => rfl

theorem spelled_number_iff {value position : Nat} :
    (⟨.number value, position⟩ : PlacedToken).Spelled text ↔
      IsDigitRun text position (digitRun (text.drop position)).1.length ∧
        Nat.ofDigitChars 10 (digitRun (text.drop position)).1 0 = value := by
  have starts_iff : (∀ before, position = before + 1 → ∀ c, text[before]? = some c →
      c.isDigit = false) ↔ ∀ before, position = before + 1 → ¬ DigitAt text before := by
    simp [DigitAt]
  simp only [Spelled, starts_iff]
  constructor
  · rintro ⟨nonempty, read, starts⟩
    exact ⟨isDigitRun_of_starts starts nonempty, read⟩
  · rintro ⟨run, read⟩
    exact ⟨List.length_pos_iff.mp run.nonempty, read, run.starts⟩

theorem Spelled.isDigitRun (spelled : t.Spelled text) (number : t.token.kind = .number) :
    IsDigitRun text t.position (t.extent text) := by
  rw [extent_number text number]
  obtain ⟨token, position⟩ := t
  cases token with
  | number value => exact (spelled_number_iff.mp spelled).1
  | _ => cases number

theorem Spelled.extent_pos (spelled : t.Spelled text) : 0 < t.extent text := by
  by_cases number : t.token.kind = .number
  · exact (spelled.isDigitRun number).nonempty
  · rw [extent_symbol text number]
    exact Nat.one_pos

/-- A number stands at a digit, every other token at its symbol. -/
theorem Spelled.exists_getElem? (spelled : t.Spelled text) :
    ∃ c, text[t.position]? = some c ∧ c ≠ ' ' ∧ (c.isDigit ↔ t.token.kind = .number) := by
  by_cases number : t.token.kind = .number
  · have run := spelled.isDigitRun number
    obtain ⟨c, hc, digit⟩ := run.digits t.position le_rfl (Nat.lt_add_of_pos_right run.nonempty)
    refine ⟨c, hc, ?_, by simp [digit, number]⟩
    rintro rfl
    cases digit
  · obtain ⟨c, hc, symbol⟩ := (spelled_symbol_iff number).mp spelled
    refine ⟨c, hc, ?_, by simp [not_isDigit_of_ofSymbol? symbol, number]⟩
    rintro rfl
    cases symbol

theorem Spelled.eq_of_position (ht : t.Spelled text) (hu : u.Spelled text)
    (same : t.position = u.position) : t = u := by
  obtain ⟨c, hc, -, digit_iff⟩ := ht.exists_getElem?
  obtain ⟨d, hd, -, digit_iff'⟩ := hu.exists_getElem?
  rw [same, hd] at hc
  cases hc
  have same_kind := digit_iff.symm.trans digit_iff'
  obtain ⟨token, position⟩ := t
  obtain ⟨token', position'⟩ := u
  obtain rfl : position = position' := same
  by_cases number : token.kind = .number
  · cases token <;> cases number
    cases token' <;> cases same_kind.mp rfl
    rw [← (spelled_number_iff.mp ht).2, ← (spelled_number_iff.mp hu).2]
  · have number' : token'.kind ≠ .number := fun h => number (same_kind.mpr h)
    obtain ⟨c, hc, symbol⟩ := (spelled_symbol_iff number).mp ht
    obtain ⟨c', hc', symbol'⟩ := (spelled_symbol_iff number').mp hu
    rw [hc] at hc'
    cases hc'
    rw [symbol] at symbol'
    cases symbol'
    rfl

/-- Where a token stands, no other token reaches. -/
theorem Spelled.eq_of_covers (ht : t.Spelled text) (hu : u.Spelled text)
    (covers : u.Covers text t.position) : t = u := by
  refine ht.eq_of_position hu ?_
  obtain ⟨le, lt⟩ := covers
  by_cases number : u.token.kind = .number
  · have run := hu.isDigitRun number
    obtain ⟨c, hc, -, digit_iff⟩ := ht.exists_getElem?
    have digit := (digitAt_iff_of_getElem? hc).mp (run.digits t.position le lt)
    exact run.start_eq (ht.isDigitRun (digit_iff.mp digit)) le lt
  · rw [extent_symbol text number] at lt
    omega

end PlacedToken

namespace IsPlacement

variable {text : List Char} {tokens others : List PlacedToken} {t : PlacedToken}

/-- A placement has every token that the text spells anywhere. -/
theorem mem_iff_spelled (h : IsPlacement text tokens) : t ∈ tokens ↔ t.Spelled text := by
  refine ⟨h.spelled t, fun spelled => ?_⟩
  obtain ⟨c, hc, not_space, -⟩ := spelled.exists_getElem?
  have within := (List.getElem?_eq_some_iff.mp hc).1
  by_contra missing
  have uncovered : ∀ u ∈ tokens, ¬ u.Covers text t.position := by
    intro u hu covers
    have same := spelled.eq_of_covers (h.spelled u hu) covers
    exact missing (same ▸ hu)
  have space := h.spaces t.position within uncovered
  rw [hc] at space
  cases space
  exact not_space rfl

theorem increasing (h : IsPlacement text tokens) :
    tokens.Pairwise (·.position < ·.position) := by
  refine h.apart.imp_of_mem ?_
  intro t u ht _ apart
  have := (h.spelled t ht).extent_pos
  omega

protected theorem unique (h : IsPlacement text tokens) (h' : IsPlacement text others) :
    others = tokens := by
  have : Std.Irrefl fun t u : PlacedToken => t.position < u.position :=
    ⟨fun t => Nat.lt_irrefl t.position⟩
  have : Std.Antisymm fun t u : PlacedToken => t.position < u.position :=
    ⟨fun t u lt gt => absurd gt (Nat.lt_asymm lt)⟩
  refine h'.increasing.eq_of_mem_iff h.increasing fun t => ?_
  rw [h'.mem_iff_spelled, h.mem_iff_spelled]

end IsPlacement

/-- A placement of the tokens from `start` on. -/
structure IsPlacementFrom (start : Nat) (text : List Char) (tokens : List PlacedToken) : Prop where
  spelled : ∀ t ∈ tokens, t.Spelled text
  behind : ∀ t ∈ tokens, start ≤ t.position
  apart : tokens.Pairwise fun t u => t.position + t.extent text ≤ u.position
  spaces : ∀ i, start ≤ i → i < text.length → (∀ t ∈ tokens, ¬ t.Covers text i) →
    text[i]? = some ' '

namespace IsPlacementFrom

variable {start : Nat} {text : List Char} {tokens : List PlacedToken} {t : PlacedToken}

theorem nil (past : text.length ≤ start) : IsPlacementFrom start text [] where
  spelled := by simp
  behind := by simp
  apart := .nil
  spaces := fun i le lt _ => absurd lt (by omega)

theorem space (h : IsPlacementFrom (start + 1) text tokens) (found : text[start]? = some ' ') :
    IsPlacementFrom start text tokens where
  spelled := h.spelled
  behind := fun t ht => Nat.le_of_succ_le (h.behind t ht)
  apart := h.apart
  spaces := by
    intro i le lt uncovered
    rcases Nat.eq_or_lt_of_le le with rfl | le
    · exact found
    · exact h.spaces i le lt uncovered

theorem cons (h : IsPlacementFrom (t.position + t.extent text) text tokens)
    (spelled : t.Spelled text) : IsPlacementFrom t.position text (t :: tokens) where
  spelled := List.forall_mem_cons.mpr ⟨spelled, h.spelled⟩
  behind := by
    refine List.forall_mem_cons.mpr ⟨le_rfl, fun u hu => ?_⟩
    exact Nat.le_of_add_right_le (h.behind u hu)
  apart := .cons h.behind h.apart
  spaces := by
    intro i le lt uncovered
    obtain ⟨not_here, uncovered⟩ := List.forall_mem_cons.mp uncovered
    refine h.spaces i ?_ lt uncovered
    exact Nat.not_lt.mp fun inside => not_here ⟨le, inside⟩

theorem isPlacement (h : IsPlacementFrom 0 text tokens) : IsPlacement text tokens where
  spelled := h.spelled
  apart := h.apart
  spaces := fun i => h.spaces i (Nat.zero_le i)

end IsPlacementFrom

end InfixCalculator
