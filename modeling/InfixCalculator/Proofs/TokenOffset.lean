import InfixCalculator.Proofs.CanonicalText
import InfixCalculator.Proofs.Excerpt

/-! # The place of a token in canonical text

The canonical text of some tokens followed by others is the text of the former, a gap that depends
on the two tokens that meet, and the text of the latter: `chars_append_cons`. So the text of the
first few tokens begins the text of all, and a token is found where the text of those before it and
the gap end, which is where the caret of a syntax error stands.
-/
namespace InfixCalculator.Token

variable {front back tokens : List Token} {t : Token} {c : Char} {index : Nat}

/-- What stands between some tokens and the next. -/
def gap (front : List Token) (next : Token) : List Char :=
  match front.getLast? with
  | none => []
  | some last => separator last next

theorem gap_singleton (t next : Token) : gap [t] next = separator t next := rfl

theorem gap_cons (t : Token) (ne : front ≠ []) (next : Token) :
    gap (t :: front) next = gap front next := by
  obtain ⟨u, front, rfl⟩ := List.exists_cons_of_ne_nil ne
  rw [gap, List.getLast?_cons_cons]
  rfl

theorem chars_singleton (t : Token) : chars [t] = t.lexeme :=
  chars_eq_pairwiseChars [t]

theorem chars_cons_cons (t u : Token) (tokens : List Token) :
    chars (t :: u :: tokens) = t.lexeme ++ separator t u ++ chars (u :: tokens) := by
  rw [chars_eq_pairwiseChars, pairwiseChars, chars_eq_pairwiseChars]

theorem chars_append_cons (front : List Token) (t : Token) (back : List Token) :
    chars (front ++ t :: back) = chars front ++ gap front t ++ chars (t :: back) := by
  induction front with
  | nil => rfl
  | cons u front ih =>
    -- The gap is what the last token of the front asks for, so a single one is a case apart.
    cases front with
    | nil => rw [gap_singleton, chars_singleton, List.singleton_append, chars_cons_cons]
    | cons v front =>
      rw [gap_cons u (by simp), chars_cons_cons u v front]
      simp only [List.cons_append] at ih ⊢
      rw [chars_cons_cons, ih]
      simp only [List.append_assoc]

theorem lexeme_isPrefix_chars (t : Token) (back : List Token) : t.lexeme <+: chars (t :: back) := by
  cases back with
  | nil => rw [chars_singleton]
  | cons u back =>
    rw [chars_cons_cons, List.append_assoc]
    exact List.prefix_append _ _

theorem chars_isPrefix_append (front back : List Token) : chars front <+: chars (front ++ back) := by
  cases back with
  | nil => rw [List.append_nil]
  | cons t back =>
    rw [chars_append_cons, List.append_assoc]
    exact List.prefix_append _ _

theorem eq_of_mem_separator {u : Token} (h : c ∈ separator t u) : c = ' ' := by
  unfold separator at h
  split at h
  · cases h
  · cases h
  · exact List.mem_singleton.mp h

theorem mem_chars (h : c ∈ chars tokens) : c = ' ' ∨ ∃ t ∈ tokens, c ∈ t.lexeme := by
  induction tokens with
  | nil => cases h
  | cons t tokens ih =>
    cases tokens with
    | nil =>
      rw [chars_singleton] at h
      exact .inr ⟨t, List.mem_singleton_self t, h⟩
    | cons u tokens =>
      rw [chars_cons_cons, List.mem_append, List.mem_append] at h
      rcases h with (here | between) | behind
      · exact .inr ⟨t, List.mem_cons_self, here⟩
      · exact .inl (eq_of_mem_separator between)
      · rcases ih behind with space | ⟨v, hv, hc⟩
        · exact .inl space
        · exact .inr ⟨v, List.mem_cons_of_mem t hv, hc⟩

theorem newline_notMem_chars (tokens : List Token) : '\n' ∉ chars tokens := by
  intro h
  rcases mem_chars h with space | ⟨t, -, ht⟩
  · cases space
  · rw [mem_lexeme_iff rfl] at ht
    cases ht

theorem offset_append_cons (front : List Token) (t : Token) (back : List Token) :
    offset (front ++ t :: back) front.length = (chars front ++ gap front t).length := by
  have here : (front ++ t :: back)[front.length]? = some t := by simp
  have cut : (front ++ t :: back).take (front.length + 1) = front ++ [t] := by
    rw [List.take_length_add_append, List.take_succ_cons, List.take_zero]
  simp only [offset, here, cut]
  rw [chars_append_cons, chars_singleton, List.length_append, Nat.add_sub_cancel]

/-- A token is found at its offset, which is where the tokens before it and the gap end. -/
theorem chars_at_offset (found : tokens[index]? = some t) :
    ∃ before behind,
      before = chars (tokens.take index) ++ gap (tokens.take index) t ∧
        chars tokens = before ++ t.lexeme ++ behind ∧ offset tokens index = before.length := by
  obtain ⟨within, rfl⟩ := List.getElem?_eq_some_iff.mp found
  have cut : tokens = tokens.take index ++ tokens[index] :: tokens.drop (index + 1) := by
    rw [List.getElem_cons_drop, List.take_append_drop]
  have length : (tokens.take index).length = index := List.length_take_of_le within.le
  obtain ⟨behind, hbehind⟩ := lexeme_isPrefix_chars tokens[index] (tokens.drop (index + 1))
  refine ⟨_, behind, rfl, ?_, ?_⟩
  · rw [List.append_assoc, hbehind, ← chars_append_cons, ← cut]
  · rw [← offset_append_cons, ← cut, length]

theorem offset_of_length_le (past : tokens.length ≤ index) :
    offset tokens index = (chars tokens).length + if tokens.isEmpty then 0 else 1 := by
  rw [offset, List.getElem?_eq_none past]

theorem separator_eq_ite (t u : Token) :
    separator t u = if t = .leftParen ∨ u = .rightParen then [] else [' '] := by
  cases t <;> cases u <;> rfl

/-- Canonical text is the lexemes with one space between neighbours, but none after an opening and
none before a closing parenthesis. The text of the first few tokens begins the text of all. -/
theorem canonicalText_joins_neighbours (tokens : List Token) :
    canonicalText tokens = String.ofList
        (joinBy (fun t u => if t = .leftParen ∨ u = .rightParen then [] else [' ']) tokens) ∧
      ∀ count, (canonicalText (tokens.take count)).toList <+: (canonicalText tokens).toList := by
  constructor
  · have rule : (fun t u : Token => if t = .leftParen ∨ u = .rightParen then [] else [' ']) =
        separator := funext fun t => funext fun u => (separator_eq_ite t u).symm
    rw [rule, ← pairwiseChars_eq_joinBy, ← chars_eq_pairwiseChars]
    rfl
  · intro count
    have front := chars_isPrefix_append (tokens.take count) (tokens.drop count)
    rw [List.take_append_drop] at front
    simpa [canonicalText] using front

/-- The display of a syntax error has three lines. The second shows what lies within ten characters
of the token to blame, and the caret stands where that very token starts, so the excerpt goes on
with its lexeme, or as much of it as is shown. Past the last token the caret stands one blank behind
the excerpt, or at the start of an empty one if there are no tokens. -/
theorem pointAt_under_token {summary : String} (one_line : '\n' ∉ summary.toList)
    (tokens : List Token) (index : Nat) :
    ∃ (line : List Char) (column : Nat),
      (pointAt summary tokens index).toList.splitOn '\n' =
          [("[Parser error] " ++ summary).toList, line, List.replicate column ' ' ++ ['^']] ∧
        (∀ t, tokens[index]? = some t →
          ∃ before behind,
            before = chars (tokens.take index) ++ gap (tokens.take index) t ∧
              chars tokens = before ++ t.lexeme ++ behind ∧
              line.take column =
                (if 10 < before.length then "...".toList else []) ++ before.rtake 10 ∧
              line.drop column = (t.lexeme ++ behind).take 10 ++
                (if 10 < (t.lexeme ++ behind).length then "...".toList else []) ∧
              column < line.length ∧ t.lexeme.take 10 <+: line.drop column) ∧
        (tokens.length ≤ index → tokens ≠ [] →
          line = (if 9 < (chars tokens).length then "...".toList else []) ++
              (chars tokens).rtake 9 ∧
            column = line.length + 1) ∧
        (tokens = [] → line = [] ∧ column = 0) := by
  have header_line : '\n' ∉ ("[Parser error] " ++ summary).toList := by
    simp [one_line]
  refine ⟨Caret.excerpt (chars tokens) (offset tokens index), Caret.column (offset tokens index),
    Caret.splitOn_display header_line (newline_notMem_chars tokens) _, ?_, ?_, ?_⟩
  · intro t found
    -- The text is cut where the token starts, and the excerpt shows both sides of the cut.
    obtain ⟨before, behind, hbefore, text, place⟩ := chars_at_offset found
    refine ⟨before, behind, hbefore, text, ?_⟩
    rw [place, text, List.append_assoc]
    have shown_before := Caret.take_column_excerpt before (t.lexeme ++ behind)
    have shown_behind := Caret.drop_column_excerpt before (t.lexeme ++ behind)
    have inside : before.length < (before ++ (t.lexeme ++ behind)).length := by
      have := List.length_pos_iff.mpr t.lexeme_ne_nil
      simp only [List.length_append]
      omega
    refine ⟨shown_before, shown_behind, Caret.column_lt_length_excerpt inside, ?_⟩
    rw [shown_behind]
    exact ((List.prefix_append _ _).take 10).trans (List.prefix_append _ _)
  · intro past some_token
    have behind_text : offset tokens index = (chars tokens).length + 1 := by
      rw [offset_of_length_le past, if_neg (by simpa using some_token)]
    rw [behind_text]
    exact ⟨Caret.excerpt_length_succ _, Caret.column_length_succ _⟩
  · rintro rfl
    exact ⟨rfl, rfl⟩

theorem pointAt_under_token_repeated :
    let tokens := [.leftParen, .number 12345678901, .operator .add, .leftParen, .rightParen,
      .leftParen, .rightParen]
    let header := "[Parser error] Fault".toList
    (∃ (line : List Char) (column : Nat),
      (pointAt "Fault" tokens 5).toList.splitOn '\n' =
          [header, line, List.replicate column ' ' ++ ['^']] ∧
        line.take column = "...8901 + () ".toList ∧ line.drop column = "()".toList) ∧
      (pointAt "Fault" tokens 9).toList.splitOn '\n' =
        [header, "...1 + () ()".toList, List.replicate 13 ' ' ++ ['^']] ∧
      (pointAt "Fault" [] 0).toList.splitOn '\n' = [header, [], ['^']] := by
  intro tokens header
  have one_line : '\n' ∉ "Fault".toList := by decide
  have text : chars tokens = "(12345678901 + () ()".toList := by decide
  refine ⟨?_, ?_, ?_⟩
  · obtain ⟨line, column, lines, inside, -, -⟩ := pointAt_under_token one_line tokens 5
    obtain ⟨before, behind, hbefore, split, shown_before, shown_behind, -, -⟩ :=
      inside .leftParen rfl
    obtain rfl : before = "(12345678901 + () ".toList := hbefore.trans (by decide)
    obtain rfl : behind = [')'] := List.append_cancel_left (split.symm.trans text)
    exact ⟨line, column, lines, shown_before, shown_behind⟩
  · obtain ⟨line, column, lines, -, past, -⟩ := pointAt_under_token one_line tokens 9
    obtain ⟨rfl, rfl⟩ := past (by decide) (by decide)
    rw [text] at lines
    exact lines
  · obtain ⟨line, column, lines, -, -, none⟩ := pointAt_under_token one_line [] 0
    obtain ⟨rfl, rfl⟩ := none rfl
    exact lines

end InfixCalculator.Token
