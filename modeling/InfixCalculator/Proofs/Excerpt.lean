import InfixCalculator.Text.Caret
import Mathlib

/-! # The character above the caret

A source cut at the fault shows what an excerpt is: the end of the front, the beginning of the back,
and dots on a side where more is left. The caret stands where the two meet. A fault past the end of
the source has an excerpt without a back, and the caret stands as far behind it as the excerpt
reaches.
-/
namespace InfixCalculator.Caret

/-- The dots for what is cut off on the left. -/
def leadingDots (index : Nat) : List Char :=
  if reach < index then ellipsis else []

/-- The dots for what is cut off on the right. -/
def trailingDots (source : List Char) (index : Nat) : List Char :=
  if index + reach < source.length then ellipsis else []

theorem excerpt_eq (source : List Char) (index : Nat) :
    excerpt source index =
      leadingDots index ++ window source index ++ trailingDots source index := rfl

theorem leadingDots_sublist (index : Nat) : (leadingDots index).Sublist ellipsis := by
  unfold leadingDots
  split_ifs
  · exact List.Sublist.refl _
  · exact List.nil_sublist _

theorem trailingDots_sublist (source : List Char) (index : Nat) :
    (trailingDots source index).Sublist ellipsis := by
  unfold trailingDots
  split_ifs
  · exact List.Sublist.refl _
  · exact List.nil_sublist _

theorem column_eq (index : Nat) : column index = (leadingDots index).length + min index reach := by
  unfold column leadingDots
  split_ifs <;> simp [Nat.add_comm]

theorem window_eq_extract (source : List Char) (index : Nat) :
    window source index = source.extract (index - reach) (min source.length (index + reach)) := by
  rw [List.extract_eq_take_drop, ← List.drop_take, window, Nat.min_comm,
    ← List.take_eq_take_min]

/-- The excerpt of a source that is cut at the fault. -/
theorem excerpt_append (front back : List Char) :
    excerpt (front ++ back) front.length =
      (leadingDots front.length ++ front.rtake reach) ++
        (back.take reach ++ trailingDots (front ++ back) front.length) := by
  have shown : window (front ++ back) front.length = front.rtake reach ++ back.take reach := by
    have within : front.length - reach ≤ front.length := Nat.sub_le _ _
    rw [window, List.take_length_add_append, List.drop_append_of_le_length within, List.rtake]
  rw [excerpt_eq, shown]
  simp only [List.append_assoc]

theorem column_length (front : List Char) :
    column front.length = (leadingDots front.length ++ front.rtake reach).length := by
  rw [column_eq, List.length_append, List.rtake, List.length_drop]
  omega

theorem trailingDots_append (front back : List Char) :
    trailingDots (front ++ back) front.length = if reach < back.length then ellipsis else [] := by
  simp [trailingDots]

/-- What the excerpt holds up to the caret is the end of the front. -/
theorem take_column_excerpt (front back : List Char) :
    (excerpt (front ++ back) front.length).take (column front.length) =
      leadingDots front.length ++ front.rtake reach := by
  rw [excerpt_append, column_length, List.take_left]

/-- What it holds from the caret on is the beginning of the back. -/
theorem drop_column_excerpt (front back : List Char) :
    (excerpt (front ++ back) front.length).drop (column front.length) =
      back.take reach ++ if reach < back.length then ellipsis else [] := by
  rw [excerpt_append, column_length, List.drop_left, trailingDots_append]

variable {source : List Char} {index : Nat}

/-- Behind the end of the source the excerpt has no back. -/
theorem excerpt_of_length_le (past : source.length ≤ index) :
    excerpt source index = leadingDots index ++ source.drop (index - reach) := by
  have uncut : ¬ index + reach < source.length := by omega
  rw [excerpt_eq, trailingDots, if_neg uncut, List.append_nil, window,
    List.take_of_length_le (Nat.le_add_right_of_le past)]

theorem column_of_length_le (past : source.length ≤ index) :
    column index = (excerpt source index).length + min (index - source.length) reach := by
  rw [column_eq, excerpt_of_length_le past, List.length_append, List.length_drop]
  omega

/-- The excerpt for one place behind the end. -/
theorem excerpt_length_succ (source : List Char) :
    excerpt source (source.length + 1) =
      (if 9 < source.length then ellipsis else []) ++ source.rtake 9 := by
  have cut : reach < source.length + 1 ↔ 9 < source.length := Nat.succ_lt_succ_iff
  have start : source.length + 1 - reach = source.length - 9 := Nat.add_sub_add_right _ 1 9
  rw [excerpt_of_length_le (Nat.le_add_right source.length 1), leadingDots, List.rtake, start]
  simp only [cut]

theorem column_length_succ (source : List Char) :
    column (source.length + 1) = (excerpt source (source.length + 1)).length + 1 := by
  rw [column_of_length_le (Nat.le_add_right source.length 1), Nat.add_sub_cancel_left]
  rfl

theorem length_excerpt_le (source : List Char) (index : Nat) :
    (excerpt source index).length ≤ 2 * reach + 2 * ellipsis.length := by
  have leading := (leadingDots_sublist index).length_le
  have trailing := (trailingDots_sublist source index).length_le
  rw [excerpt_eq, List.length_append, List.length_append, length_window]
  omega

/-- The caret is as far behind the dots as the fault is behind the first character shown. -/
theorem column_eq_add (index : Nat) :
    column index = (leadingDots index).length + (index - (index - reach)) := by
  rw [column_eq]
  omega

theorem column_lt_of_lt (inside : index < source.length) :
    column index < (leadingDots index).length + (window source index).length := by
  rw [column_eq, length_window]
  simp only [reach]
  omega

theorem column_lt_length_excerpt (inside : index < source.length) :
    column index < (excerpt source index).length := by
  have under_window := column_lt_of_lt inside
  rw [excerpt_eq, List.length_append, List.length_append]
  omega

theorem mem_excerpt {c : Char} (h : c ∈ excerpt source index) : c ∈ source ∨ c ∈ ellipsis := by
  rw [excerpt_eq, List.mem_append, List.mem_append] at h
  rcases h with (leading | shown) | trailing
  · exact .inr ((leadingDots_sublist index).subset leading)
  · exact .inl (List.mem_of_mem_take (List.mem_of_mem_drop shown))
  · exact .inr ((trailingDots_sublist source index).subset trailing)

/-- A display of one line of text has three lines. -/
theorem splitOn_display {header : String} (header_line : '\n' ∉ header.toList)
    (source_line : '\n' ∉ source) (index : Nat) :
    (display header source index).toList.splitOn '\n' =
      [header.toList, excerpt source index, List.replicate (column index) ' ' ++ ['^']] := by
  have lines : (display header source index).toList =
      ['\n'].intercalate
        [header.toList, excerpt source index, List.replicate (column index) ' ' ++ ['^']] := by
    simp [display, List.intercalate]
  rw [lines]
  refine List.splitOn_intercalate '\n' ?_ (by simp)
  intro line hline
  simp only [List.mem_cons, List.not_mem_nil, or_false] at hline
  rcases hline with rfl | rfl | rfl
  · exact header_line
  · intro h
    rcases mem_excerpt h with shown | dot
    · exact source_line shown
    · revert dot
      decide
  · simp

/-- Header, body and caret are on lines of their own. The body is what lies within ten characters of
the fault, with dots on a side exactly if something is cut off there. The caret stands under the
character at fault, never under a dot, and past the end of the source as far behind the body as the
fault lies behind the source, but no further than ten. -/
theorem display_points_at_fault (header : String) (source : List Char) (index : Nat) :
    ∃ (leading shown trailing : List Char) (column : Nat),
      let body := leading ++ shown ++ trailing
      display header source index =
          header ++ "\n" ++ String.ofList body ++ "\n" ++
            String.ofList (List.replicate column ' ') ++ "^" ∧
        leading = (if 10 < index then "...".toList else []) ∧
        shown = source.extract (index - 10) (min source.length (index + 10)) ∧
        trailing = (if index + 10 < source.length then "...".toList else []) ∧
        (index < source.length →
          column = leading.length + (index - (index - 10)) ∧
            column < leading.length + shown.length ∧ body[column]? = source[index]?) ∧
        (source.length ≤ index → column = body.length + min (index - source.length) 10) ∧
        body.length ≤ 26 := by
  refine ⟨leadingDots index, window source index, trailingDots source index, column index, rfl,
    rfl, window_eq_extract source index, rfl, ?_, ?_, ?_⟩
  · intro inside
    exact ⟨column_eq_add index, column_lt_of_lt inside, excerpt_getElem?_column inside⟩
  · intro past
    exact column_of_length_le past
  · exact length_excerpt_le source index

theorem display_points_at_fault_cut :
    let source := "abcdefghijklmnopqrstuvwxyz".toList
    let body := "...cdefghijklmnopqrstuv...".toList
    display "Fault" source 12 = "Fault" ++ "\n" ++ String.ofList body ++ "\n" ++
        String.ofList (List.replicate 13 ' ') ++ "^" ∧
      body[13]? = some 'm' ∧
      display "Fault" source 28 = "Fault" ++ "\n" ++ String.ofList "...stuvwxyz".toList ++ "\n" ++
        String.ofList (List.replicate 13 ' ') ++ "^" := by
  intro source body
  have inside_source : 12 < source.length := by decide
  have past_source : source.length ≤ 28 := by decide
  obtain ⟨_, _, _, column, shape, rfl, rfl, rfl, inside, -, -⟩ :=
    display_points_at_fault "Fault" source 12
  obtain ⟨_, _, _, column', shape', rfl, rfl, rfl, -, past, -⟩ :=
    display_points_at_fault "Fault" source 28
  obtain ⟨rfl, -, shown⟩ := inside inside_source
  obtain rfl := past past_source
  exact ⟨shape, shown, shape'⟩

end InfixCalculator.Caret
