/-! # Pointing at a character

An error is shown on three lines: a header, an excerpt of the text around the fault and a caret
under it. The excerpt reaches ten characters to the left and to the right of the fault, and three
dots stand for what is cut off on a side. The fault may lie past the end of the text.
-/
namespace InfixCalculator.Caret

/-- How far an excerpt reaches to either side of the fault. -/
def reach : Nat := 10

def ellipsis : List Char := ['.', '.', '.']

/-- The characters of `source` within reach of `index`, without dots. -/
def window (source : List Char) (index : Nat) : List Char :=
  (source.take (index + reach)).drop (index - reach)

def excerpt (source : List Char) (index : Nat) : List Char :=
  (if reach < index then ellipsis else []) ++ window source index ++
    (if index + reach < source.length then ellipsis else [])

/-- Where the fault stands in the excerpt. -/
def column (index : Nat) : Nat :=
  min index reach + if reach < index then ellipsis.length else 0

/-- Header, excerpt and caret line. -/
def display (header : String) (source : List Char) (index : Nat) : String :=
  header ++ "\n" ++ String.ofList (excerpt source index) ++ "\n" ++
    String.ofList (List.replicate (column index) ' ') ++ "^"

@[simp] theorem length_window (source : List Char) (index : Nat) :
    (window source index).length =
      min (index + reach) source.length - (index - reach) := by
  simp [window]

/-- The excerpt holds the character at fault right above the caret. -/
theorem excerpt_getElem?_column {source : List Char} {index : Nat} (h : index < source.length) :
    (excerpt source index)[column index]? = source[index]? := by
  have inside : min index reach < (window source index).length := by
    simp only [length_window, reach]; omega
  have found : (window source index)[min index reach]? = source[index]? := by
    rw [window, List.getElem?_drop, List.getElem?_take_of_lt (by simp only [reach]; omega)]
    congr 1; omega
  unfold excerpt column
  split
  · rw [List.append_assoc, List.getElem?_append_right (by simp [ellipsis]),
      List.getElem?_append_left (by simp only [ellipsis, List.length_cons, List.length_nil]; omega)]
    simpa using found
  · rw [List.nil_append, Nat.add_zero, List.getElem?_append_left inside, found]

end InfixCalculator.Caret
