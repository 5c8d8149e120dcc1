import StructuralSearch.Text.CharTable

/-!
# Blanks

White space is the Unicode property of that name.  Trimming removes it from the ends, `words`
splits at its runs, and `collapse` writes the words with single spaces between them.
-/

namespace StructuralSearch.Text

/-- The white space characters. -/
def blankTable : CharRanges :=
  [(0x9, 0xd), (0x20, 0x20), (0x85, 0x85), (0xa0, 0xa0), (0x1680, 0x1680), (0x2000, 0x200a),
   (0x2028, 0x2029), (0x202f, 0x202f), (0x205f, 0x205f), (0x3000, 0x3000)]

/-- Whether a character is white space. -/
def isBlank (c : Char) : Bool := blankTable.holds c

/-- The text without the characters of `p` at its end. -/
def dropEndWhile (p : Char → Bool) (text : List Char) : List Char :=
  (text.reverse.dropWhile p).reverse

/-- The text without the characters of `p` at its two ends. -/
def trimWhile (p : Char → Bool) (text : List Char) : List Char :=
  dropEndWhile p (text.dropWhile p)

/-- The text without white space at its two ends. -/
def trim (text : String) : String :=
  String.ofList (trimWhile isBlank text.toList)

/-- Whether a text holds nothing but white space. -/
def isBlankText (text : String) : Bool :=
  text.toList.all isBlank

/-- The maximal runs of characters outside `p`, in order. -/
def splitRuns (p : Char → Bool) : List Char → List (List Char)
  | [] => []
  | c :: rest =>
    if p c then splitRuns p rest
    else
      match rest, splitRuns p rest with
      | next :: _, run :: runs => if p next then [c] :: run :: runs else (c :: run) :: runs
      | _, runs => [c] :: runs

/-- The words of a text: its maximal runs without white space. -/
def words (text : String) : List String :=
  (splitRuns isBlank text.toList).map String.ofList

/-- The words of a text with one space between neighbours. -/
def collapse (text : String) : String :=
  " ".intercalate (words text)

/-- Every character that core counts as white space is one. -/
theorem isBlank_of_isWhitespace {c : Char} (h : c.isWhitespace = true) : isBlank c = true := by
  simp only [Char.isWhitespace, Bool.or_eq_true, decide_eq_true_eq] at h
  rcases h with (((rfl | rfl) | rfl) | rfl) <;> decide

end StructuralSearch.Text
