import StructuralSearch.Text.Utf8

/-!
# Libraries of regular expressions

A library compiles the source of a regular expression, or says why it does not.  A compiled
expression finds stretches in a text.  Nothing else is asked of a library here; what its expressions
mean is the matter of `StructuralSearch.Regex.Expression`.
-/

namespace StructuralSearch

/-- A stretch of a text: what stands in front of it, its own characters, and what stands behind. -/
structure Stretch (text : List Char) where
  front : List Char
  code : List Char
  back : List Char
  spelled : front ++ (code ++ back) = text

namespace Stretch

variable {text : List Char}

/-- The byte offset at which a stretch begins. -/
def offset (stretch : Stretch text) : Nat :=
  Text.byteLength stretch.front

/-- The number of characters in front of a stretch and in it. -/
def range (stretch : Stretch text) : Nat × Nat :=
  (stretch.front.length, stretch.code.length)

/-- The stretch with so many characters in front of it and in it, as far as the text goes. -/
def ofRange (text : List Char) (range : Nat × Nat) : Stretch text where
  front := text.take range.1
  code := (text.drop range.1).take range.2
  back := (text.drop range.1).drop range.2
  spelled := by rw [List.take_append_drop, List.take_append_drop]

end Stretch

/-- A compiled regular expression, which finds its matches in a text. -/
structure Regex where
  find : (text : List Char) → List (Stretch text)

/-- What compiles regular expressions, or says why it does not. -/
structure RegexLibrary where
  compile : String → Except String Regex

namespace Regex

/-- The characters that a regular expression reads as themselves only behind a backslash. -/
def operators : List Char :=
  ['\\', '.', '+', '*', '?', '(', ')', '|', '[', ']', '\x7b', '\x7d', '^', '$', '#', '&', '-', '~']

/-- A character as a regular expression that stands for it alone. -/
def escape (c : Char) : List Char :=
  if operators.contains c then ['\\', c] else [c]

end Regex

end StructuralSearch
