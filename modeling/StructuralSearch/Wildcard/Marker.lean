/-!
# Wildcard markers

A query may hold three markers.

* `$` stands for one identifier, or for a run of characters inside a name or a literal.
* `$$` stands for exactly one node.
* `$$$` stands for any number of neighbouring nodes.

A run of `$` is cut from the left into markers of at most three characters, so a text has one
reading as plain characters and markers, and writing the pieces out again gives the text back.
-/

namespace StructuralSearch

/-- The three wildcard markers. -/
inductive Marker
  | identifier
  | node
  | rest
  deriving DecidableEq, Repr

/-- The marker as it is written in a query. -/
def Marker.text : Marker → String
  | .identifier => "$"
  | .node => "$$"
  | .rest => "$$$"

/-- A plain character of a query, or a marker. -/
inductive Piece
  | plain (c : Char)
  | marker (m : Marker)
  deriving DecidableEq, Repr

/-- The characters a piece is written with. -/
def Piece.chars : Piece → List Char
  | .plain c => [c]
  | .marker m => m.text.toList

/-- Reads a text as plain characters and markers, the longest marker first. -/
def Piece.scan : List Char → List Piece
  | '$' :: '$' :: '$' :: text => .marker .rest :: scan text
  | '$' :: '$' :: text => .marker .node :: scan text
  | '$' :: text => .marker .identifier :: scan text
  | c :: text => .plain c :: scan text
  | [] => []

/-- **Nothing is lost.**  The pieces of a text, written out in order, are the text. -/
theorem Piece.flatMap_chars_scan (text : List Char) : (scan text).flatMap chars = text := by
  fun_induction scan text <;> simp_all [chars, Marker.text]

/-- A whole-node wildcard. -/
inductive NodeWildcard
  /-- exactly one node -/
  | single
  /-- any number of neighbouring nodes -/
  | rest
  deriving DecidableEq, Repr

/-- Reads the complete text of a token as a whole-node wildcard. -/
def NodeWildcard.ofText? (text : String) : Option NodeWildcard :=
  if text = "$$" then some .single
  else if text = "$$$" then some .rest
  else none

end StructuralSearch
