import StructuralSearch.Span
import StructuralSearch.Text.Utf8

/-!
# Lines of a text

A line index holds the byte offset at which each line of a text starts.  The line of an offset is
the last one that starts at or before it, and the column counts bytes from there.
-/

namespace StructuralSearch.Text

/-- The offsets behind the line feeds of a text that begins at `offset`. -/
def lineStartsFrom (offset : Nat) : List Char → List Nat
  | [] => []
  | c :: text =>
    let next := offset + c.utf8Size
    if c = '\n' then next :: lineStartsFrom next text else lineStartsFrom next text

/-- The offsets at which the lines of a text start. -/
def lineStarts (text : List Char) : List Nat :=
  0 :: lineStartsFrom 0 text

/-- The position of a byte offset in a text whose lines start at `starts`. -/
def positionAt (starts : List Nat) (offset : Nat) : Position :=
  let before := starts.takeWhile (· ≤ offset)
  { line := clampPosition (max before.length 1)
    column := clampPosition (offset - before.getLast?.getD 0 + 1)
    offset := clampPosition offset }

end StructuralSearch.Text
