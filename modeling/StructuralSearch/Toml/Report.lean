import StructuralSearch.Text.Occurrence
import StructuralSearch.Text.Utf8
import StructuralSearch.Toml.Basic

/-!
# Reports on faults in TOML

A fault is reported with the line in which it starts and marks under its range, as far as that
lies on the line; there is always one mark.  Columns count characters; only in front of a character
of several bytes they count bytes.  The end of a document counts as a place behind its last
character, on the same line.
-/

namespace StructuralSearch.Toml.Fault

open Text

/-- A place in a document: the lines before it, and the columns before it. -/
structure Place where
  line : Nat
  column : Nat
  deriving DecidableEq, Repr

/-- The line of a text that is still open at its end. -/
def openLine (text : List Char) : List Char :=
  (text.reverse.takeWhile (· ≠ '\n')).reverse

/-- The place between two parts of a document. -/
def placeBetween (before behind : List Char) : Place :=
  match behind with
  | c :: _ =>
    let line := openLine before
    ⟨before.count '\n', if c.utf8Size = 1 then line.length else byteLength line⟩
  | [] =>
    if before.isEmpty then ⟨0, 0⟩
    else ⟨before.dropLast.count '\n', (openLine before.dropLast).length + 1⟩

/-- The report on a fault in a document. -/
def report (document : String) (fault : Fault) : String :=
  let text := document.toList
  let (before, behind) := (splitAtByte? fault.range.start text).getD (text, [])
  let place := placeBetween before behind
  let line := ((splitOnChar '\n' text)[place.line]?).getD []
  let number := toString (place.line + 1)
  let marks := min (fault.range.stop - fault.range.start) (byteLength line - place.column)
  let blanks (count : Nat) := String.ofList (List.replicate count ' ')
  let gutter := blanks (number.length + 1) ++ "|"
  s!"TOML parse error at line {number}, column {place.column + 1}\n{gutter}\n{number} | "
    ++ String.ofList line ++ "\n" ++ gutter ++ blanks (place.column + 1)
    ++ String.ofList (List.replicate (max marks 1) '^') ++ "\n" ++ fault.problem.message

end StructuralSearch.Toml.Fault
