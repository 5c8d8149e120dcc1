import StructuralSearch.CommandLine.Format
import StructuralSearch.FilePath
import StructuralSearch.Json.Printer
import StructuralSearch.Json.Records

/-!
# Reports

For human readers each match is a line with its place and the lines of its code, and a summary
counts the matches and the files; errors and hints go to the other stream.  As JSON everything is
one document.  The program succeeds unless a query failed.
-/

namespace StructuralSearch.CommandLine

/-- What the program leaves behind. -/
structure Output where
  stdout : String := ""
  stderr : String := ""
  succeeded : Bool
  deriving DecidableEq, Repr

namespace Report

/-- The text without a carriage return at its end. -/
def dropReturn (line : List Char) : List Char :=
  if line.getLast? = some '\r' then line.dropLast else line

/-- The lines of a text.  Behind the last line feed there is a line only if it holds something. -/
def lines (text : List Char) : List (List Char) :=
  let parts := Text.splitOnChar '\n' text
  parts.dropLast.map dropReturn ++ parts.getLast?.toList.filter (!·.isEmpty)

/-- A line and a column. -/
def place (position : Position) : String :=
  s!"{position.line}:{position.column}"

/-- A match with its code. -/
def listing (found : Match) : String :=
  found.filePath ++ ":" ++ place found.start ++ "-" ++ place found.stop ++ "\n"
    ++ String.join ((lines found.code.toList).map fun line => "    " ++ String.ofList line ++ "\n")

/-- A number with the noun that fits it. -/
def counted (count : Nat) (one many : String) : String :=
  toString count ++ " " ++ if count = 1 then one else many

/-- The list without elements that are equal to the one before. -/
def dropAdjacent {α : Type} [DecidableEq α] : List α → List α
  | [] => []
  | [a] => [a]
  | a :: b :: rest => if a = b then dropAdjacent (b :: rest) else a :: dropAdjacent (b :: rest)

/-- A list is left alone when no element is equal to the one before. -/
theorem dropAdjacent_eq_self {α : Type} [DecidableEq α] {list : List α}
    (distinct : list.Pairwise (· ≠ ·)) : dropAdjacent list = list := by
  fun_induction dropAdjacent list with
  | case1 => rfl
  | case2 => rfl
  | case3 a rest ih => exact absurd rfl ((List.pairwise_cons.mp distinct).1 a (by simp))
  | case4 a b rest differ ih => rw [ih (List.pairwise_cons.mp distinct).2]

/-- The number of runs of matches in one file, where paths that take the same way count as one. -/
def fileCount (found : List Match) : Nat :=
  (dropAdjacent (found.map fun m => FilePath.way m.filePath)).length

/-- The line that counts matches and files. -/
def summary (found : List Match) : String :=
  counted found.length "match" "matches" ++ " in " ++ counted (fileCount found) "file" "files"
    ++ "\n"

/-- The errors, and the hints on each query. -/
def diagnostics (results : Results) : String :=
  String.join (results.errors.map fun error => s!"error: {error.display}\n")
    ++ String.join (results.hints.zipIdx.map fun (hints, index) =>
      String.join (hints.map fun hint => s!"hint: query #{index}: {hint.message}\n"))

/-- Whether no query failed. -/
def succeeded (results : Results) : Bool :=
  !results.errors.any (·.isQuery)

/-- The report on results. -/
def render (format : OutputFormat) (results : Results) : Output :=
  match format with
  | .json => ⟨results.toJson.pretty ++ "\n", "", succeeded results⟩
  | .human =>
    ⟨String.join (results.found.map listing) ++ summary results.found, diagnostics results,
      succeeded results⟩

end Report

end StructuralSearch.CommandLine
