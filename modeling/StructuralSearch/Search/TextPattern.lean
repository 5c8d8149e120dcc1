import StructuralSearch.Match
import StructuralSearch.Regex.Basic
import StructuralSearch.SearchError
import StructuralSearch.Text.Blank
import StructuralSearch.Text.LineIndex
import StructuralSearch.Wildcard.Marker

/-!
# Text patterns

In text mode a query is read as a list of tokens.

* A run of white space stands for any run of white space, the longer the better.
* `$` stands for any run of word characters and `$`, the longer the better.
* `$$` and `$$$` stand for any text, the shorter the better.
* Any other character stands for itself, or for every character that agrees with it up to case.

The tokens are written as a regular expression, `TextPattern.source`, and a library compiles it.  A
search reports what the compiled expressions find, but for matches that are empty.
-/

namespace StructuralSearch

/-- A token of a text query. -/
inductive Token
  | literal (c : Char)
  | blanks
  | word
  | anything
  deriving DecidableEq, Repr

/-- A text query that was read. -/
structure TextPattern where
  caseInsensitive : Bool
  tokens : List Token
  deriving DecidableEq, Repr

namespace Token

open Text

/-- The token of a marker. -/
def ofMarker : Marker → Token
  | .identifier => word
  | .node => anything
  | .rest => anything

/-- Reads the pieces of a query; `afterBlank` says whether white space was read just before. -/
def ofPieces (afterBlank : Bool) : List Piece → List Token
  | [] => []
  | .marker m :: pieces => ofMarker m :: ofPieces false pieces
  | .plain c :: pieces =>
    if isBlank c then
      if afterBlank then ofPieces true pieces else blanks :: ofPieces true pieces
    else literal c :: ofPieces false pieces

/-- A token as a part of a regular expression. -/
def source : Token → List Char
  | literal c => Regex.escape c
  | blanks => "\\s+".toList
  | word => "[\\w$]*".toList
  | anything => "[\\s\\S]*?".toList

end Token

namespace TextPattern

/-- Reads a text query. -/
def parse (query : String) (caseInsensitive : Bool) : Except SearchError TextPattern :=
  let trimmed := Text.trimWhile Text.isBlank query.toList
  if trimmed.isEmpty then .error .emptyQuery
  else .ok ⟨caseInsensitive, Token.ofPieces false (Piece.scan trimmed)⟩

/-- The pattern as a regular expression. -/
def source (pattern : TextPattern) : String :=
  (if pattern.caseInsensitive then "(?i)" else "")
    ++ String.ofList (pattern.tokens.flatMap Token.source)

/-- Reads a text query and compiles the regular expression for it. -/
def compile (library : RegexLibrary) (query : String) (caseInsensitive : Bool) :
    Except SearchError Regex := do
  let pattern ← parse query caseInsensitive
  (library.compile pattern.source).mapError .invalidTextQuery

end TextPattern

/-- The compiled queries of a search in text mode. -/
structure TextSearch where
  patterns : List Regex

namespace TextSearch

/-- Compiles all queries, or reports each one that fails. -/
def compile (library : RegexLibrary) (queries : List String) (caseInsensitive : Bool) :
    Except (List (Nat × SearchError)) TextSearch :=
  let outcomes := queries.zipIdx.map fun (query, index) =>
    (index, TextPattern.compile library query caseInsensitive)
  let failures := outcomes.filterMap fun (index, outcome) =>
    match outcome with
    | .error error => some (index, error)
    | .ok _ => none
  if failures.isEmpty then
    .ok ⟨outcomes.filterMap fun (_, outcome) => outcome.toOption⟩
  else .error failures

/-- The nonempty matches of all queries in a source text, query by query. -/
def find (search : TextSearch) (path source : String) : List Match :=
  let text := source.toList
  let starts := Text.lineStarts text
  search.patterns.flatMap fun pattern =>
    ((pattern.find text).filter fun found => !found.code.isEmpty).map fun found =>
      Match.ofSpan path
        ⟨Text.positionAt starts found.offset,
          Text.positionAt starts (found.offset + Text.byteLength found.code)⟩
        (String.ofList found.code)

end TextSearch

end StructuralSearch
