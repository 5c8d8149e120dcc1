import StructuralSearch.Span

/-!
# Matches

A match names a file, the stretch of it that a query matched, and the source text there.
-/

namespace StructuralSearch

/-- One place where a query matched. -/
structure Match where
  filePath : String
  start : Position
  stop : Position
  code : String
  deriving DecidableEq, Repr

/-- The match of a span in a file. -/
def Match.ofSpan (filePath : String) (span : Span) (code : String) : Match :=
  ⟨filePath, span.start, span.stop, code⟩

/-- The stretch of the file that matched. -/
def Match.span (found : Match) : Span :=
  ⟨found.start, found.stop⟩

end StructuralSearch
