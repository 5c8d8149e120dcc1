/-!
# Hints and error records

A search does not fail as a whole.  What went wrong is recorded beside the matches: for a file
that could not be searched, or for a query that could not be read.  A query that was read may
carry hints.
-/

namespace StructuralSearch

/-- What a hint is about. -/
inductive HintKind
  | identifierWildcardOnly
  | multipleStatements
  deriving DecidableEq, Repr

namespace HintKind

/-- All kinds of hints. -/
def all : List HintKind := [identifierWildcardOnly, multipleStatements]

/-- The name under which a kind is written. -/
def name : HintKind → String
  | identifierWildcardOnly => "identifier-wildcard-only"
  | multipleStatements => "multiple-statements"

/-- The kind with exactly this name. -/
def ofName? (name : String) : Option HintKind :=
  all.find? (·.name = name)

/-- Distinct kinds have distinct names. -/
theorem ofName?_name (kind : HintKind) : ofName? kind.name = some kind := by
  cases kind <;> rfl

end HintKind

/-- Advice on a query. -/
structure Hint where
  kind : HintKind
  message : String
  deriving DecidableEq, Repr

/-- The advice on a query that is a lone identifier wildcard. -/
def Hint.identifierWildcardOnly : Hint :=
  ⟨.identifierWildcardOnly, "`$` matches identifiers only; use `$$` to match any node"⟩

/-- The advice on a query of several statements. -/
def Hint.multipleStatements (count : Nat) : Hint :=
  ⟨.multipleStatements,
    s!"query has {count} statements and is matched against statement sequences"⟩

/-- What went wrong with a file or with a query. -/
inductive ErrorRecord
  | file (path message : String)
  | query (index : Nat) (message : String) (line column : Option Nat)
  deriving DecidableEq, Repr

namespace ErrorRecord

/-- The description of what went wrong. -/
def message : ErrorRecord → String
  | file _ message => message
  | query _ message _ _ => message

/-- The record in one line.  A place in a query is shown only when it is complete. -/
def display : ErrorRecord → String
  | file path message => s!"{path}: {message}"
  | query index message (some line) (some column) =>
    s!"query #{index} at {line}:{column}: {message}"
  | query index message _ _ => s!"query #{index}: {message}"

/-- Whether the record is about a query. -/
def isQuery : ErrorRecord → Bool
  | query .. => true
  | file .. => false

end ErrorRecord

end StructuralSearch
