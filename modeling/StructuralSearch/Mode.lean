import StructuralSearch.Text.Blank
import StructuralSearch.Text.Lowercase

/-!
# Matching modes

A mode says how strictly the parts of a query are compared with the parts of a file.  It is named
in settings, on the command line and in results; a name is read without regard to surrounding
blanks, ASCII case, and the choice between `_` and `-`.
-/

namespace StructuralSearch

/-- A name that was looked up among the names of `what` and is none of them. -/
structure UnknownName where
  what : String
  input : String
  deriving DecidableEq, Repr

/-- The report on an unknown name. -/
def UnknownName.message (name : UnknownName) : String :=
  s!"unsupported {name.what}: '{name.input}'"

/-- How strictly a query is matched. -/
inductive Mode
  /-- sequences agree element by element -/
  | exact
  /-- every query element has a partner of its own -/
  | includeAny
  /-- every query element has a partner of its own, in the order of the query -/
  | includeOrdered
  /-- the query is matched against plain text -/
  | text
  deriving DecidableEq, Repr

namespace Mode

/-- All modes. -/
def all : List Mode := [exact, includeAny, includeOrdered, text]

/-- The name under which a mode is written. -/
def name : Mode → String
  | exact => "exact"
  | includeAny => "include"
  | includeOrdered => "include-with-order"
  | text => "text"

/-- Whether the mode compares syntax trees. -/
def isStructural : Mode → Bool
  | text => false
  | _ => true

/-- The mode with exactly this name. -/
def ofName? (name : String) : Option Mode :=
  all.find? (·.name = name)

/-- The spelling under which a mode name is looked up. -/
def normalise (input : String) : String :=
  let lowered := (Text.asciiLowercase (Text.trim input)).toList
  String.ofList (lowered.map fun c => if c = '_' then '-' else c)

/-- Reads a mode name as a user writes it. -/
def parse (input : String) : Except UnknownName Mode :=
  let wanted := normalise input
  if wanted = "ordered" then .ok includeOrdered
  else
    match ofName? wanted with
    | some mode => .ok mode
    | none => .error ⟨"mode", wanted⟩

/-- Distinct modes have distinct names. -/
theorem ofName?_name (mode : Mode) : ofName? mode.name = some mode := by
  cases mode <;> rfl

end Mode

end StructuralSearch
