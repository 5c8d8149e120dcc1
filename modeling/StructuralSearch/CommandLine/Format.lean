import StructuralSearch.Text.Lowercase

/-!
# Formats

The formats in which results and logs are written.
-/

namespace StructuralSearch.CommandLine

/-- How results are written. -/
inductive OutputFormat
  | human
  | json
  deriving DecidableEq, Repr

namespace OutputFormat

/-- All output formats. -/
def all : List OutputFormat := [human, json]

/-- The name of an output format. -/
def name : OutputFormat → String
  | human => "human"
  | json => "json"

/-- What the output looks like. -/
def description : OutputFormat → String
  | human => "Locations followed by the matched code"
  | json => "The full result set as pretty-printed JSON"

/-- The format with exactly this name. -/
def ofName? (name : String) : Option OutputFormat :=
  all.find? (·.name = name)

end OutputFormat

/-- How logs are written. -/
inductive LogFormat
  | json
  | compact
  deriving DecidableEq, Repr

namespace LogFormat

/-- All log formats. -/
def all : List LogFormat := [json, compact]

/-- The name of a log format. -/
def name : LogFormat → String
  | json => "json"
  | compact => "compact"

/-- The format with exactly this name. -/
def ofName? (name : String) : Option LogFormat :=
  all.find? (·.name = name)

/-- Reads a log format as a user writes it. -/
def parse? (input : String) : Option LogFormat :=
  ofName? (Text.asciiLowercase input)

end LogFormat

end StructuralSearch.CommandLine
