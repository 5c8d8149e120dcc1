import StructuralSearch.Text.Similarity

/-!
# Flags

The flags of the command line, each with its names, the value that it takes, and a description.
Beside the flags stand the paths to search, of which at least one is required.
-/

namespace StructuralSearch.CommandLine

/-- A named argument. -/
inductive Flag
  | query
  | queryFile
  | mode
  | language
  | caseInsensitive
  | maxResults
  | debug
  | format
  | config
  | logFilter
  | logFormat
  | help
  | version
  deriving DecidableEq, Repr

namespace Flag

/-- All flags, in the order in which they are described. -/
def all : List Flag :=
  [query, queryFile, mode, language, caseInsensitive, maxResults, debug, format, config, logFilter,
    logFormat, help, version]

/-- The name behind two dashes. -/
def long : Flag → String
  | query => "query"
  | queryFile => "query-file"
  | mode => "mode"
  | language => "language"
  | caseInsensitive => "case-insensitive"
  | maxResults => "max-results"
  | debug => "debug"
  | format => "format"
  | config => "config"
  | logFilter => "log-filter"
  | logFormat => "log-format"
  | help => "help"
  | version => "version"

/-- The letter behind one dash, if there is one. -/
def short? : Flag → Option Char
  | query => some 'q'
  | mode => some 'm'
  | language => some 'l'
  | caseInsensitive => some 'i'
  | help => some 'h'
  | version => some 'V'
  | _ => none

/-- What the value of a flag is called; a flag without one is a switch. -/
def placeholder? : Flag → Option String
  | query => some "PATTERN"
  | queryFile | config => some "FILE"
  | mode => some "MODE"
  | language => some "LANGUAGE"
  | maxResults => some "COUNT"
  | format | logFormat => some "FORMAT"
  | logFilter => some "FILTER"
  | caseInsensitive | debug | help | version => none

/-- Whether a flag is followed by a value. -/
def takesValue (flag : Flag) : Bool :=
  flag.placeholder?.isSome

/-- Whether a flag may be given several times. -/
def repeats : Flag → Bool
  | query | queryFile => true
  | _ => false

/-- What a flag does, with `detailed` help or in short. -/
def description (detailed : Bool) : Flag → String
  | query => "Query pattern; repeat to search for several patterns at once"
  | queryFile => "File holding one query pattern; may be repeated"
  | mode => "Matching mode: exact, include, include-with-order or text"
  | language => "Language of the queries and searched files"
  | caseInsensitive => "Fold case when comparing identifiers and literals"
  | maxResults => "Maximum number of matches to report; `0` disables the limit"
  | debug => "Stop after the first file with results and trace matching steps"
  | format => "How results are written to stdout"
  | config => "Configuration file; defaults to `shapeseek.toml` when present"
  | logFilter => "Tracing filter directive, for example `shapeseek_syntax=debug`"
  | logFormat => "Log output format: json or compact"
  | help =>
    if detailed then "Print help (see a summary with '-h')"
    else "Print help (see more with '--help')"
  | version => "Print version"

/-- The long name with the value that follows it. -/
def shown (flag : Flag) : String :=
  match flag.placeholder? with
  | some placeholder => s!"--{flag.long} <{placeholder}>"
  | none => s!"--{flag.long}"

/-- The flag with a long name. -/
def ofLong? (name : String) : Option Flag :=
  all.find? (·.long = name)

/-- The flag with a letter. -/
def ofShort? (letter : Char) : Option Flag :=
  all.find? (·.short? = some letter)

/-- The flag whose long name is most like a word. -/
def mostLike? (word : String) : Option Flag :=
  (Text.mostSimilar? word (all.map (·.long))).bind ofLong?

/-- Distinct flags have distinct long names. -/
theorem ofLong?_long (flag : Flag) : ofLong? flag.long = some flag := by
  cases flag <;> rfl

end Flag

/-- What may stand on the command line. -/
inductive Parameter
  | flag (flag : Flag)
  | paths
  deriving DecidableEq, Repr

namespace Parameter

/-- The sign for the paths. -/
def pathsSign : String := "<PATHS>..."

/-- The flags among some parameters, as they are shown. -/
def shownFlags (parameters : List Parameter) : List String :=
  parameters.filterMap fun
    | flag named => some named.shown
    | paths => none

/-- A call of the program with some arguments. -/
def call (arguments : List String) : String :=
  "Usage: " ++ " ".intercalate ("shapeseek" :: arguments)

/-- How the program is called with the parameters that were seen, and in general if none was. -/
def usage (seen : List Parameter) : String :=
  call ((if seen.isEmpty then ["[OPTIONS]"] else shownFlags seen) ++ [pathsSign])

/-- All that steers a search, to choose from. -/
def choice : String :=
  let flags := Flag.all.filter fun named => named ≠ .help ∧ named ≠ .version
  "<" ++ "|".intercalate (flags.map (·.shown) ++ ["PATHS"]) ++ ">"

/-- How the program is called with a switch and other parameters beside it: as with the switch
alone, or with anything that steers a search. -/
def usageBeside (switch : Flag) : String :=
  call ((if switch = .help ∨ switch = .version then [switch.shown] else []) ++ [choice])

end Parameter

end StructuralSearch.CommandLine
