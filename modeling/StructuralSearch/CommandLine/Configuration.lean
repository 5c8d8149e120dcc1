import StructuralSearch.CommandLine.Arguments
import StructuralSearch.Settings
import StructuralSearch.Toml.Decode
import StructuralSearch.Toml.Reader

/-!
# Configuration

Options come from the arguments, from a configuration file, and from defaults, in this order of
precedence.  Switches add up: one that is on in the file cannot be turned off by the arguments.
The keys of the file are the long names of flags.
-/

namespace StructuralSearch.CommandLine

/-- What a configuration file says. -/
structure Configuration where
  mode : Option Mode := none
  language : Option Language := none
  caseInsensitive : Option Bool := none
  maxResults : Option Nat := none
  debug : Option Bool := none
  format : Option OutputFormat := none
  logFilter : Option String := none
  logFormat : Option LogFormat := none
  deriving DecidableEq, Repr

namespace Configuration

/-- The flags whose names are keys of the file. -/
def flags : List Flag :=
  [.mode, .language, .caseInsensitive, .maxResults, .debug, .format, .logFilter, .logFormat]

/-- The configuration with one more entry of the file. -/
def set (configuration : Configuration) (key : Toml.Key) (value : Toml.Value) :
    Except Toml.Fault Configuration :=
  let range := key.range
  match flags.find? (·.long = key.name) with
  | some .mode => do
    let mode ← value.toNamed range (Mode.all.map (·.name)) Mode.ofName?
    return { configuration with mode := some mode }
  | some .language => do
    let language ← value.toNamed range (Language.all.map (·.name)) Language.ofName?
    return { configuration with language := some language }
  | some .caseInsensitive => do
    return { configuration with caseInsensitive := some (← value.toBool range) }
  | some .maxResults => do return { configuration with maxResults := some (← value.toCount range) }
  | some .debug => do return { configuration with debug := some (← value.toBool range) }
  | some .format => do
    let format ← value.toNamed range (OutputFormat.all.map (·.name)) OutputFormat.ofName?
    return { configuration with format := some format }
  | some .logFilter => do return { configuration with logFilter := some (← value.toText range) }
  | some .logFormat => do
    let format ← value.toNamed range (LogFormat.all.map (·.name)) LogFormat.ofName?
    return { configuration with logFormat := some format }
  | _ => .error ⟨range, .unknownField key.name (flags.map (·.long))⟩

/-- Reads a configuration file. -/
def parse (document : String) : Except Toml.Fault Configuration := do
  let table ← Toml.parse document
  table.foldlM (fun configuration (key, value) => configuration.set key value) {}

end Configuration

/-- The options in effect. -/
structure Options where
  settings : Settings
  format : OutputFormat
  logFilter : String
  logFormat : LogFormat
  deriving DecidableEq, Repr

namespace Options

/-- The limit that a count stands for; zero is none. -/
def limitOf (count : Nat) : Option Nat :=
  if count = 0 then none else some count

/-- The log filter if none is given. -/
def defaultFilter (debug : Bool) : String :=
  if debug then "shapeseek_syntax=trace,shapeseek_cli=debug,warn" else "warn"

/-- Settles the options. -/
def resolve (arguments : Arguments) (configuration : Configuration) : Options :=
  let defaults : Settings := {}
  let debug := arguments.debug || configuration.debug.getD false
  { settings :=
      { mode := (arguments.mode.or configuration.mode).getD defaults.mode
        language := (arguments.language.or configuration.language).getD defaults.language
        caseInsensitive := arguments.caseInsensitive || configuration.caseInsensitive.getD false
        debug
        maxResults :=
          (arguments.maxResults.or configuration.maxResults).elim defaults.maxResults limitOf }
    format := (arguments.format.or configuration.format).getD .human
    logFilter := (arguments.logFilter.or configuration.logFilter).getD (defaultFilter debug)
    logFormat := (arguments.logFormat.or configuration.logFormat).getD .compact }

end Options

end StructuralSearch.CommandLine
