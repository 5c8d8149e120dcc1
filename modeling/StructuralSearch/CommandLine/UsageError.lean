import StructuralSearch.CommandLine.Flag
import StructuralSearch.CommandLine.Format
import StructuralSearch.Text.Terminal

/-!
# Usage errors

The ways in which arguments can be wrong, and how each is reported: what is wrong, where it helps
how the program is called, and how to find out more.  Of what was written only that is repeated
which a terminal shows.
-/

namespace StructuralSearch.CommandLine

/-- Why arguments are refused.  Where it is kept, `seen` holds the parameters met before. -/
inductive UsageError
  | pathsMissing (seen : List Parameter)
  /-- no flag has the name; one that is much like it may be meant -/
  | unknownFlag (written : String) (similar : Option Flag) (seen : List Parameter)
  /-- a switch was given a value; it is `alone` when nothing was met before -/
  | unneededValue (flag : Flag) (value : String) (alone : Bool)
  | missingValue (flag : Flag)
  | repeated (flag : Flag)
  | invalidValue (flag : Flag) (value reason : String)
  /-- the value is not one of the output formats -/
  | unknownFormat (value : String)
  deriving DecidableEq, Repr

namespace UsageError

/-- The output formats to choose from. -/
def formatChoices : String :=
  "[possible values: " ++ ", ".intercalate (OutputFormat.all.map (·.name)) ++ "]"

/-- That a flag has no value. -/
def missingValueText (flag : Flag) : String :=
  s!"a value is required for '{flag.shown}' but none was supplied"
    ++ if flag = .format then "\n  " ++ formatChoices else ""

/-- The list of parameters with one more, unless it is there. -/
def including (parameter : Parameter) (seen : List Parameter) : List Parameter :=
  if parameter ∈ seen then seen else seen ++ [parameter]

/-- What is wrong, and what may be meant instead. -/
def problem : UsageError → String
  | pathsMissing _ =>
    "the following required arguments were not provided:\n  " ++ Parameter.pathsSign
  | unknownFlag written (some similar) _ =>
    s!"unexpected argument '{written}' found\n\n"
      ++ s!"  tip: a similar argument exists: '--{similar.long}'"
  | unknownFlag written none _ =>
    s!"unexpected argument '{written}' found\n\n"
      ++ s!"  tip: to pass '{written}' as a value, use '-- {written}'"
  | unneededValue flag value _ =>
    s!"unexpected value '{value}' for '{flag.shown}' found; no more were expected"
  | missingValue flag => missingValueText flag
  | repeated flag => s!"the argument '{flag.shown}' cannot be used multiple times"
  | invalidValue flag value reason => s!"invalid value '{value}' for '{flag.shown}': {reason}"
  | unknownFormat value =>
    if value.isEmpty then missingValueText .format
    else
      s!"invalid value '{value}' for '{Flag.format.shown}'\n  " ++ formatChoices
        ++ match Text.mostSimilar? value (OutputFormat.all.map (·.name)) with
          | some similar => s!"\n\n  tip: a similar value exists: '{similar}'"
          | none => ""

/-- How the program is called, where the error has to do with it. -/
def usage? : UsageError → Option String
  | pathsMissing seen => some (Parameter.usage (including .paths seen))
  | unknownFlag _ similar seen =>
    some (Parameter.usage (similar.elim seen fun flag => including (.flag flag) seen))
  | unneededValue flag _ true => some (Parameter.usage [.flag flag])
  | unneededValue flag _ false => some (Parameter.usageBeside flag)
  | repeated _ => some (Parameter.usage [])
  | missingValue _ | invalidValue .. | unknownFormat _ => none

/-- The report on wrong arguments. -/
def message (error : UsageError) : String :=
  Text.Terminal.visible
    (s!"error: {error.problem}\n\n" ++ (error.usage?.elim "" fun usage => usage ++ "\n\n")
      ++ "For more information, try '--help'.\n")

end UsageError

end StructuralSearch.CommandLine
