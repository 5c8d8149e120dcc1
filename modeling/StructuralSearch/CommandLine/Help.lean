import StructuralSearch.CommandLine.Flag
import StructuralSearch.CommandLine.Format

/-!
# Help

The summary describes each flag in one line, with the descriptions in one column.  The detailed
help gives each flag a paragraph, and lists the values to choose from.
-/

namespace StructuralSearch.CommandLine.Help

/-- The name and the version of the program. -/
def version : String := "shapeseek 0.1.0\n"

/-- The names of a flag, with room for a missing letter, and its value. -/
def names (flag : Flag) : String :=
  let letter := flag.short?.elim "    " fun letter => String.ofList ['-', letter, ',', ' ']
  letter ++ flag.shown

/-- The lines that open the help behind its title. -/
def opening (title : String) (paths : String) : String :=
  title ++ "\n\n" ++ Parameter.usage [] ++ "\n\nArguments:\n  " ++ Parameter.pathsSign ++ paths
    ++ "Files or directories to search\n\nOptions:\n"

/-- The width of the column of names. -/
def column : Nat :=
  (Flag.all.map fun flag => (names flag).length).foldl max 0

/-- A flag in one line. -/
def line (flag : Flag) : String :=
  let padding := String.ofList (List.replicate (column - (names flag).length) ' ')
  let choices :=
    if flag = .format then
      " [possible values: " ++ ", ".intercalate (OutputFormat.all.map (·.name)) ++ "]"
    else ""
  "  " ++ names flag ++ padding ++ "  " ++ flag.description false ++ choices ++ "\n"

/-- The summary. -/
def summary : String :=
  opening "Search source code by syntactic shape" "  " ++ String.join (Flag.all.map line)

/-- The indentation of descriptions. -/
def indentation : String := "          "

/-- A value to choose, its description in one column with the others. -/
def choice (format : OutputFormat) : String :=
  let width := (OutputFormat.all.map fun other => other.name.length).foldl max 0
  let padding := String.ofList (List.replicate (width - format.name.length) ' ')
  indentation ++ "- " ++ format.name ++ ": " ++ padding ++ format.description ++ "\n"

/-- A flag in a paragraph. -/
def paragraph (flag : Flag) : String :=
  "  " ++ names flag ++ "\n" ++ indentation ++ flag.description true ++ "\n"
    ++ if flag = .format then
      "\n" ++ indentation ++ "Possible values:\n" ++ String.join (OutputFormat.all.map choice)
    else ""

/-- The detailed help. -/
def detailed : String :=
  opening ("Command-line interface for the shapeseek structural search tool.\n\n"
      ++ "Options left unset fall back to the configuration file "
      ++ "and then to the built-in defaults.")
    ("\n" ++ indentation) ++ "\n".intercalate (Flag.all.map paragraph)

end StructuralSearch.CommandLine.Help
