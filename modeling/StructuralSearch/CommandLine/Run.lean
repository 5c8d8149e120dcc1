import StructuralSearch.CommandLine.Configuration
import StructuralSearch.CommandLine.Help
import StructuralSearch.CommandLine.LogFilter
import StructuralSearch.CommandLine.Report
import StructuralSearch.FileTree
import StructuralSearch.Search.Run
import StructuralSearch.Toml.Report

/-!
# The program

The program reads its arguments, settles the options, checks the log filter, gathers the queries
and the files, searches, and reports.  The first of these steps that fails ends it.

What stands at the paths that the arguments name, and at the path of the default configuration
file, is given by a function, and so are the grammars.
-/

namespace StructuralSearch.CommandLine

/-- Why the program cannot search. -/
inductive Failure
  | usage (error : UsageError)
  | configurationUnreadable (path : String) (error : ReadError)
  | configurationInvalid (path document : String) (fault : Toml.Fault)
  | logFilterInvalid (error : LogFilterError)
  | queryUnreadable (path : String) (error : ReadError)
  | noQueries
  deriving DecidableEq, Repr

/-- The wording of a failure. -/
def Failure.message : Failure → String
  | usage error => error.message
  | configurationUnreadable path error => s!"failed to read configuration {path}: {error.message}"
  | configurationInvalid path document fault =>
    s!"failed to parse configuration {path}: " ++ fault.report document
  | logFilterInvalid error => s!"invalid log filter: {error.message}"
  | queryUnreadable path error => s!"failed to read query file {path}: {error.message}"
  | noQueries => "no queries given; pass --query or --query-file"

/-- The path of the configuration file that is read when none is named. -/
def defaultConfiguration : String := "./shapeseek.toml"

/-- The paths that arguments name, and that of the default configuration file. -/
def Arguments.mentioned (arguments : Arguments) : List String :=
  arguments.config.getD defaultConfiguration :: arguments.queryFiles ++ arguments.paths

section

variable (look : String → Except ReadError Entry)

/-- The text of the file at a path. -/
def readText (path : String) : Except ReadError String := do
  (← look path).text

/-- Reads the configuration file at a path. -/
def readConfiguration (path : String) : Except Failure Configuration := do
  let document ← (readText look path).mapError (.configurationUnreadable path)
  (Configuration.parse document).mapError (.configurationInvalid path document)

/-- The configuration of a run: from the file that is named, or from the default one if it is there.
-/
def configurationOf (arguments : Arguments) : Except Failure Configuration :=
  match arguments.config, look defaultConfiguration with
  | some path, _ => readConfiguration look path
  | none, .ok _ => readConfiguration look defaultConfiguration
  | none, .error _ => .ok {}

/-- The queries: those among the arguments, and then those in files. -/
def queriesOf (arguments : Arguments) : Except Failure (List String) := do
  let texts ← arguments.queryFiles.mapM fun path =>
    (readText look path).mapError (.queryUnreadable path)
  let queries := arguments.queries ++ texts
  if queries.isEmpty then throw .noQueries else return queries

/-- The files to search at a path: the files of the language below a directory, or the path itself.
-/
def filesAt (language : Language) (path : String) : List SourceFile :=
  let source (path : String) (content : Except ReadError String) : SourceFile :=
    ⟨path, content.mapError ReadError.message⟩
  match look path with
  | .ok (.directory entries) =>
    (Directory.walk language.handles path entries).map fun (path, content) => source path content
  | _ => [source path (readText look path)]

/-- Settles the options of a run. -/
def optionsOf (arguments : Arguments) : Except Failure Options := do
  let options := Options.resolve arguments (← configurationOf look arguments)
  (LogFilter.check options.logFilter).mapError .logFilterInvalid
  return options

/-- Searches as the arguments say. -/
def execute (grammar : Language → Grammar) (arguments : Arguments) : Except Failure Output := do
  let options ← optionsOf look arguments
  let queries ← queriesOf look arguments
  let files := arguments.paths.flatMap (filesAt look options.settings.language)
  return Report.render options.format
    (search options.settings (grammar options.settings.language) files queries)

/-- What a failure leaves behind. -/
def Failure.output (failure : Failure) : Output :=
  ⟨"", String.ofList (Text.dropEndWhile Text.isBlank failure.message.toList) ++ "\n", false⟩

/-- Runs the program. -/
def run (grammar : Language → Grammar) (written : List String) : Output :=
  match Arguments.read written with
  | .error (.help detailed) => ⟨if detailed then Help.detailed else Help.summary, "", true⟩
  | .error .version => ⟨Help.version, "", true⟩
  | .error (.mistake error) => (Failure.usage error).output
  | .ok arguments =>
    match execute look grammar arguments with
    | .ok output => output
    | .error failure => failure.output

end

end StructuralSearch.CommandLine
