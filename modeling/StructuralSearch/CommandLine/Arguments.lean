import StructuralSearch.CommandLine.UsageError
import StructuralSearch.Language

/-!
# Arguments

Arguments are read from left to right.  A flag has a long name behind two dashes or a letter
behind one; letters may be joined.  A value follows its flag: behind a `=`, directly behind the
letter, or as the next argument, if that does not begin with a dash.  Everything else is a path,
and behind `--` everything is.

A flag whose value comes as an argument of its own, or not at all, and the paths that follow one
another are *open* until the next known flag, a path or the end closes them.  Only then are they
checked, so that an unknown flag is reported before a fault in what is open.
-/

namespace StructuralSearch.CommandLine

/-- What the arguments ask for. -/
structure Arguments where
  queries : List String := []
  queryFiles : List String := []
  mode : Option Mode := none
  language : Option Language := none
  caseInsensitive : Bool := false
  maxResults : Option Nat := none
  debug : Bool := false
  format : Option OutputFormat := none
  config : Option String := none
  logFilter : Option String := none
  logFormat : Option LogFormat := none
  paths : List String := []
  deriving DecidableEq, Repr

/-- Why reading arguments ends before their end. -/
inductive Interruption
  | help (detailed : Bool)
  | version
  | mistake (error : UsageError)
  deriving DecidableEq, Repr

/-- The largest number that counts matches. -/
def countLimit : Nat := 0xffffffffffffffff

/-- Goes on reading a number behind its first digits, which have a value. -/
def countFrom (value : Nat) : List Char → Except String Nat
  | [] => .ok value
  | c :: rest =>
    if c.isDigit then
      let value := value * 10 + (c.toNat - '0'.toNat)
      if countLimit < value then .error "number too large to fit in target type"
      else countFrom value rest
    else .error "invalid digit found in string"

/-- Reads a number, which may have a plus sign. -/
def readCount (text : String) : Except String Nat :=
  match text.toList with
  | [] => .error "cannot parse integer from empty string"
  | ['+'] => .error "invalid digit found in string"
  | '+' :: digits => countFrom 0 digits
  | digits => countFrom 0 digits

namespace Arguments

/-- The arguments with the value of a flag. -/
def supply (arguments : Arguments) (flag : Flag) (value : String) : Except UsageError Arguments :=
  let invalid (reason : String) := UsageError.invalidValue flag value reason
  match flag with
  | .query => .ok { arguments with queries := arguments.queries ++ [value] }
  | .queryFile => .ok { arguments with queryFiles := arguments.queryFiles ++ [value] }
  | .mode =>
    match Mode.parse value with
    | .ok mode => .ok { arguments with mode := some mode }
    | .error unknown => .error (invalid unknown.message)
  | .language =>
    match Language.parse value with
    | .ok language => .ok { arguments with language := some language }
    | .error unknown => .error (invalid unknown.message)
  | .maxResults =>
    match readCount value with
    | .ok count => .ok { arguments with maxResults := some count }
    | .error reason => .error (invalid reason)
  | .format =>
    match OutputFormat.ofName? value with
    | some format => .ok { arguments with format := some format }
    | none => .error (.unknownFormat value)
  | .config => .ok { arguments with config := some value }
  | .logFilter => .ok { arguments with logFilter := some value }
  | .logFormat =>
    match LogFormat.parse? value with
    | some format => .ok { arguments with logFormat := some format }
    | none => .error (invalid "Matching variant not found")
  | .caseInsensitive | .debug | .help | .version => .ok arguments

/-- The arguments with a switch turned on. -/
def turnOn (arguments : Arguments) : Flag → Arguments
  | .caseInsensitive => { arguments with caseInsensitive := true }
  | .debug => { arguments with debug := true }
  | _ => arguments

end Arguments

/-- What is still open. -/
inductive Pending
  | flag (flag : Flag) (value : Option String)
  | paths (paths : List String)
  deriving DecidableEq, Repr

/-- How far reading has come. -/
structure Reading where
  arguments : Arguments := {}
  /-- the parameters that were closed, in the order of their first occurrences -/
  seen : List Parameter := []
  pending : Option Pending := none
  deriving DecidableEq, Repr

namespace Reading

/-- The reading behind one more flag, which must not be there already unless it may be repeated. -/
def meet (reading : Reading) (flag : Flag) : Except Interruption Reading :=
  if !flag.repeats ∧ .flag flag ∈ reading.seen then .error (.mistake (.repeated flag))
  else .ok { reading with seen := UsageError.including (.flag flag) reading.seen }

/-- Closes a flag with its value. -/
def closeFlag (reading : Reading) (flag : Flag) : Option String → Except Interruption Reading
  | none => .error (.mistake (.missingValue flag))
  | some value => do
    let reading ← reading.meet flag
    match reading.arguments.supply flag value with
    | .ok arguments => return { reading with arguments }
    | .error error => throw (.mistake error)

/-- The parameters that were met when what is open is closed without a check.  A flag that was
there already and may not be repeated is no longer one of them. -/
def met (reading : Reading) : List Parameter :=
  match reading.pending with
  | none | some (.flag _ none) => reading.seen
  | some (.flag flag (some _)) =>
    if !flag.repeats ∧ .flag flag ∈ reading.seen then reading.seen.erase (.flag flag)
    else UsageError.including (.flag flag) reading.seen
  | some (.paths _) => UsageError.including .paths reading.seen

/-- Closes what is open. -/
def close (reading : Reading) : Except Interruption Reading :=
  let settled := { reading with pending := none }
  match reading.pending with
  | none => .ok settled
  | some (.flag flag value) => settled.closeFlag flag value
  | some (.paths paths) =>
    .ok { settled with
      arguments := { reading.arguments with paths := reading.arguments.paths ++ paths }
      seen := UsageError.including .paths reading.seen }

/-- Closes what is open and turns on a switch. -/
def turnOn (reading : Reading) (flag : Flag) (isLong : Bool) : Except Interruption Reading := do
  let reading ← reading.close
  match flag with
  | .help => throw (.help isLong)
  | .version => throw .version
  | flag =>
    let reading ← reading.meet flag
    return { reading with arguments := reading.arguments.turnOn flag }

/-- Closes what is open and opens a flag, or closes it at once if its value is attached to it. -/
def openFlag (reading : Reading) (flag : Flag) (attached : Option String) :
    Except Interruption Reading := do
  let reading ← reading.close
  match attached with
  | some value => reading.closeFlag flag (some value)
  | none => return { reading with pending := some (.flag flag none) }

/-- Reads what follows two dashes.  An unknown name is reported with the flag that it is most like and
with the parameters that were met before. -/
def readLong (reading : Reading) (written : List Char) : Except Interruption Reading :=
  let name := String.ofList (written.takeWhile (· ≠ '='))
  let attached :=
    match written.dropWhile (· ≠ '=') with
    | _ :: value => some (String.ofList value)
    | [] => none
  match Flag.ofLong? name, attached with
  | none, _ =>
    .error (.mistake (.unknownFlag ("--" ++ name) (Flag.mostLike? name) reading.met))
  | some flag, attached =>
    if flag.takesValue then reading.openFlag flag attached
    else
      match attached with
      | some value => .error (.mistake (.unneededValue flag value reading.seen.isEmpty))
      | none => reading.turnOn flag true

/-- Reads what follows one dash: letters of switches, and perhaps one of a flag with its value. -/
def readShort (reading : Reading) : List Char → Except Interruption Reading
  | [] => .ok reading
  | letter :: rest =>
    match Flag.ofShort? letter with
    | none =>
      .error (.mistake (.unknownFlag (String.ofList ['-', letter]) none []))
    | some flag =>
      if flag.takesValue then
        match rest with
        | [] => reading.openFlag flag none
        | '=' :: value => reading.openFlag flag (some (String.ofList value))
        | value => reading.openFlag flag (some (String.ofList value))
      else do
        let reading ← reading.turnOn flag false
        reading.readShort rest

/-- Reads a path. -/
def readPath (reading : Reading) (path : String) : Except Interruption Reading :=
  match reading.pending with
  | some (.paths paths) => .ok { reading with pending := some (.paths (paths ++ [path])) }
  | _ => do
    let reading ← reading.close
    return { reading with pending := some (.paths [path]) }

/-- Reads an argument before `--`. -/
def readArgument (reading : Reading) (argument : String) : Except Interruption Reading :=
  match argument.toList, reading.pending with
  | '-' :: '-' :: written, _ => reading.readLong written
  | '-' :: letter :: letters, _ => reading.readShort (letter :: letters)
  | _, some (.flag flag none) => .ok { reading with pending := some (.flag flag (some argument)) }
  | _, _ => reading.readPath argument

/-- Reads arguments one by one. -/
def readAll (reading : Reading) : List String → Except Interruption Reading
  | [] => .ok reading
  | argument :: rest =>
    if argument = "--" then rest.foldlM readPath reading
    else do
      let reading ← reading.readArgument argument
      reading.readAll rest

end Reading

/-- Reads the arguments of the program. -/
def Arguments.read (written : List String) : Except Interruption Arguments := do
  let reading ← Reading.readAll {} written
  let reading ← reading.close
  if reading.arguments.paths.isEmpty then throw (.mistake (.pathsMissing reading.seen))
  else return reading.arguments

end StructuralSearch.CommandLine
