import StructuralSearch.Json.Basic
import StructuralSearch.Node.Layout
import StructuralSearch.Results
import StructuralSearch.Settings

/-!
# Records as JSON

Settings, results and node layouts are read from JSON, and results are written.  A record is an
object or an array of its fields in order.  An error record has its kind as the member `kind` or as
the first element.  Its kind may come last, so all of it is held before it is read.
-/

namespace StructuralSearch

open Json (fields? toBool? toList? toNamed? toNat? toOption? toText? naturalLimit)

namespace Settings

/-- The names of the settings. -/
def names : List String := ["mode", "case_insensitive", "debug", "max_results", "language"]

/-- A setting that is read, or the default where it is absent. -/
def setting {α : Type} (read : Json → Option α) (default : α) : Option Json → Option α
  | some value => read value
  | none => some default

/-- Reads settings.  Absent ones have their defaults, and no other member is allowed. -/
def ofJson? (json : Json) : Option Settings := do
  let defaults : Settings := {}
  match ← fields? true names json with
  | [mode, caseInsensitive, debug, maxResults, language] =>
    return {
      mode := ← setting (toNamed? Mode.ofName?) defaults.mode mode
      caseInsensitive := ← setting toBool? defaults.caseInsensitive caseInsensitive
      debug := ← setting toBool? defaults.debug debug
      maxResults := ← setting (toOption? (toNat? naturalLimit)) defaults.maxResults maxResults
      language := ← setting (toNamed? Language.ofName?) defaults.language language }
  | _ => none

end Settings

namespace Position

/-- Reads a position. -/
def ofJson? (json : Json) : Option Position := do
  match ← fields? false ["line", "column", "offset"] json with
  | [some line, some column, some offset] =>
    return ⟨← toNat? positionLimit line, ← toNat? positionLimit column,
      ← toNat? positionLimit offset⟩
  | _ => none

/-- Writes a position. -/
def toJson (position : Position) : Json :=
  .record [("line", .natural position.line), ("column", .natural position.column),
    ("offset", .natural position.offset)]

end Position

namespace Match

/-- Reads a match. -/
def ofJson? (json : Json) : Option Match := do
  match ← fields? false ["file_path", "start", "end", "code"] json with
  | [some path, some start, some stop, some code] =>
    return ⟨← toText? path, ← Position.ofJson? start, ← Position.ofJson? stop, ← toText? code⟩
  | _ => none

/-- Writes a match. -/
def toJson (found : Match) : Json :=
  .record [("file_path", .text found.filePath), ("start", found.start.toJson),
    ("end", found.stop.toJson), ("code", .text found.code)]

end Match

namespace Hint

/-- Reads a hint. -/
def ofJson? (json : Json) : Option Hint := do
  match ← fields? false ["kind", "message"] json with
  | [some kind, some message] => return ⟨← toNamed? HintKind.ofName? kind, ← toText? message⟩
  | _ => none

/-- Writes a hint. -/
def toJson (hint : Hint) : Json :=
  .record [("kind", .text hint.kind.name), ("message", .text hint.message)]

end Hint

namespace ErrorRecord

/-- The levels of arrays and objects that an error record may have, itself included. -/
def levelLimit : Nat := 125

/-- Reads a line or a column, which may be `null`. -/
def place? (value : Json) : Option (Option Nat) :=
  toOption? (toNat? positionLimit) value

/-- Reads the record about a file from its path and its message. -/
def file? (path message : Json) : Option ErrorRecord := do
  return .file (← toText? path) (← toText? message)

/-- Reads the record about a query from its index, its message, its line and its column. -/
def query? (index message line column : Json) : Option ErrorRecord := do
  return .query (← toNat? naturalLimit index) (← toText? message) (← place? line)
    (← place? column)

/-- Reads the record of a kind from its members.  An absent line or column is as good as `null`. -/
def ofMembers? (kind : String) (members : List (Option String × Json)) : Option ErrorRecord := do
  match kind with
  | "file" =>
    match ← Json.members? false ["path", "message"] members with
    | [some path, some message] => file? path message
    | _ => none
  | "query" =>
    match ← Json.members? false ["index", "message", "line", "column"] members with
    | [some index, some message, line, column] =>
      query? index message (line.getD .null) (column.getD .null)
    | _ => none
  | _ => none

/-- Reads the record of a kind from its fields in order, none of which may be missing. -/
def ofElements? (kind : String) (elements : List Json) : Option ErrorRecord :=
  match kind, elements with
  | "file", [path, message] => file? path message
  | "query", [index, message, line, column] => query? index message line column
  | _, _ => none

/-- Reads an error record. -/
def ofJson? (json : Json) : Option ErrorRecord := do
  if json.isHeld levelLimit then
    match json with
    | .object members =>
      match ← Json.members? false ["kind"] members with
      | [some (.string (some kind))] => ofMembers? kind members
      | _ => none
    | .array (.string (some kind) :: elements) => ofElements? kind elements
    | _ => none
  else none

/-- Writes a line or a column. -/
def placeJson : Option Nat → Json
  | some n => .natural n
  | none => .null

/-- Writes an error record. -/
def toJson : ErrorRecord → Json
  | file path message =>
    .record [("kind", .text "file"), ("path", .text path), ("message", .text message)]
  | query index message line column =>
    .record [("kind", .text "query"), ("index", .natural index), ("message", .text message),
      ("line", placeJson line), ("column", placeJson column)]

end ErrorRecord

namespace Results

/-- Reads results.  Members that are not known are skipped. -/
def ofJson? (json : Json) : Option Results := do
  match ← fields? false ["matches", "errors", "hints"] json with
  | [some found, some errors, some hints] =>
    return ⟨← toList? Match.ofJson? found, ← toList? ErrorRecord.ofJson? errors,
      ← toList? (toList? Hint.ofJson?) hints⟩
  | _ => none

/-- Writes results. -/
def toJson (results : Results) : Json :=
  .record [("matches", .array (results.found.map Match.toJson)),
    ("errors", .array (results.errors.map ErrorRecord.toJson)),
    ("hints", .array (results.hints.map fun hints => .array (hints.map Hint.toJson)))]

end Results

namespace Layout

/-- An entry of a list of node types. -/
structure Entry where
  kind : String
  named : Bool
  /-- the fields, each with whether it holds a sequence -/
  fields : List (String × Bool)
  hasChildren : Bool
  /-- whether the kind merely stands for a choice of others -/
  isChoice : Bool

/-- Reads whether a field holds a sequence. -/
def multiple? (json : Json) : Option Bool := do
  match ← fields? false ["multiple"] json with
  | [some multiple] => toBool? multiple
  | _ => none

/-- Reads the fields of a kind.  Of a repeated name the last description counts. -/
def entryFields? : Option Json → Option (List (String × Bool))
  | none => some []
  | some (.object members) => do
    let described ← Json.collect (members.map fun (name, value) => do
      return (← name, ← multiple? value))
    return described.foldl (fun fields (name, multiple) =>
      fields.filter (·.1 ≠ name) ++ [(name, multiple)]) []
  | some _ => none

/-- Reads an entry. -/
def entry? (json : Json) : Option Entry := do
  match ← fields? false ["type", "named", "fields", "children", "subtypes"] json with
  | [some kind, some named, fields, children, subtypes] =>
    let children ← toOption? multiple? (children.getD .null)
    let isChoice :=
      match subtypes with
      | none | some .null => false
      | some _ => true
    return ⟨← toText? kind, ← toBool? named, ← entryFields? fields, children.isSome, isChoice⟩
  | _ => none

/-- The layout of the kind that an entry describes. -/
def Entry.layout (entry : Entry) : KindLayout :=
  let sorted := entry.fields.mergeSort fun a b => a.1 ≤ b.1
  { single := (sorted.filter (!·.2)).map (·.1)
    multiple := (sorted.filter (·.2)).map (·.1)
    hasChildren := entry.hasChildren }

/-- Reads a list of node types.  Tokens and choices are left out, since no node is of their kinds.
-/
def ofJson? (json : Json) : Option Layout := do
  let entries ← toList? entry? json
  let concrete := entries.filter fun entry => entry.named && !entry.isChoice
  return concrete.foldl (fun layout entry => layout.declare entry.kind entry.layout) {}

end Layout

end StructuralSearch
