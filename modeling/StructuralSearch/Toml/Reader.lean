import StructuralSearch.Text.Utf8
import StructuralSearch.Toml.DateTime
import StructuralSearch.Toml.Document
import StructuralSearch.Toml.Quoted

/-!
# Reading TOML

A document is read line by line: headers open sections, and entries go into the open section.  A
place in the document is known from the number of bytes that are left, since the size of the
document is fixed.

Items of an array and entries between braces are tried one after the other.  Where one cannot be
read, and the failure is not final, the list ends in front of it, so that the closing bracket is
missed there.
-/

namespace StructuralSearch.Toml

open Text

namespace Reader

/-! ### Blanks, comments and lines -/

/-- Skips blanks on a line. -/
def skipBlanks (text : List Char) : List Char :=
  text.dropWhile Quoted.isBlank

/-- Skips a comment. -/
def skipComment : List Char → List Char
  | '#' :: rest => rest.dropWhile Quoted.isPlain
  | text => text

/-- Skips blanks and a comment up to the end of the line or of the document. -/
def endLine (problem : Problem) (text : List Char) : Except Misread (List Char) :=
  let rest := skipComment (skipBlanks text)
  match Quoted.newLine? rest, rest with
  | some rest, _ => .ok rest
  | none, [] => .ok []
  | none, rest => .error ⟨rest, problem, true⟩

/-- What is to stand behind an entry. -/
def lineExpected : Problem := .malformed none ["newline", "`#`"]

/-- A problem without a description. -/
def undescribed : Problem := .malformed none []

/-- Skips an end of line.  A carriage return is passed over before the line feed behind it is
missed. -/
def lineBreak : List Char → Except Misread (List Char)
  | '\n' :: rest | '\r' :: '\n' :: rest => .ok rest
  | '\r' :: rest => .error ⟨rest, undescribed, false⟩
  | rest => .error ⟨rest, undescribed, false⟩

/-- Skips blanks, comments and ends of lines.  Each comment has to end with its line. -/
def skipLines (fuel : Nat) (text : List Char) : Except Misread (List Char) :=
  match fuel, skipBlanks text with
  | fuel + 1, c :: rest =>
    if c = '#' ∨ c = '\n' ∨ c = '\r' then do
      skipLines fuel (← lineBreak (skipComment (c :: rest)))
    else .ok (c :: rest)
  | _, rest => .ok rest

/-! ### Keys -/

variable (size : Nat)

/-- The place of the rest of a document of `size` bytes. -/
def place (rest : List Char) : Nat :=
  size - byteLength rest

/-- The range of what was read between two rests. -/
def rangeOf (before behind : List Char) : Range :=
  ⟨place size before, place size behind⟩

/-- A key without dots. -/
def simpleKey (text : List Char) : Except Misread (Key × List Char) := do
  let (name, rest) ←
    match text with
    | '"' :: rest => Quoted.basic rest.length rest
    | '\'' :: rest => Quoted.literal rest
    | text =>
      let name := text.takeWhile isBare
      if name.isEmpty then throw (malformed text (some "key") [])
      else pure (name, text.drop name.length)
  return (⟨String.ofList name, rangeOf size text rest⟩, rest)

/-- The keys that follow a key, each behind a dot. -/
def furtherKeys (fuel : Nat) (text : List Char) : Except Misread (List Key × List Char) :=
  match fuel, skipBlanks text with
  | fuel + 1, '.' :: behind => do
    match ← Misread.attempt (simpleKey size (skipBlanks behind)) with
    | some (key, rest) =>
      let (keys, rest) ← furtherKeys fuel rest
      return (key :: keys, rest)
    | none => return ([], '.' :: behind)
  | _, rest => .ok ([], rest)

/-- Neither keys with dots nor arrays and tables between braces may nest as deeply as this. -/
def depthLimit : Nat := 80

/-- Keys with dots between them, as the first one and the others. -/
def keyPath (text : List Char) : Except Misread (Key × List Key × List Char) := do
  let (key, rest) ← simpleKey size (skipBlanks text)
  let (keys, rest) ← furtherKeys size rest.length rest
  if depthLimit ≤ keys.length + 1 then throw ⟨text, .tooDeep, false⟩
  return (key, keys, rest)

/-- The keys before the last one, and the last one. -/
def splitLast (key : Key) : List Key → List Key × Key
  | [] => ([], key)
  | next :: keys =>
    let (path, last) := splitLast next keys
    (key :: path, last)

/-- Takes away the sign between a key and its value, and the blanks behind it. -/
def equals : List Char → Except Misread (List Char)
  | '=' :: rest => .ok (skipBlanks rest)
  | rest => .error ⟨rest, .malformed none ["`.`", "`=`"], true⟩

/-! ### Values -/

/-- What is to stand where a value of no other kind begins. -/
def noValue (rest : List Char) : Misread :=
  malformed rest (some "string") ["`\"`", "`'`"]

/-- A truth value. -/
def truth (written : String) (value : Bool) (text : List Char) :
    Except Misread (Value × List Char) :=
  if text.take written.length = written.toList then
    let rest := text.drop written.length
    .ok (.boolean (rangeOf size text rest) value, rest)
  else .error (noValue text).final

/-- A date, a time or a number, or one of the words for numbers that are none. -/
def number (text : List Char) : Except Misread (Value × List Char) := do
  match ← DateTime.skip? text with
  | some rest => return (.dateTime (rangeOf size text rest), rest)
  | none =>
    match ← Numeral.read text with
    | (.integer value, rest) => return (.integer (rangeOf size text rest) value, rest)
    | (.fractional digits, rest) => return (.float (rangeOf size text rest) digits, rest)

/-- A value that is neither an array nor a table. -/
def simpleValue (text : List Char) : Except Misread (Value × List Char) :=
  match text with
  | [] => .error ⟨[], undescribed, false⟩
  | c :: _ =>
    if c = '"' ∨ c = '\'' then do
      let (inner, rest) ← Quoted.string text
      return (.string (rangeOf size text rest) (String.ofList inner), rest)
    else if c = 't' then truth size "true" true text
    else if c = 'f' then truth size "false" false text
    else if c.isDigit ∨ c = '+' ∨ c = '-' then number size text
    else if text.take 3 = "inf".toList ∨ text.take 3 = "nan".toList then number size text
    else if c = '_' then .error (malformed text (some "integer") ["leading digit"])
    else if c = '.' then .error (malformed text (some "floating-point number") ["leading digit"])
    else .error (noValue text)

/-- An entry between braces: the keys that lead to the last one, that one, and its value. -/
abbrev BracedEntry := List Key × Key × Value

/-- The table of entries between braces. -/
def bracedTable (entries : List BracedEntry) : Except Problem Table :=
  entries.foldlM (fun table (path, key, value) => table.addBraced path key value) []

mutual

/-- A value, read with at most `fuel` steps, in which arrays and tables may nest up to `depth`. -/
def value (fuel depth : Nat) (text : List Char) : Except Misread (Value × List Char) :=
  match fuel, depth, text with
  | fuel + 1, depth + 1, '[' :: rest => Misread.committed do
    let (items, rest) ← items fuel depth rest
    let rest ← skipLines rest.length rest
    match rest with
    | ']' :: rest => return (.array (rangeOf size text rest) items, rest)
    | rest => throw (malformed rest (some "array") ["`]`"])
  | fuel + 1, depth + 1, '\x7b' :: rest => Misread.committed do
    let (entries, behind) ← bracedEntries fuel depth rest
    match bracedTable entries, skipBlanks behind with
    | .error problem, _ => throw ⟨rest, problem, true⟩
    | .ok table, '\x7d' :: rest =>
      return (.table (some (rangeOf size text rest)) .inlined table, rest)
    | .ok _, rest => throw (malformed rest (some "inline table") ["`\x7d`"])
  | _, _, '[' :: _ | _, _, '\x7b' :: _ => .error ⟨text, .tooDeep, true⟩
  | _, _, text => simpleValue size text

/-- The items at the start of an array, with the comma behind the last one if there is any. -/
def items (fuel depth : Nat) (text : List Char) : Except Misread (List Value × List Char) :=
  match fuel with
  | 0 => .ok ([], text)
  | fuel + 1 => do
    match ← Misread.attempt (item fuel depth text) with
    | some (item, ',' :: rest) =>
      let (items, rest) ← items fuel depth rest
      return (item :: items, rest)
    | some (item, rest) => return ([item], rest)
    | none => return ([], text)

/-- An item of an array with all blanks, comments and ends of lines around it. -/
def item (fuel depth : Nat) (text : List Char) : Except Misread (Value × List Char) :=
  match fuel with
  | 0 => .error ⟨text, undescribed, false⟩
  | fuel + 1 => do
    let rest ← skipLines text.length text
    let (value, rest) ← value fuel depth rest
    let rest ← skipLines rest.length rest
    return (value, rest)

/-- The entries at the start of a table between braces. -/
def bracedEntries (fuel depth : Nat) (text : List Char) :
    Except Misread (List BracedEntry × List Char) :=
  match fuel with
  | 0 => .ok ([], text)
  | fuel + 1 => do
    match ← Misread.attempt (bracedEntry fuel depth text) with
    | some (entry, ',' :: rest) =>
      match ← bracedEntries fuel depth rest with
      | ([], _) => return ([entry], ',' :: rest)
      | (entries, rest) => return (entry :: entries, rest)
    | some (entry, rest) => return ([entry], rest)
    | none => return ([], text)

/-- An entry of a table between braces with the blanks around it. -/
def bracedEntry (fuel depth : Nat) (text : List Char) :
    Except Misread (BracedEntry × List Char) :=
  match fuel with
  | 0 => .error ⟨text, undescribed, false⟩
  | fuel + 1 => do
    let (first, others, rest) ← keyPath size text
    Misread.committed do
      let rest ← equals rest
      let (value, rest) ← value fuel depth rest
      let (path, key) := splitLast first others
      return ((path, key, value), skipBlanks rest)

end

/-! ### Sections -/

/-- The steps that are enough to read a value from a text. -/
def enough (text : List Char) : Nat :=
  4 * text.length + 4

/-- An entry of a section, which takes a line. -/
def entry (draft : Draft) (text : List Char) : Except Misread (Draft × List Char) := do
  let (first, others, rest) ← keyPath size text
  let rest ← equals rest
  let (value, rest) ← value size (enough rest) (depthLimit - 1) rest
  let rest ← endLine lineExpected rest
  let (path, key) := splitLast first others
  match draft.add path key value with
  | .ok draft => return (draft, rest)
  | .error problem => throw ⟨text, problem, true⟩

/-- The name of headers in problems. -/
def headerName : String := "table header"

/-- Takes away closing brackets. -/
def closeHeader (isRepeated : Bool) (text : List Char) : Except Misread (List Char) :=
  match isRepeated, text with
  | false, ']' :: rest => .ok rest
  | true, ']' :: ']' :: rest => .ok rest
  | false, rest => .error (malformed rest (some headerName) ["`.`", "`]`"])
  | true, rest => .error (malformed rest (some headerName) ["`.`", "`]]`"])

/-- A header with its line. -/
def header (draft : Draft) (text : List Char) : Except Misread (Draft × List Char) := do
  if text.length < 2 then throw (malformed text (some headerName) [])
  let isRepeated := text.take 2 = ['[', '[']
  let (first, others, rest) ←
    (keyPath size (text.drop (if isRepeated then 2 else 1))).mapError fun misread =>
      if misread.problem = .tooDeep then { misread with problem := .within headerName .tooDeep }
      else misread
  let behind ← closeHeader isRepeated rest
  let rest ← endLine (.malformed (some headerName) ["newline", "`#`"]) behind
  let (path, key) := splitLast first others
  match draft.start ⟨path, key, isRepeated, rangeOf size text behind⟩ with
  | .ok draft => return (draft, rest)
  | .error problem => throw ⟨text, .within headerName problem, true⟩

/-- Reads the lines of a document, at most `fuel` of them. -/
def sections (fuel : Nat) (draft : Draft) (text : List Char) : Except Misread Draft :=
  match fuel with
  | 0 => .ok draft
  | fuel + 1 =>
    match skipBlanks text with
    | [] => .ok draft
    | '#' :: rest => do
      let rest ← endLine undescribed ('#' :: rest)
      sections fuel draft rest
    | '[' :: rest => do
      let (draft, rest) ← header size draft ('[' :: rest)
      sections fuel draft rest
    | '\n' :: rest | '\r' :: '\n' :: rest => sections fuel draft rest
    | '\r' :: rest => .error ⟨'\r' :: rest, undescribed, true⟩
    | text => do
      let (draft, rest) ← entry size draft text
      sections fuel draft rest

/-- The range of the character at the start of a rest. -/
def characterRange (rest : List Char) : Range :=
  let start := place size rest
  ⟨start, start + rest.head?.elim 0 Char.utf8Size⟩

end Reader

/-- Reads a document; a mark of the byte order before it is skipped. -/
def parse (document : String) : Except Fault Table :=
  let text := document.toList
  let size := byteLength text
  let lines := if text.head? = some '\ufeff' then text.drop 1 else text
  match Reader.sections size (lines.length + 1) {} lines with
  | .error misread => .error ⟨Reader.characterRange size misread.rest, misread.problem⟩
  | .ok draft =>
    match draft.close with
    | .ok table => .ok table
    | .error problem => .error ⟨Reader.characterRange size [], problem⟩

end StructuralSearch.Toml
