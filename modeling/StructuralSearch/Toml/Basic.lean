import StructuralSearch.Text.Quoted

/-!
# TOML values

A document is a table: entries with keys, in the order in which they are written.  Keys and values
keep the range of bytes that they take in the document, so that a fault in one of them can be
shown.  A table that is only led through, by a header or by a key with dots, has no range.
-/

namespace StructuralSearch.Toml

/-- A range of bytes of a document. -/
structure Range where
  start : Nat
  stop : Nat
  deriving DecidableEq, Repr

/-- The range from the start of one range to the end of another. -/
def Range.through (first last : Range) : Range :=
  ⟨first.start, last.stop⟩

/-- A key in a document. -/
structure Key where
  name : String
  range : Range
  deriving DecidableEq, Repr

/-- How a table is written; only some tables can be added to. -/
inductive TableStyle
  /-- between braces -/
  | inlined
  /-- under a header of its own -/
  | headed
  /-- through headers of tables in it -/
  | implied
  /-- through keys with dots -/
  | dotted
  deriving DecidableEq, Repr

/-- A value in a document. -/
inductive Value where
  | string (range : Range) (text : String)
  | integer (range : Range) (value : Int)
  /-- a number with a fraction, given by its digits -/
  | float (range : Range) (digits : String)
  | boolean (range : Range) (value : Bool)
  /-- a date, a time, or both -/
  | dateTime (range : Range)
  | array (range : Range) (items : List Value)
  /-- the tables under headers in double brackets -/
  | tables (range : Range) (items : List Value)
  | table (range : Option Range) (style : TableStyle) (entries : List (Key × Value))

/-- The entries of a table. -/
abbrev Table := List (Key × Value)

namespace Value

/-- The range of a value. -/
def range? : Value → Option Range
  | string range _ | integer range _ | float range _ | boolean range _ => some range
  | dateTime range | array range _ | tables range _ => some range
  | table range _ _ => range

/-- The name of the kind of a value. -/
def kind : Value → String
  | string .. => "string"
  | integer .. => "integer"
  | float .. => "float"
  | boolean .. => "boolean"
  | dateTime .. => "datetime"
  | array .. => "array"
  | tables .. => "array of tables"
  | table _ .inlined _ => "inline table"
  | table .. => "table"

end Value

/-- A value as it is met where another one is wanted. -/
inductive Unexpected
  | string (text : String)
  | integer (value : Int)
  | float (digits : String)
  | boolean (value : Bool)
  | sequence
  | map
  deriving DecidableEq, Repr

/-- The description of an unexpected value. -/
def Unexpected.message : Unexpected → String
  | string text => "string " ++ Text.quoted text
  | integer value => s!"integer `{value}`"
  | float digits => s!"floating point `{digits}`"
  | boolean value => s!"boolean `{value}`"
  | sequence => "sequence"
  | map => "map"

/-- What is met in place of a wanted value. -/
def Value.unexpected : Value → Unexpected
  | .string _ text => .string text
  | .integer _ value => .integer value
  | .float _ digits => .float digits
  | .boolean _ value => .boolean value
  | .array .. | .tables .. => .sequence
  | .dateTime .. | .table .. => .map

/-- A character in a key between quotes. -/
def quotedKeyChar (c : Char) : List Char :=
  if c = '"' ∨ c = '\\' then ['\\', c]
  else if c = '\x08' then ['\\', 'b']
  else if c = '\t' then ['\\', 't']
  else if c = '\n' then ['\\', 'n']
  else if c = '\x0c' then ['\\', 'f']
  else if c = '\r' then ['\\', 'r']
  else if c.toNat < 0x20 ∨ c = '\x7f' then
    let digits := (Text.hexDigits c.toNat).map Char.toUpper
    ['\\', 'u'] ++ List.replicate (4 - digits.length) '0' ++ digits
  else [c]

/-- Whether a character may stand in a key without quotes. -/
def isBare (c : Char) : Bool :=
  c.isAlphanum || c = '-' || c = '_'

/-- A key as it is best written: without quotes if it can be, else between double quotes, unless
single ones save an escape. -/
def writtenKey (name : String) : String :=
  let text := name.toList
  let isControl (c : Char) : Bool := (c.toNat < 0x20 && c ≠ '\t') || c = '\x7f'
  if ¬text.isEmpty ∧ text.all isBare then name
  else if (text.any fun c => c = '"' || c = '\\') ∧ ¬text.any fun c => isControl c || c = '\'' then
    "'" ++ name ++ "'"
  else "\"" ++ String.ofList (text.flatMap quotedKeyChar) ++ "\""

/-- What is wrong with a document. -/
inductive Problem
  /-- something malformed, with a name where it has one, and what may stand there instead -/
  | malformed (name : Option String) (expected : List String)
  /-- a problem with something that has a name -/
  | within (name : String) (problem : Problem)
  /-- a number that means nothing in its place -/
  | outOfRange
  /-- a whole number that needs more than 64 bits -/
  | tooWide (isNegative : Bool)
  /-- too many tables or arrays inside one another -/
  | tooDeep
  /-- a key that is there already, in the table at `path` where that is known -/
  | duplicateKey (key : String) (path : Option (List String))
  /-- a key with dots that leads through a value that is no table -/
  | extendsValue (path : List String) (kind : String)
  | unknownField (name : String) (known : List String)
  | unknownVariant (name : String) (known : List String)
  | wrongType (found : Unexpected) (expected : String)
  | wrongValue (found : Unexpected) (expected : String)
  /-- neither a name nor a table that holds one -/
  | noVariant
  /-- a table that is to hold one name and holds none, or several -/
  | variantCount (isEmpty : Bool)
  /-- something where nothing is wanted -/
  | notEmpty (kind : String)
  | notTable (kind : String)
  deriving DecidableEq, Repr

namespace Problem

/-- A list of names to choose from. -/
def choice : List String → String
  | [first, second] => s!"`{first}` or `{second}`"
  | [only] => s!"`{only}`"
  | names => "one of " ++ ", ".intercalate (names.map fun name => s!"`{name}`")

/-- The wording of a problem. -/
def message : Problem → String
  | malformed name expected =>
    let invalid := name.elim [] fun name => [s!"invalid {name}"]
    let expected := if expected.isEmpty then [] else ["expected " ++ ", ".intercalate expected]
    "\n".intercalate (invalid ++ expected)
  | within name problem => s!"invalid {name}\n" ++ problem.message
  | outOfRange => "value is out of range"
  | tooWide false => "number too large to fit in target type"
  | tooWide true => "number too small to fit in target type"
  | tooDeep => "recursion limit exceeded"
  | duplicateKey key none => s!"duplicate key `{key}`"
  | duplicateKey key (some []) => s!"duplicate key `{key}` in document root"
  | duplicateKey key (some path) =>
    s!"duplicate key `{key}` in table `" ++ ".".intercalate path ++ "`"
  | extendsValue path kind =>
    "dotted key `" ++ ".".intercalate path ++ s!"` attempted to extend non-table type ({kind})"
  | unknownField name known => s!"unknown field `{name}`, expected " ++ choice known
  | unknownVariant name known => s!"unknown variant `{name}`, expected " ++ choice known
  | wrongType found expected => s!"invalid type: {found.message}, expected {expected}"
  | wrongValue found expected => s!"invalid value: {found.message}, expected {expected}"
  | noVariant => "wanted string or table"
  | variantCount true => "wanted exactly 1 element, found 0 elements"
  | variantCount false => "wanted exactly 1 element, more than 1 element"
  | notEmpty kind => s!"expected empty {kind}"
  | notTable kind => s!"expected table, found {kind}"

end Problem

/-- A problem with a range of a document. -/
structure Fault where
  range : Range
  problem : Problem
  deriving DecidableEq, Repr

end StructuralSearch.Toml
