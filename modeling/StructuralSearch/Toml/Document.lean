import StructuralSearch.Toml.Basic

/-!
# Documents from their sections

A document is put together from entries whose keys may have dots and from sections under headers.
A header leads through any table that is not written between braces, and through the last table of
an array of them; tables that are missing on the way come to be.  It opens a section that
is added to the document once the next header is met.  A table that has only been led through may
still get a header, and its tables then start the section.

A key with dots leads only through tables that have no header, and the last one has to come from
keys with dots.  Between braces it leads through tables that come from keys with dots in the same
braces.
-/

namespace StructuralSearch.Toml

/-- What leads through a table. -/
inductive Route
  | header
  | dotted
  | braced
  deriving DecidableEq, Repr

/-- How a table is written that comes to be on a route. -/
def Route.style : Route → TableStyle
  | .header => .implied
  | .dotted | .braced => .dotted

namespace Table

/-- The table with a changed value under a key, or with a new entry at its end; the change may tell
something. -/
def alter {α : Type} (key : Key) (change : Option Value → Except Problem (Value × α)) :
    Table → Except Problem (Table × α)
  | [] => do
    let (value, told) ← change none
    return ([(key, value)], told)
  | (other, value) :: entries =>
    if other.name = key.name then do
      let (value, told) ← change (some value)
      return ((other, value) :: entries, told)
    else do
      let (entries, told) ← alter key change entries
      return ((other, value) :: entries, told)

/-- The value under a key. -/
def value? (name : String) (table : Table) : Option Value :=
  (table.find? fun entry => entry.1.name = name).map (·.2)

/-- The names of keys. -/
def names (keys : List Key) : List String :=
  keys.map (·.name)

/-- Changes the table that keys lead to; `walked` are the keys on the way, and `style` is how the
table is written from which they lead. -/
def changeAt {α : Type} (route : Route)
    (change : TableStyle → Table → Except Problem (Table × α)) (walked : List Key)
    (style : TableStyle) : List Key → Table → Except Problem (Table × α)
  | [], table => change style table
  | key :: keys, table =>
    let walked := walked ++ [key]
    table.alter key fun
    | none => do
      let (entries, told) ← changeAt route change walked route.style keys []
      return (.table none route.style entries, told)
    | some (.table range style entries) =>
      match route, style with
      | .header, .inlined | .dotted, .inlined =>
        .error (.extendsValue (names walked) "inline table")
      | .dotted, .headed | .braced, .inlined => .error (.duplicateKey key.name none)
      | _, _ => do
        let (entries, told) ← changeAt route change walked style keys entries
        return (.table range style entries, told)
    | some (.tables range items) =>
      match items.getLast? with
      | some (.table last style entries) => do
        let (entries, told) ← changeAt route change walked style keys entries
        return (.tables range (items.dropLast ++ [.table last style entries]), told)
      | _ => .error (.extendsValue (names walked) "array of tables")
    | some other => .error (.extendsValue (names walked) other.kind)

/-- Adds an entry to the table that keys lead to; `inTable` is the path of the table from which
they lead, where problems tell it. -/
def addEntry (route : Route) (inTable : Option (List String)) (path : List Key) (key : Key)
    (value : Value) (table : Table) : Except Problem Table := do
  let (table, _) ← changeAt route (fun style entries =>
    if style = .dotted ↔ path.isEmpty then .error (.duplicateKey key.name none)
    else entries.alter key fun
      | none => .ok (value, ())
      | some _ => .error (.duplicateKey key.name inTable)) [] .headed path table
  return table

/-- Adds an entry of a section at `inTable`. -/
def addDotted (inTable : List String) (path : List Key) (key : Key) (value : Value)
    (table : Table) : Except Problem Table :=
  table.addEntry .dotted (some inTable) path key value

/-- Adds an entry between braces. -/
def addBraced (path : List Key) (key : Key) (value : Value) (table : Table) :
    Except Problem Table :=
  table.addEntry .braced none path key value

end Table

/-- A header: the keys between its brackets, of which the last one names its table, and whether
each such header starts a new table. -/
structure Header where
  path : List Key
  key : Key
  isRepeated : Bool
  range : Range

namespace Header

/-- The names of all keys of a header. -/
def names (header : Header) : List String :=
  Table.names (header.path ++ [header.key])

/-- The problem that the table of a header is there already. -/
def duplicate (header : Header) : Problem :=
  .duplicateKey (writtenKey header.key.name) (some (Table.names header.path))

/-- Takes out what there is of the table of a header: the entries that it starts with. -/
def takeOut (header : Header) (parent : Table) : Except Problem (Table × Table) :=
  match parent.value? header.key.name with
  | none => .ok (parent, [])
  | some (.table _ .implied entries) =>
    if header.isRepeated then .error header.duplicate
    else .ok (parent.filter fun entry => entry.1.name ≠ header.key.name, entries)
  | some (.tables ..) =>
    if header.isRepeated then .ok (parent, []) else .error header.duplicate
  | some _ => .error header.duplicate

/-- Adds the table of a header with its range and entries. -/
def putBack (header : Header) (range : Range) (entries parent : Table) :
    Except Problem (Table × Unit) :=
  let table := Value.table (some range) .headed entries
  if header.isRepeated then
    parent.alter header.key fun
    | some (.tables first items) => .ok (.tables (first.through range) (items ++ [table]), ())
    | _ => .ok (.tables range [table], ())
  else .ok (parent ++ [(header.key, table)], ())

end Header

/-- The open section of a document: its header with the range up to the last entry. -/
structure Section where
  header : Header
  range : Range

/-- A document in the making: what is closed, and the section that is open with its entries; the
entries before the first header have no section. -/
structure Draft where
  closed : Table := []
  openSection : Option Section := none
  entries : Table := []

namespace Draft

/-- The document with the open section closed. -/
def close (draft : Draft) : Except Problem Table :=
  match draft.openSection with
  | none => .ok draft.entries
  | some ⟨header, range⟩ => do
    let (table, _) ← draft.closed.changeAt .header
      (fun _ parent => header.putBack range draft.entries parent) [] .headed header.path
    return table

/-- Closes the open section and opens the one of a header. -/
def start (draft : Draft) (header : Header) : Except Problem Draft := do
  let (closed, entries) ← (← draft.close).changeAt .header
    (fun _ parent => header.takeOut parent) [] .headed header.path
  return { closed, openSection := some ⟨header, header.range⟩, entries }

/-- Adds an entry to the open section. -/
def add (draft : Draft) (path : List Key) (key : Key) (value : Value) : Except Problem Draft := do
  let inTable := draft.openSection.elim [] fun opened => opened.header.names
  let entries ← draft.entries.addDotted inTable path key value
  let openSection := draft.openSection.map fun opened =>
    { opened with range := value.range?.elim opened.range opened.range.through }
  return { draft with openSection, entries }

end Draft

end StructuralSearch.Toml
