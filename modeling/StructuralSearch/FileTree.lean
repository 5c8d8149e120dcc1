import StructuralSearch.FilePath

/-!
# File trees

A directory holds named entries: files, directories and links.  A path is followed part by part
from a directory; a `..` leads back to where one came from, a link is replaced by the path that it
names, and after forty links the path is given up.  A path cannot hold the character NUL, and
neither it nor a name in it may be too long; a long name is noticed where it is looked up.  The
entries of a directory are kept in the order of their names, so that a walk meets them in that
order.
-/

namespace StructuralSearch

/-- Why nothing can be read at a path. -/
inductive ReadError
  | missing
  | notDirectory
  | isDirectory
  | tooManyLinks
  | nameTooLong
  /-- the path holds the character NUL -/
  | nulInPath
  | notText
  deriving DecidableEq, Repr

/-- The wording of a read error. -/
def ReadError.message : ReadError → String
  | missing => "No such file or directory (os error 2)"
  | notDirectory => "Not a directory (os error 20)"
  | isDirectory => "Is a directory (os error 21)"
  | tooManyLinks => "Too many levels of symbolic links (os error 40)"
  | nameTooLong => "File name too long (os error 36)"
  | nulInPath => "file name contained an unexpected NUL byte"
  | notText => "stream did not contain valid UTF-8"

/-- The number of bytes that a path needs at least to be too long. -/
def pathLimit : Nat := 4096

/-- The number of bytes that a name may have. -/
def nameLimit : Nat := 255

/-- What keeps a path from being followed at all. -/
def ReadError.ofPath? (path : String) : Option ReadError :=
  if path.toList.contains '\x00' then some .nulInPath
  else if pathLimit ≤ path.utf8ByteSize then some .nameTooLong
  else none

/-- What a directory holds under a name. -/
inductive Entry where
  /-- a file, with its text if its bytes are one -/
  | file (content : Option String)
  | directory (entries : List (String × Entry))
  /-- a link to a path, which starts at the directory that holds the link -/
  | link (target : String)

namespace Entry

/-- The text of a file. -/
def text : Entry → Except ReadError String
  | file (some text) => .ok text
  | file none => .error .notText
  | directory _ => .error .isDirectory
  | link _ => .error .missing

end Entry

/-- The entries of a directory in the order of their names. -/
abbrev Directory := List (String × Entry)

namespace Directory

/-- The entry under a name. -/
def get? (name : String) (directory : Directory) : Option Entry :=
  (directory.find? (·.1 = name)).map (·.2)

/-- The directory with an entry under a name, where it takes the place of what was there. -/
def put (name : String) (entry : Entry) : Directory → Directory
  | [] => [(name, entry)]
  | (other, old) :: entries =>
    if name = other then (name, entry) :: entries
    else if name < other then (name, entry) :: (other, old) :: entries
    else (other, old) :: put name entry entries

/-- What was put under a name is found there. -/
theorem get?_put_self (name : String) (entry : Entry) (directory : Directory) :
    get? name (put name entry directory) = some entry := by
  induction directory with
  | nil => simp [put, get?]
  | cons head entries ih =>
    obtain ⟨other, old⟩ := head
    simp only [put]
    split
    · simp [get?]
    · rename_i differs
      split
      · simp [get?]
      · have skipped : ¬ other = name := fun e => differs e.symm
        simpa [get?, List.find?_cons, skipped] using ih

/-- The directory under a name, empty if there is none. -/
def inner (name : String) (directory : Directory) : Directory :=
  match directory.get? name with
  | some (.directory entries) => entries
  | _ => []

/-- The directory in which the directories along `parts` are there. -/
def putDirectory (directory : Directory) : List String → Directory
  | [] => directory
  | part :: parts => directory.put part (.directory ((directory.inner part).putDirectory parts))

/-- The directory with an entry at the end of the path along `parts` and `name`. -/
def putAt (name : String) (entry : Entry) (directory : Directory) : List String → Directory
  | [] => directory.put name entry
  | part :: parts => directory.put part (.directory ((directory.inner part).putAt name entry parts))

/-- The names along a path of bytes; a part whose bytes are no text has none. -/
def namesOfBytes (path : List UInt8) : List (Option String) :=
  let parts := (path.splitOn 0x2f).filter fun part => !part.isEmpty && part != [0x2e]
  parts.map fun part => String.fromUTF8? ⟨part.toArray⟩

/-- The directory with an entry at a path of bytes.  Of a path that no text leads to, only the
directories on the way are added. -/
def add (path : List UInt8) (entry : Entry) (directory : Directory) : Directory :=
  let names := namesOfBytes path
  let known := (names.takeWhile (·.isSome)).filterMap id
  match known.getLast? with
  | some name =>
    if known.length = names.length then directory.putAt name entry known.dropLast
    else directory.putDirectory known
  | none => directory

/-- Where the parts of a path lead: to an entry, or to a link with the path still to be followed
from the directories around it, the innermost first. -/
inductive Arrival
  | entry (entry : Entry)
  | link (around : List Directory) (parts : List String)

/-- The directories around a place, one level further out; nothing is outside the outermost. -/
def leave : List Directory → List Directory
  | _ :: outer :: around => outer :: around
  | around => around

/-- What is around a tree, where absolute paths start and where `..` leads from the directory of the
tree.  Only the null device is known there, which is read as an empty file. -/
def outermost : Directory :=
  [("dev", .directory [("null", .file (some ""))])]

/-- Follows the parts of a path up to the first link. -/
def descend (around : List Directory) : List String → Except ReadError Arrival
  | [] => .ok (.entry (.directory (around.headD [])))
  | part :: parts =>
    if part = "" ∨ part = "." then descend around parts
    else if part = ".." then descend (leave around) parts
    else if nameLimit < part.utf8ByteSize then .error .nameTooLong
    else
      match get? part (around.headD []) with
      | none => .error .missing
      | some (.directory inner) => descend (inner :: around) parts
      | some (.file content) =>
        if parts.isEmpty then .ok (.entry (.file content)) else .error .notDirectory
      | some (.link target) =>
        .ok (.link (if FilePath.isAbsolute target then [outermost] else around)
          (FilePath.pieces target ++ parts))

/-- Follows the parts of a path through at most `links` links. -/
def follow (links : Nat) (around : List Directory) (parts : List String) :
    Except ReadError Entry := do
  match ← descend around parts with
  | .entry entry => return entry
  | .link around parts =>
    match links with
    | 0 => throw .tooManyLinks
    | links + 1 => follow links around parts

/-- What stands at a path that starts at the directory or is absolute. -/
def look (directory : Directory) (path : String) : Except ReadError Entry :=
  match ReadError.ofPath? path with
  | some error => .error error
  | none =>
    if path = "" then .error .missing
    else
      follow 40 (if FilePath.isAbsolute path then [outermost] else [directory, outermost])
        (FilePath.pieces path)

/-- The names of directories that no walk enters. -/
def skippedNames : List String :=
  ["node_modules", "target", "dist", "build", "__pycache__", "venv"]

/-- Whether a name is hidden. -/
def isHidden (name : String) : Bool :=
  name.toList.head? == some '.'

mutual

/-- The files below a directory at `path` that `accepts` takes, in the order of their names.  Hidden
entries and skipped directories are left out, and links are neither files nor followed. -/
def walk (accepts : String → Bool) (path : String) :
    List (String × Entry) → List (String × Except ReadError String)
  | [] => []
  | (name, entry) :: entries =>
    (if isHidden name then [] else walkEntry accepts name (FilePath.join path name) entry)
      ++ walk accepts path entries

/-- The files at and below an entry with its name and its path. -/
def walkEntry (accepts : String → Bool) (name path : String) :
    Entry → List (String × Except ReadError String)
  | .file content => if accepts path then [(path, (Entry.file content).text)] else []
  | .directory entries => if skippedNames.contains name then [] else walk accepts path entries
  | .link _ => []

end

end Directory

end StructuralSearch
