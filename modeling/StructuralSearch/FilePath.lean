import StructuralSearch.Text.Occurrence

/-!
# File paths

A path is text whose parts are divided by `/`.  Empty parts count for nothing, and neither does a
`.` behind the first part, so a trailing `/` leaves the file name alone.
-/

namespace StructuralSearch.FilePath

open Text

/-- What stands between the separators of a path. -/
def pieces (path : String) : List String :=
  (splitOnChar '/' path.toList).map String.ofList

/-- Whether a path starts at the root. -/
def isAbsolute (path : String) : Bool :=
  path.toList.head? == some '/'

/-- The parts of a path that name something, in order. -/
def parts (path : String) : List String :=
  match pieces path with
  | [] => []
  | first :: others => (first :: others.filter (· ≠ ".")).filter (· ≠ "")

/-- The way that a path takes: whether it starts at the root, and its parts.  Paths that are written
differently may take the same way. -/
def way (path : String) : Bool × List String :=
  (isAbsolute path, parts path)

/-- The name of the file a path leads to; `.` and `..` are no names. -/
def fileName? (path : String) : Option String :=
  match (parts path).getLast? with
  | some name => if name = "." ∨ name = ".." then none else some name
  | none => none

/-- What follows the last dot of a name that does not begin with its only dot. -/
def extensionOfName? (name : String) : Option String :=
  match (splitOnChar '.' name.toList).reverse with
  | last :: before :: earlier =>
    if before.isEmpty ∧ earlier.isEmpty then none else some (String.ofList last)
  | _ => none

/-- The extension of the file name of a path. -/
def extension? (path : String) : Option String :=
  (fileName? path).bind extensionOfName?

/-- The path of the entry `name` of the directory at `path`. -/
def join (path name : String) : String :=
  if path.isEmpty ∨ path.toList.getLast? = some '/' then path ++ name
  else path ++ "/" ++ name

end StructuralSearch.FilePath
