import StructuralSearch.CommandLine.Run
import StructuralSearch.Profile.Tables

/-!
# The executable

The files at the paths that the arguments name are read before the program runs, and its output is
written when it has ended.  There is no parser among the grammars here: every text is reported as
one that cannot be parsed, and searches in text mode, which need no parser, work.
-/

namespace StructuralSearch.CommandLine

/-- Reads what stands at a path, without what no walk meets. -/
partial def readEntry (path : String) : IO Entry := do
  let place ← IO.FS.realPath path
  if ← place.isDir then
    let mut directory : Directory := []
    for listed in ← place.readDir do
      if Directory.isHidden listed.fileName then continue
      let kind := (← listed.path.symlinkMetadata).type
      if kind == .symlink then
        directory := directory.put listed.fileName (.link "")
      else if kind == .file || !Directory.skippedNames.contains listed.fileName then
        directory := directory.put listed.fileName (← readEntry listed.path.toString)
    return .directory directory
  else
    return .file (String.fromUTF8? (← IO.FS.readBinFile place))

/-- Reads what stands at a path, or finds out why that is impossible. -/
def readPath (path : String) : IO (Except ReadError Entry) := do
  if let some error := ReadError.ofPath? path then return .error error
  try
    return .ok (← readEntry path)
  catch error =>
    match error with
    | .inappropriateType .. => return .error .notDirectory
    | .invalidArgument .. => return .error .nameTooLong
    | _ => return .error .missing

/-- The grammar of a language without a parser. -/
def unparsed (language : Language) : Grammar where
  profile := .ofLanguage language
  layout := {}
  parser _ := none

/-- Runs the program on its arguments and on the files that they name. -/
def runOnFiles (written : List String) : IO UInt32 := do
  let paths :=
    match Arguments.read written with
    | .ok arguments => arguments.mentioned
    | .error _ => []
  let found ← paths.mapM fun path => return (path, ← readPath path)
  let output := run (fun path => (found.lookup path).getD (.error .missing)) unparsed written
  (← IO.getStdout).putStr output.stdout
  (← IO.getStderr).putStr output.stderr
  return if output.succeeded then 0 else 1

end StructuralSearch.CommandLine

/-- The program. -/
def main (written : List String) : IO UInt32 :=
  StructuralSearch.CommandLine.runOnFiles written
