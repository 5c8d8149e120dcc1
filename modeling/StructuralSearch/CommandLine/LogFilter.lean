import StructuralSearch.CommandLine.LogFilter.Pattern
import StructuralSearch.Text.Lowercase
import StructuralSearch.Text.Utf8

/-!
# Log filters

A log filter is a list of directives with commas between them.  A directive names a level, or a
target with `=` and a level behind it; the target may be followed, or replaced, by a span in
brackets that lists fields in braces.  A field may have a value behind `=`, which is a number, a
truth value or a pattern.  Nothing is logged here, so a filter is only checked.

A directive is read by a machine with one state for each of its parts.  Blanks around it are not
read, but the level and the fields are what stands in the whole directive behind as many bytes as
the machine has read.
-/

namespace StructuralSearch.CommandLine

/-- Why a log filter is refused. -/
inductive LogFilterError
  | directive
  | level
  | pattern (flaw : LogFilter.Pattern.Flaw)
  deriving DecidableEq, Repr

/-- The report on a log filter. -/
def LogFilterError.message : LogFilterError → String
  | directive => "invalid filter directive"
  | pattern .malformed => "invalid field filter: error building NFA"
  | pattern .wordBounds =>
    "invalid field filter: unsupported regex feature for DFAs: cannot build DFAs for regexes with "
      ++ "Unicode word boundaries; switch to ASCII word boundaries, or heuristically enable "
      ++ "Unicode word boundaries or use a different regex engine"
  | level =>
    "error parsing level filter: expected one of \"off\", \"error\", \"warn\", \"info\", "
      ++ "\"debug\", \"trace\", or a number 0-5"

namespace LogFilter

/-- The part of a directive that is being read. -/
inductive Part
  | start
  | levelOrTarget
  | span
  /-- a field behind `offset` bytes -/
  | field (offset : Nat)
  | fieldsEnd
  | spanEnd
  /-- the level behind `offset` bytes -/
  | level (offset : Nat)
  deriving DecidableEq, Repr

/-- Whether a text consists of at least `least` digits. -/
def isDigits (least : Nat) (text : List Char) : Bool :=
  least ≤ text.length && text.all Char.isDigit

/-- Whether a text is a decimal number without a sign, perhaps with a fraction or an exponent. -/
def isDecimal (text : List Char) : Bool :=
  let mantissa := text.takeWhile fun c => c ≠ 'e' ∧ c ≠ 'E'
  let whole := mantissa.takeWhile (· ≠ '.')
  let fraction := (mantissa.drop whole.length).drop 1
  let exponent :=
    match text.drop mantissa.length with
    | [] => ['0']
    | _ :: '+' :: digits | _ :: '-' :: digits => digits
    | _ :: digits => digits
  isDigits 0 whole && isDigits 0 fraction && isDigits 1 (whole ++ fraction) && isDigits 1 exponent

/-- Whether a text is a number behind a plus sign.  Without the sign a number is a pattern too. -/
def isSignedNumber : List Char → Bool
  | '+' :: text =>
    isDecimal text
      || ["inf", "infinity", "nan"].contains (Text.asciiLowercase (String.ofList text))
  | _ => false

/-- Checks a field. -/
def checkField (text : List Char) : Except LogFilterError Unit :=
  match text.splitOn '=' with
  | _ :: value :: _ =>
    if isSignedNumber value then .ok () else (Pattern.check value).mapError .pattern
  | _ => .ok ()

/-- Reads the character of a directive that is behind `offset` bytes. -/
def step (directive : List Char) (offset : Nat) : Part → Char → Except LogFilterError Part
  | .start, '[' => .ok .span
  | .start, c =>
    if c = '-' ∨ c = ':' ∨ c = '_' ∨ Text.isAlphanumeric c then .ok .levelOrTarget
    else .error .directive
  | .levelOrTarget, '=' => .ok (.level (offset + 1))
  | .levelOrTarget, '[' => .ok .span
  | .levelOrTarget, _ => .ok .levelOrTarget
  | .span, ']' => .ok .spanEnd
  | .span, '\x7b' => .ok (.field (offset + 1))
  | .span, _ => .ok .span
  | .field start, '\x7d' =>
    if start = offset then .error .directive
    else do
      checkField ((Text.sliceBytes? start offset directive).getD [])
      return .fieldsEnd
  | .field start, _ => .ok (.field start)
  | .fieldsEnd, ']' => .ok .spanEnd
  | .fieldsEnd, _ => .error .directive
  | .spanEnd, '=' => .ok (.level (offset + 1))
  | .spanEnd, _ => .error .directive
  | .level start, _ => .ok (.level start)

/-- Reads the characters of a directive that are behind `offset` bytes. -/
def run (directive : List Char) (offset : Nat) (part : Part) :
    List Char → Except LogFilterError Part
  | [] => .ok part
  | c :: rest => do
    let part ← step directive offset part c
    run directive (offset + c.utf8Size) part rest

/-- The names of the levels. -/
def levelNames : List String := ["off", "error", "warn", "info", "debug", "trace"]

/-- Whether a text is a number from zero to five, with a plus sign or without. -/
def isLevelNumber (text : List Char) : Bool :=
  let digits :=
    match text with
    | '+' :: digits => digits
    | digits => digits
  match digits.dropWhile (· = '0') with
  | [] => !digits.isEmpty
  | [digit] => '1' ≤ digit && digit ≤ '5'
  | _ => false

/-- Whether a text is a level; the empty one stands for a default. -/
def isLevel (text : List Char) : Bool :=
  text.isEmpty || isLevelNumber text
    || levelNames.contains (Text.asciiLowercase (String.ofList text))

/-- Checks a directive. -/
def checkDirective (directive : List Char) : Except LogFilterError Unit := do
  match ← run directive 0 .start (Text.trimWhile Text.isBlank directive) with
  | .levelOrTarget | .spanEnd => return ()
  | .level offset =>
    let written := (Text.splitAtByte? offset directive).elim [] (·.2)
    if isLevel written then return () else throw .level
  | .start | .span | .field _ | .fieldsEnd => throw .directive

/-- Checks a log filter. -/
def check (filter : String) : Except LogFilterError Unit :=
  ((filter.toList.splitOn ',').filter (!·.isEmpty)).forM checkDirective

end LogFilter

end StructuralSearch.CommandLine
