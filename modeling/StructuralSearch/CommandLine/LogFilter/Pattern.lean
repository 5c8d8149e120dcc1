import StructuralSearch.Text.Alphanumeric
import StructuralSearch.Text.Blank

/-!
# Patterns of field values

A log filter can ask for fields whose values match a regular expression.  Nothing is matched here;
a pattern is only checked.  It is refused when it is malformed, when its parts nest too deeply, or
when it could match something that is not UTF-8, and also when it asks for the bounds of words by
the rules of Unicode.

A pattern stands between braces, so no closing brace is ever met: what needs one is malformed.

Reading a part gives what counts for the checks: how deeply other parts nest in it, and whether it
asks for bounds of words.
-/

namespace StructuralSearch.CommandLine.LogFilter.Pattern

/-- The switches that change how a pattern is read. -/
structure Switches where
  /-- characters are those of Unicode, else they are bytes -/
  unicode : Bool := true
  /-- blanks and comments are left out -/
  spaced : Bool := false
  deriving DecidableEq, Repr

/-- What counts of a part of a pattern. -/
structure Part where
  depth : Nat := 0
  wordBounds : Bool := false
  deriving DecidableEq, Repr

namespace Part

/-- Two parts beside one another. -/
def beside (a b : Part) : Part :=
  ⟨max a.depth b.depth, a.wordBounds || b.wordBounds⟩

/-- A part inside another one. -/
def inside (part : Part) : Part :=
  { part with depth := part.depth + 1 }

end Part

/-- Skips what is left out. -/
def skipSpace (switches : Switches) (fuel : Nat) (text : List Char) : List Char :=
  match fuel, text with
  | fuel + 1, c :: rest =>
    if ¬switches.spaced then text
    else if c = '#' then skipSpace switches fuel ((rest.dropWhile (· ≠ '\n')).drop 1)
    else if Text.isBlank c then skipSpace switches fuel rest
    else text
  | _, text => text

/-- What is left of a text once that is skipped which is left out. -/
def skip (switches : Switches) (text : List Char) : List Char :=
  skipSpace switches text.length text

/-! ### Escapes -/

/-- What a character or an escape stands for. -/
inductive Atom
  | literal (c : Char)
  | set
  | position (wordBounds : Bool)
  deriving DecidableEq, Repr

/-- The value of a hexadecimal digit. -/
def hexValue? (c : Char) : Option Nat :=
  if '0' ≤ c ∧ c ≤ '9' then some (c.toNat - '0'.toNat)
  else if 'a' ≤ c ∧ c ≤ 'f' then some (c.toNat - 'a'.toNat + 10)
  else if 'A' ≤ c ∧ c ≤ 'F' then some (c.toNat - 'A'.toNat + 10)
  else none

/-- Reads the hexadecimal digits of a number, behind a first part with the value `value`. -/
def hexNumber (switches : Switches) (value : Nat) : Nat → List Char → Option (Nat × List Char)
  | 0, text => some (value, text)
  | count + 1, text => do
    let digit ← text.head?.bind hexValue?
    hexNumber switches (value * 16 + digit) count (skip switches (text.drop 1))

/-- Reads a character that is given by a number of so many digits. -/
def coded (switches : Switches) (isByte : Bool) (count : Nat) (text : List Char) :
    Option (Atom × List Char) := do
  let (value, rest) ← hexNumber switches 0 count (skip switches text)
  if ¬value.isValidChar ∨ (isByte ∧ ¬switches.unicode ∧ 0x80 ≤ value) then none
  else return (.literal (Char.ofNat value), rest)

/-- The letters of the kinds of characters that have one letter. -/
def kindLetters : List Char := "CLMNPSZclmnpsz".toList

/-- Reads the letter of a kind of characters. -/
def kind (switches : Switches) (text : List Char) : Option (Atom × List Char) :=
  match skip switches text with
  | c :: rest =>
    if switches.unicode ∧ c ∈ kindLetters then some (.set, skip switches rest) else none
  | [] => none

/-- Reads what stands behind a backslash. -/
def escape (switches : Switches) : List Char → Option (Atom × List Char)
  | [] => none
  | c :: rest =>
    match c with
    | 'x' => coded switches true 2 rest
    | 'u' => coded switches false 4 rest
    | 'U' => coded switches false 8 rest
    | 'p' | 'P' => kind switches rest
    | 'd' | 's' | 'w' => some (.set, rest)
    | 'D' | 'S' | 'W' => if switches.unicode then some (.set, rest) else none
    | 'a' | 'f' | 't' | 'n' | 'r' | 'v' => some (.literal c, rest)
    | 'A' | 'z' => some (.position false, rest)
    | 'b' => if rest.head? = some '\x7b' then none else some (.position switches.unicode, rest)
    | 'B' | '<' | '>' => some (.position switches.unicode, rest)
    | _ => if c.toNat < 0x80 ∧ ¬c.isAlphanum then some (.literal c, rest) else none

/-! ### Sets of characters -/

/-- The names of the sets that are written between colons. -/
def setNames : List String :=
  ["alnum", "alpha", "ascii", "blank", "cntrl", "digit", "graph", "lower", "print", "punct",
    "space", "upper", "word", "xdigit"]

/-- Reads a set that is written between colons, behind its bracket: whether it is the complement,
and what is left. -/
def namedSet? : List Char → Option (Bool × List Char)
  | ':' :: rest =>
    let isComplement := rest.head? = some '^'
    let rest := if isComplement then rest.drop 1 else rest
    let name := rest.takeWhile (· ≠ ':')
    match rest.drop name.length with
    | ':' :: ']' :: rest =>
      if String.ofList name ∈ setNames then some (isComplement, rest) else none
    | _ => none
  | _ => none

/-- Skips hyphens, of which there may be any number at the start of a set, and counts them. -/
def hyphens (switches : Switches) (fuel : Nat) (text : List Char) : Nat × List Char :=
  match fuel, text with
  | fuel + 1, '-' :: rest =>
    let (count, rest) := hyphens switches fuel (skip switches rest)
    (count + 1, rest)
  | _, text => (0, text)

/-- Reads the start of a set behind its bracket: whether it is the complement, and the number of
characters that have a meaning of their own elsewhere. -/
def openSet (switches : Switches) (text : List Char) : Bool × Nat × List Char :=
  let text := skip switches text
  let isComplement := text.head? = some '^'
  let text := if isComplement then skip switches (text.drop 1) else text
  match hyphens switches text.length text with
  | (0, ']' :: rest) => (isComplement, 1, skip switches rest)
  | (count, rest) => (isComplement, count, rest)

/-- Reads a character or an escape in a set. -/
def setAtom (switches : Switches) : List Char → Option (Atom × List Char)
  | [] => none
  | c :: rest => do
    let (atom, rest) ← if c = '\\' then escape switches rest else some (.literal c, rest)
    match atom with
    | .literal c => if switches.unicode ∨ c.toNat < 0x80 then return (atom, rest) else none
    | .set => return (atom, rest)
    | .position _ => none

/-- Reads a character, a range or an escape in a set. -/
def setRange (switches : Switches) (text : List Char) : Option (List Char) := do
  let (first, rest) ← setAtom switches text
  match skip switches rest with
  | [] => none
  | '-' :: behind =>
    let next := skip switches behind
    if next.head? = some ']' ∨ next.head? = some '-' then return '-' :: behind
    let (last, rest) ← setAtom switches next
    match first, last with
    | .literal c, .literal d => if c ≤ d then return rest else none
    | _, _ => none
  | rest => return rest

/-- The depth of some elements of a set beside one another. -/
def unionDepth (count depth : Nat) : Nat :=
  if count ≤ 1 then depth else depth + 1

/-- Reads a set up to its closing bracket, and tells its depth.  The elements since the last
operator are `count` in number and nest up to `depth`; `left` is the depth of what stands before
that operator. -/
def setBody (switches : Switches) (fuel : Nat) (left : Option Nat) (count depth : Nat)
    (text : List Char) : Option (Nat × List Char) :=
  let union := unionDepth count depth
  let joined := left.elim union fun left => max left union + 1
  match fuel, skip switches text with
  | 0, _ | _, [] => none
  | _ + 1, ']' :: rest => some (joined, rest)
  | fuel + 1, '[' :: rest =>
    match namedSet? rest with
    | some (isComplement, rest) =>
      if isComplement ∧ ¬switches.unicode then none
      else setBody switches fuel left (count + 1) depth rest
    | none => do
      let (isComplement, started, rest) := openSet switches rest
      if isComplement ∧ ¬switches.unicode then none
      else
        let (inner, rest) ← setBody switches fuel none started 0 rest
        setBody switches fuel left (count + 1) (max depth (inner + 1)) rest
  | fuel + 1, '&' :: '&' :: rest | fuel + 1, '-' :: '-' :: rest | fuel + 1, '~' :: '~' :: rest =>
    setBody switches fuel (some joined) 0 0 rest
  | fuel + 1, text => do
    let rest ← setRange switches text
    setBody switches fuel left (count + 1) depth rest

/-- Reads a set of characters behind its bracket. -/
def set (switches : Switches) (text : List Char) : Option (Part × List Char) := do
  let (isComplement, started, rest) := openSet switches text
  if isComplement ∧ ¬switches.unicode then none
  else
    let (depth, rest) ← setBody switches (text.length + 1) none started 0 rest
    return (⟨depth + 1, false⟩, rest)

/-! ### Groups -/

/-- The letters of switches. -/
def switchLetters : List Char := "imsuxRU".toList

/-- Reads switches up to the sign that ends them, with those that were read before. -/
def readSwitches (read : List Char) (switches : Switches) :
    List Char → Option (List Char × Switches × List Char)
  | [] => none
  | c :: rest =>
    if c = ':' ∨ c = ')' then
      if read.getLast? = some '-' then none else some (read, switches, c :: rest)
    else if c ∈ read ∨ (c ≠ '-' ∧ c ∉ switchLetters) then none
    else
      let isOn := '-' ∉ read
      let switches :=
        match c with
        | 'u' => { switches with unicode := isOn }
        | 'x' => { switches with spaced := isOn }
        | _ => switches
      readSwitches (read ++ [c]) switches rest

/-- Reads the name of a group up to the angle that closes it. -/
def groupName (text : List Char) : Option (List Char × List Char) :=
  let name := text.takeWhile (· ≠ '>')
  let isFirst (c : Char) : Bool := c = '_' || (Text.isAlphanumeric c && !c.isDigit)
  let isOther (c : Char) : Bool :=
    c = '_' || c = '.' || c = '[' || c = ']' || Text.isAlphanumeric c
  match name, text.drop name.length with
  | c :: others, _ :: rest => if isFirst c ∧ others.all isOther then some (name, rest) else none
  | _, _ => none

/-- What a bracket opens. -/
inductive Opening
  | group (switches : Switches)
  | named (name : List Char)
  | switches (switches : Switches)
  deriving DecidableEq, Repr

/-- Reads the start of a group behind its bracket. -/
def openGroup (switches : Switches) (text : List Char) : Option (Opening × List Char) :=
  match skip switches text with
  | '?' :: '=' :: _ | '?' :: '!' :: _ | '?' :: '<' :: '=' :: _ | '?' :: '<' :: '!' :: _ => none
  | '?' :: 'P' :: '<' :: rest | '?' :: '<' :: rest =>
    (groupName rest).map fun (name, rest) => (.named name, rest)
  | '?' :: rest =>
    match readSwitches [] switches rest with
    | some (read, new, ')' :: rest) => if read.isEmpty then none else some (.switches new, rest)
    | some (_, new, _ :: rest) => some (.group new, rest)
    | _ => none
  | rest => some (.group switches, rest)

/-! ### Patterns -/

/-- A group, or the whole, while it is read: the alternatives that are complete, and the parts of
the one that is open, the last one first; a part is missing where switches stand. -/
structure Level where
  complete : Option Part := none
  parts : List (Option Part) := []
  deriving DecidableEq, Repr

namespace Level

/-- The alternative that is open. -/
def alternative (level : Level) : Part :=
  match level.parts with
  | [] => {}
  | [part] => part.getD {}
  | parts => (parts.foldl (fun all part => Part.beside all (part.getD {})) {}).inside

/-- All of the alternatives. -/
def whole (level : Level) : Part :=
  level.complete.elim level.alternative fun part => (part.beside level.alternative).inside

/-- The level with one more part. -/
def push (level : Level) (part : Option Part) : Level :=
  { level with parts := part :: level.parts }

/-- The level with an alternative that is complete. -/
def turn (level : Level) : Level :=
  let complete := level.complete.elim level.alternative (Part.beside · level.alternative)
  ⟨some complete, []⟩

end Level

/-- Reads a pattern, at most `fuel` parts of it.  The groups around the open one are kept with
their switches, and the names of groups are kept too. -/
def scan (fuel : Nat) (names : List (List Char)) (outer : List (Switches × Level))
    (switches : Switches) (level : Level) (text : List Char) : Option Part :=
  match fuel, skip switches text with
  | 0, _ => none
  | _ + 1, [] => if outer.isEmpty then some level.whole else none
  | fuel + 1, c :: rest =>
    match c with
    | '(' => do
      let enter (names : List (List Char)) (inner : Switches) (rest : List Char) :=
        scan fuel names ((switches, level) :: outer) inner {} rest
      match ← openGroup switches rest with
      | (.switches new, rest) => scan fuel names outer new (level.push none) rest
      | (.group inner, rest) => enter names inner rest
      | (.named name, rest) => if name ∈ names then none else enter (name :: names) switches rest
    | ')' =>
      match outer with
      | [] => none
      | (switches, around) :: outer =>
        scan fuel names outer switches (around.push (some level.whole.inside)) rest
    | '|' => scan fuel names outer switches level.turn rest
    | '[' => do
      let (part, rest) ← set switches rest
      scan fuel names outer switches (level.push (some part)) rest
    | '?' | '*' | '+' =>
      match level.parts with
      | some part :: parts =>
        let rest := if rest.head? = some '?' then rest.drop 1 else rest
        scan fuel names outer switches { level with parts := some part.inside :: parts } rest
      | _ => none
    | '\x7b' => none
    | '.' =>
      if switches.unicode then scan fuel names outer switches (level.push (some {})) rest
      else none
    | '\\' => do
      let (atom, rest) ← escape switches rest
      let wordBounds := atom = .position true
      scan fuel names outer switches (level.push (some ⟨0, wordBounds⟩)) rest
    | _ => scan fuel names outer switches (level.push (some {})) rest

/-- How deeply parts may nest. -/
def depthLimit : Nat := 250

/-- Why a pattern is refused. -/
inductive Flaw
  | malformed
  | wordBounds
  deriving DecidableEq, Repr

/-- Checks a pattern. -/
def check (text : List Char) : Except Flaw Unit :=
  match scan (text.length + 1) [] [] {} {} text with
  | none => .error .malformed
  | some part =>
    if depthLimit < part.depth then .error .malformed
    else if part.wordBounds then .error .wordBounds
    else .ok ()

/-- The empty pattern is fine. -/
theorem check_nil : check [] = .ok () := rfl

end StructuralSearch.CommandLine.LogFilter.Pattern
