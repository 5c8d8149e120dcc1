import StructuralSearch.Toml.Number

/-!
# Strings in TOML

A string stands between double quotes, where a backslash starts an escape, or between single
quotes, where none does.  Between three quotes it may take several lines: an end of line directly
behind the opening quotes is left out, one behind a backslash is left out with the blanks after it,
and every other one counts as a line feed.  One or two quotes may stand inside, also at the end.
-/

namespace StructuralSearch.Toml.Quoted

/-- Whether a character may stand in comments and in strings. -/
def isPlain (c : Char) : Bool :=
  c = '\t' || (0x20 ≤ c.toNat && c.toNat ≠ 0x7f)

/-- Whether a character is a blank on a line. -/
def isBlank (c : Char) : Bool :=
  c = ' ' || c = '\t'

/-- What is behind the end of a line, if the text starts with one. -/
def newLine? : List Char → Option (List Char)
  | '\n' :: rest => some rest
  | '\r' :: '\n' :: rest => some rest
  | _ => none

/-- The characters that may follow a backslash. -/
def escapes : List String :=
  ["`b`", "`f`", "`n`", "`r`", "`t`", "`u`", "`U`", "`\\`", "`\"`"]

/-- The character that a letter behind a backslash stands for. -/
def escaped? : Char → Option Char
  | 'b' => some '\x08'
  | 'f' => some '\x0c'
  | 'n' => some '\n'
  | 'r' => some '\r'
  | 't' => some '\t'
  | '\\' => some '\\'
  | '"' => some '"'
  | _ => none

/-- The character of a number of `width` hexadecimal digits. -/
def coded (width : Nat) (text : List Char) : Except Misread (Char × List Char) :=
  let name := s!"unicode {width}-digit hex code"
  let digits := (text.take width).takeWhile (Numeral.isDigitOf 16)
  let value := Numeral.valueOf 16 digits
  if digits.length ≠ width then .error ⟨text, .malformed (some name) [], true⟩
  else if value.isValidChar then .ok (Char.ofNat value, text.drop width)
  else .error ⟨text, .within name .outOfRange, true⟩

/-- The escape of a backslash and the letter `c`.  An unknown letter is passed over before the
problem is seen if it takes one byte. -/
def escape (c : Char) (behind : List Char) : Except Misread (Char × List Char) :=
  match c, escaped? c with
  | 'u', _ => coded 4 behind
  | 'U', _ => coded 8 behind
  | _, some d => .ok (d, behind)
  | c, none =>
    let rest := if c.utf8Size = 1 then behind else c :: behind
    .error ⟨rest, .malformed (some "escape sequence") escapes, true⟩

/-- A string with escapes behind its opening quote. -/
def basic (fuel : Nat) (text : List Char) : Except Misread (List Char × List Char) :=
  let unclosed : Misread := ⟨text, .malformed (some "basic string") [], true⟩
  match fuel, text with
  | fuel + 1, '\\' :: c :: rest => do
    let (c, rest) ← escape c rest
    let (others, rest) ← basic fuel rest
    return (c :: others, rest)
  | fuel + 1, c :: rest =>
    if c = '"' then .ok ([], rest)
    else if c ≠ '\\' ∧ isPlain c then do
      let (others, rest) ← basic fuel rest
      return (c :: others, rest)
    else .error unclosed
  | _, _ => .error unclosed

/-- A string without escapes behind its opening quote. -/
def literal (text : List Char) : Except Misread (List Char × List Char) :=
  let inner := text.takeWhile fun c => c ≠ '\'' ∧ isPlain c
  match text.drop inner.length with
  | '\'' :: rest => .ok (inner, rest)
  | rest => .error ⟨rest, .malformed (some "literal string") [], true⟩

/-- Skips blanks and ends of lines. -/
def skipSpace (fuel : Nat) (text : List Char) : List Char :=
  match fuel with
  | 0 => text
  | fuel + 1 =>
    let rest := text.dropWhile isBlank
    match newLine? rest with
    | some rest => skipSpace fuel rest
    | none => rest

/-- What is left behind a backslash at the end of a line, which joins the line to the next one. -/
def joined? (text : List Char) : Option (List Char) :=
  match text with
  | '\\' :: rest => (newLine? (rest.dropWhile isBlank)).map fun rest => skipSpace rest.length rest
  | _ => none

/-- The next piece of a string over several lines, quotes apart: what it stands for, and what is
left; nothing where no piece begins. -/
def piece? (quote : Char) (text : List Char) : Except Misread (Option (List Char × List Char)) :=
  match newLine? text, text with
  | some rest, _ => .ok (some (['\n'], rest))
  | none, [] => .ok none
  | none, c :: rest =>
    if c = '\\' ∧ quote = '"' then
      match joined? text, rest with
      | some rest, _ => .ok (some ([], rest))
      | none, d :: rest => do
        let (d, rest) ← escape d rest
        return some ([d], rest)
      | none, [] => .ok none
    else if c ≠ quote ∧ isPlain c then .ok (some ([c], rest))
    else .ok none

/-- A string over several lines behind its opening quotes. -/
def long (quote : Char) (name : String) (fuel : Nat) (text : List Char) :
    Except Misread (List Char × List Char) :=
  match fuel with
  | 0 => .error ⟨text, .malformed (some name) [], true⟩
  | fuel + 1 => do
    match ← piece? quote text with
    | some (inner, rest) =>
      let (others, rest) ← long quote name fuel rest
      return (inner ++ others, rest)
    | none =>
      let quotes := text.takeWhile (· = quote)
      let behind := text.drop quotes.length
      if 3 ≤ quotes.length then
        let inner := (quotes.drop 3).take 2
        return (inner, text.drop (3 + inner.length))
      else if quotes.isEmpty then
        throw ⟨text, .malformed (some name) [], true⟩
      else
        match piece? quote behind with
        | .ok (some _) =>
          let (others, rest) ← long quote name fuel behind
          return (quotes ++ others, rest)
        | .ok none => throw ⟨text, .malformed (some name) [], true⟩
        | .error misread => throw { misread with rest := behind }

/-- A string in any of its forms. -/
def string (text : List Char) : Except Misread (List Char × List Char) :=
  let afterNewLine (rest : List Char) : List Char := (newLine? rest).getD rest
  match text with
  | '"' :: '"' :: '"' :: rest =>
    long '"' "multiline basic string" (rest.length + 1) (afterNewLine rest)
  | '\'' :: '\'' :: '\'' :: rest =>
    long '\'' "multiline literal string" (rest.length + 1) (afterNewLine rest)
  | '"' :: rest => basic rest.length rest
  | rest => literal (rest.drop 1)

end StructuralSearch.Toml.Quoted
