import StructuralSearch.Regex.Basic
import StructuralSearch.Text.Blank
import StructuralSearch.Text.Folding
import StructuralSearch.Text.Word

/-!
# Regular expressions

The expressions here are rows of items.  An item is a set of characters, taken once or repeated.
Further operators, such as groups and alternatives, are not read.

* `c`, `\c`: the character itself, behind a backslash if it is an operator
* `\s`, `\S`, `\w`, `\W`: white space, word characters, and the other characters of each
* `[…]`: any character of the sets that are listed
* `x*`, `x+`: as many as possible, and with `?` behind it as few as possible
* `(?i)` in front of everything: characters agree up to case

An expression can match at a place of a text in many ways.  They are ordered by what the items
prefer, those of the first item before those of the second, and the first way counts.  Matches are
searched from left to right, each one behind the end of the match before it.  An empty match is
passed over if it stands right at this end, and behind it the search goes on one character later.
-/

namespace StructuralSearch

open Text

/-- A class of characters. -/
inductive CharClass
  | char (c : Char)
  | blank
  | nonBlank
  | word
  | nonWord
  deriving DecidableEq, Repr

/-- A part of a regular expression, which takes characters of a set. -/
inductive Item
  | once (set : List CharClass)
  | repeated (set : List CharClass) (greedy : Bool)
  deriving DecidableEq, Repr

/-- A regular expression. -/
structure Expression where
  caseInsensitive : Bool
  items : List Item
  deriving DecidableEq, Repr

/-! ### What an expression matches -/

/-- Whether a character is in a class. -/
def CharClass.holds (caseInsensitive : Bool) : CharClass → Char → Bool
  | char wanted, c => if caseInsensitive then sameFold wanted c else wanted == c
  | blank, c => isBlank c
  | nonBlank, c => !isBlank c
  | word, c => isWord c
  | nonWord, c => !isWord c

namespace Item

/-- Whether a character is in the set of an item. -/
def holds (caseInsensitive : Bool) (item : Item) (c : Char) : Bool :=
  match item with
  | once set | repeated set _ => set.any (·.holds caseInsensitive c)

/-- What an item may leave of a text, what it likes best first. -/
def rests (caseInsensitive : Bool) (item : Item) : List Char → List (List Char)
  | [] =>
    match item with
    | once _ => []
    | repeated _ _ => [[]]
  | c :: text =>
    match item with
    | once _ => if item.holds caseInsensitive c then [text] else []
    | repeated _ greedy =>
      let more := if item.holds caseInsensitive c then rests caseInsensitive item text else []
      if greedy then more ++ [c :: text] else (c :: text) :: more

/-- What items may leave of a text one after the other, what the first ones like best first. -/
def restsOfAll (caseInsensitive : Bool) : List Item → List Char → List (List Char)
  | [], text => [text]
  | item :: items, text =>
    (item.rests caseInsensitive text).flatMap (restsOfAll caseInsensitive items)

end Item

namespace Expression

/-- The length of the match at the front of a text. -/
def lengthAt (expression : Expression) (text : List Char) : Option Nat :=
  (Item.restsOfAll expression.caseInsensitive expression.items text).head?.map
    (text.length - ·.length)

/-- The lengths of the matches at all places of a text and at its end. -/
def lengths (expression : Expression) : List Char → List (Option Nat)
  | [] => [expression.lengthAt []]
  | c :: text => expression.lengthAt (c :: text) :: lengths expression text

/-- The matches from left to right, each with its place and its length.  `row` holds the length of
the match at each place, `place` is the first place there, the first `skip` places belong to the
match before, and `ended` says whether this match ends at the first place behind them. -/
def scan (place skip : Nat) (ended : Bool) : List (Option Nat) → List (Nat × Nat)
  | [] => []
  | length :: row =>
    match skip, length with
    | skip + 1, _ => scan (place + 1) skip ended row
    | 0, none => scan (place + 1) 0 false row
    | 0, some 0 =>
      if ended then scan (place + 1) 0 false row else (place, 0) :: scan (place + 1) 0 false row
    | 0, some (length + 1) => (place, length + 1) :: scan (place + 1) length true row

/-- The matches in a text, each with the number of characters in front of it and in it. -/
def ranges (expression : Expression) (text : List Char) : List (Nat × Nat) :=
  scan 0 0 false (expression.lengths text)

/-! ### How an expression is written -/

/-- A part of a regular expression as it is read. -/
inductive Part
  | set (set : List CharClass)
  | sign (c : Char)
  deriving DecidableEq, Repr

/-- What stands for a class behind a backslash. -/
def escaped? (c : Char) : Option CharClass :=
  if c = 's' then some .blank
  else if c = 'S' then some .nonBlank
  else if c = 'w' then some .word
  else if c = 'W' then some .nonWord
  else if Regex.operators.contains c then some (.char c)
  else none

/-- Reads the parts of an expression; `inside` has the classes behind a bracket that is open. -/
def parts? (inside : Option (List CharClass)) : List Char → Option (List Part)
  | [] => if inside.isNone then some [] else none
  | '\\' :: c :: text =>
    (escaped? c).bind fun read =>
      match inside with
      | some set => parts? (some (set ++ [read])) text
      | none => (parts? none text).map (.set [read] :: ·)
  | c :: text =>
    match inside with
    | some set =>
      if c = ']' then if set.isEmpty then none else (parts? none text).map (.set set :: ·)
      else if c = '$' || !Regex.operators.contains c then parts? (some (set ++ [.char c])) text
      else none
    | none =>
      if c = '[' then parts? (some []) text
      else if ['*', '+', '?'].contains c then (parts? none text).map (.sign c :: ·)
      else if Regex.operators.contains c then none
      else (parts? none text).map (.set [.char c] :: ·)

/-- Reads the items that parts stand for. -/
def items? : List Part → Option (List Item)
  | [] => some []
  | .set set :: .sign '*' :: .sign '?' :: parts => (items? parts).map (.repeated set false :: ·)
  | .set set :: .sign '*' :: parts => (items? parts).map (.repeated set true :: ·)
  | .set set :: .sign '+' :: .sign '?' :: parts =>
    (items? parts).map ([.once set, .repeated set false] ++ ·)
  | .set set :: .sign '+' :: parts => (items? parts).map ([.once set, .repeated set true] ++ ·)
  | .set set :: parts => (items? parts).map (.once set :: ·)
  | .sign _ :: _ => none

/-- Reads a regular expression. -/
def read? (source : String) : Option Expression :=
  let (caseInsensitive, text) : Bool × List Char :=
    match source.toList with
    | '(' :: '?' :: 'i' :: ')' :: text => (true, text)
    | text => (false, text)
  ((parts? none text).bind items?).map (⟨caseInsensitive, ·⟩)

end Expression

/-- **What a library is asked to do.**  The expressions that it compiles have the matches that they
have by the rules above, found from left to right. -/
def RegexLibrary.LeftmostFirst (library : RegexLibrary) : Prop :=
  ∀ source expression regex, Expression.read? source = some expression →
    library.compile source = .ok regex →
    ∀ text, (regex.find text).map Stretch.range = expression.ranges text

end StructuralSearch
