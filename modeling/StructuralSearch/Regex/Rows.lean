import StructuralSearch.Regex.Expression

/-!
# Matching by rows

All matches of an expression are computed at once.  `Item.row` goes from the last item to the first
and holds, for each place of the text and for its end, how much of the text is left behind the match
of the items from there on.  What an item likes best is decided at each place by a look at the place
behind it, so nothing is tried twice.

`RegexLibrary.concatenations` is a library that matches in this way.  It refuses an expression whose
estimated size is above a limit.
-/

namespace StructuralSearch

/-- The matches of an item in front of other items.  `next` holds, for each place of the text and for
its end, the length of what is left behind the match of the other items at that place. -/
def Item.row (caseInsensitive : Bool) (item : Item) :
    List Char → List (Option Nat) → List (Option Nat)
  | c :: text, here :: next =>
    let later := row caseInsensitive item text next
    let behind := next.head?.getD none
    let again := later.head?.getD none
    let result :=
      match item with
      | once _ => if item.holds caseInsensitive c then behind else none
      | repeated _ greedy =>
        let more := if item.holds caseInsensitive c then again else none
        if greedy then more.or here else here.or more
    result :: later
  | _, next =>
    match item with
    | once _ => [none]
    | repeated _ _ => [next.head?.getD none]

namespace Expression

/-- The length of each suffix of a text, the text itself first. -/
def suffixLengths {α : Type} : List α → List Nat
  | [] => [0]
  | _ :: text =>
    let shorter := suffixLengths text
    (shorter.headD 0 + 1) :: shorter

variable (expression : Expression)

/-- For each place of a text and for its end, the length of what is left behind the match there. -/
def matchRow (text : List Char) : List (Option Nat) :=
  expression.items.foldr (fun item next => item.row expression.caseInsensitive text next)
    ((suffixLengths text).map some)

/-- For each place of a text and for its end, the number of characters in the match there. -/
def takenRow (text : List Char) : List (Option Nat) :=
  List.zipWith (fun length left => left.map (length - ·)) (suffixLengths text)
    (expression.matchRow text)

/-- The matches in a text. -/
def find (text : List Char) : List (Stretch text) :=
  (scan 0 0 false (expression.takenRow text)).map (Stretch.ofRange text)

/-- An estimate of the size of a compiled item in bytes.  Only the word characters count, which make
up hundreds of ranges. -/
def itemSize : Item → Nat
  | .once set | .repeated set _ => if set.contains .word then 20972 else 0

/-- An estimate of the size of the compiled expression in bytes. -/
def compiledSize : Nat :=
  expression.items.foldr (fun item size => itemSize item + size) 0

/-- The largest size of a compiled expression in bytes. -/
def sizeLimit : Nat := 10485760

end Expression

/-- A library for rows of items. -/
def RegexLibrary.concatenations : RegexLibrary where
  compile source :=
    match Expression.read? source with
    | none => .error "regex parse error"
    | some expression =>
      if expression.compiledSize ≤ Expression.sizeLimit then
        .ok ⟨expression.find⟩
      else
        .error s!"Compiled regex exceeds size limit of {Expression.sizeLimit} bytes."

end StructuralSearch
