import StructuralSearch.Text.Blank
import StructuralSearch.Text.Lowercase

/-!
# Leaf rules

The text of a leaf is brought into a form in which irrelevant differences of spelling are gone.
Each rule names one such form.
-/

namespace StructuralSearch

/-- How the text of a leaf is normalised. -/
inductive LeafRule
  /-- one pair of equal quotes is taken off, if it is one of these -/
  | unquoted (quotes : List Char)
  /-- leading `@` are dropped, then one pair of double quotes is taken off -/
  | verbatim
  /-- all double quotes at the two ends are dropped -/
  | bare
  /-- words are kept with one space between them -/
  | collapsed
  /-- the quotes at the end are dropped and the letters before them are in lower case -/
  | quoteMark
  /-- nothing is kept -/
  | erased
  deriving DecidableEq, Repr

namespace LeafRule

open Text

/-- The text without the first and the last character, if these are two places with the same
character and that is one of `quotes`. -/
def stripQuotes (quotes : List Char) (text : List Char) : List Char :=
  match text with
  | first :: second :: rest =>
    let inner := (second :: rest).dropLast
    if (second :: rest).getLast (by simp) = first ∧ first ∈ quotes then inner else text
  | _ => text

/-- The normal form of a text under a rule. -/
def apply (rule : LeafRule) (text : String) : String :=
  match rule with
  | unquoted quotes => String.ofList (stripQuotes quotes text.toList)
  | verbatim => String.ofList (stripQuotes ['"'] (text.toList.dropWhile (· == '@')))
  | bare => String.ofList (trimWhile (· == '"') text.toList)
  | collapsed => collapse text
  | quoteMark =>
    asciiLowercase (String.ofList (dropEndWhile (fun c => c == '"' || c == '\'') text.toList))
  | erased => ""

end LeafRule

end StructuralSearch
