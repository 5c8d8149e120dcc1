import StructuralSearch.Matching.Basic

/-!
# Comparing two nodes at one level

Wildcards, names and literals are settled by the nodes themselves.  Other nodes must be of
comparable kinds and agree in their texts and their tokens; the remaining fields of the query node
are left to be compared below.  In the include modes, fields in which the query holds nothing ask
for nothing.
-/

namespace StructuralSearch

/-- The outcome of comparing a file node with a query node at one level. -/
inductive Comparison
  | mismatch
  /-- the nodes match, and nothing is left to compare -/
  | settled
  /-- the nodes match so far; the fields that the query compares below, and those the file has -/
  | pending (fileKeys queryKeys : List String)
  deriving DecidableEq, Repr

namespace Comparison

/-- Whether the nodes match at their level. -/
def isMatch : Comparison → Bool
  | mismatch => false
  | _ => true

/-- The fields of the file node to go on with. -/
def fileKeys : Comparison → List String
  | pending keys _ => keys
  | _ => []

/-- The fields of the query node to go on with. -/
def queryKeys : Comparison → List String
  | pending _ keys => keys
  | _ => []

/-- A comparison that ends at this level. -/
def ofBool (isMatch : Bool) : Comparison :=
  if isMatch then settled else mismatch

end Comparison

/-- The number that matches every number. -/
def numberWildcard : String := "0x0"

namespace Criteria

variable (criteria : Criteria)

/-- Whether the text of a query node describes the text of a file node. -/
def textMatches (query file : Option String) : Bool :=
  match query, file with
  | some pattern, some text => fragmentsMatch (criteria.fold pattern) (criteria.fold text)
  | none, none => true
  | _, _ => false

/-- Whether the value of a query number describes the value of a file number. -/
def numberMatches (query file : Option String) : Bool :=
  match query, file with
  | some wanted, some value =>
    wanted == numberWildcard || criteria.fold wanted == criteria.fold value
  | _, _ => false

/-- Whether two nodes are literals of the same family. -/
def sameLiteralFamily (a b : Node) : Bool :=
  (criteria.profile.isString a && criteria.profile.isString b)
    || (criteria.profile.isText a && criteria.profile.isText b)

/-- Whether a field of the query is compared below: it holds more than a token, and in the include
modes it is not empty. -/
def isCompared (value : FieldValue Node) : Bool :=
  match value with
  | .token _ => false
  | value => !(criteria.mode != .exact && value.isEmpty)

/-- Whether the tokens in the fields of the query stand in the same fields of the file. -/
def tokensAgree (file query : Node) : Bool :=
  query.fields.all fun (name, value) =>
    match value with
    | .token wanted =>
      match file.field? name with
      | some (.token actual) => actual == wanted
      | _ => false
    | _ => true

/-- Whether the texts are equal, if both nodes have one. -/
def textsAgree (file query : Node) : Bool :=
  match query.text, file.text with
  | some a, some b => a == b
  | _, _ => true

/-- Whether the file has keywords only if the query has some. -/
def keywordsAgree (file query : Node) : Bool :=
  (query.field? Node.keywordsField).isSome || (file.field? Node.keywordsField).isNone

/-- The names of the query's fields that are compared below. -/
def comparedFields (query : Node) : List String :=
  (query.fields.filter fun (_, value) => criteria.isCompared value).map (·.1)

/-- Compares a file node with a query node, without their children. -/
def compareLevel (file query : Node) : Comparison :=
  let profile := criteria.profile
  if (profile.nodeWildcard? query).isSome then .settled
  else if profile.isIdentifier query then
    .ofBool (profile.isIdentifier file && profile.areAlternatives query.kind file.kind
      && criteria.textMatches query.text file.text)
  else if profile.isString query || profile.isText query then
    .ofBool (criteria.sameLiteralFamily query file
      && criteria.textMatches (profile.literalValue? query) (profile.literalValue? file))
  else if profile.isNumber query then
    .ofBool (profile.isNumber file
      && criteria.numberMatches (profile.literalValue? query) (profile.literalValue? file))
  else if profile.areAlternatives query.kind file.kind && textsAgree file query
      && keywordsAgree file query && tokensAgree file query then
    let keys := criteria.comparedFields query
    .pending (keys.filter fun name => (file.field? name).isSome) keys
  else .mismatch

/-- Compares two nodes at one level and counts the comparison. -/
def compareNodes (file query : Node) : Matching Comparison := do
  Matching.count
  return criteria.compareLevel file query

end Criteria

end StructuralSearch
