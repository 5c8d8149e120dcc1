import StructuralSearch.Language
import StructuralSearch.Node.Basic
import StructuralSearch.Profile.LeafRule
import StructuralSearch.Wildcard.Codec

/-!
# Language profiles

A profile says what a search has to know about the syntax of a language: which kinds of nodes are
names, literals or free text, where a program and its blocks keep their statements, how the texts of
leaves are normalised, and by which placeholders wildcards get past the parser.  The rest of the
search looks at a language through its profile only.
-/

namespace StructuralSearch

/-- What a search knows about the syntax of one language. -/
structure Profile where
  language : Language
  /-- kinds whose text is a name; they may stand for one another -/
  identifierKinds : List String
  stringKinds : List String
  numberKinds : List String
  /-- free text between other constructs, which may be blank -/
  textKinds : List String := []
  programKind : String
  blockKind : String
  /-- further kinds that hold statements -/
  extraBlockKinds : List String := []
  /-- the field in which programs and blocks hold their statements -/
  bodyField : String := Node.childrenField
  /-- kinds that merely wrap a statement -/
  wrapperKinds : List String := ["expression_statement"]
  /-- kinds that give way to their only named child -/
  transparentKinds : List String := []
  /-- kinds that are left out of the tree -/
  skippedKinds : List String := ["comment"]
  /-- kinds that are parts of a construct around them -/
  fragmentKinds : List String := []
  leafRules : List (String × LeafRule) := []
  codec : Option Codec := none
  deriving Repr

namespace Profile

variable (profile : Profile)

/-- The normal form of the text of a leaf. -/
def sanitize (kind text : String) : String :=
  match profile.leafRules.lookup kind with
  | some rule => rule.apply text
  | none => text

/-- Puts placeholders in the place of the markers of a query. -/
def encodeQuery (query : String) : String :=
  match profile.codec with
  | some codec => codec.encode query
  | none => query

/-- Puts the markers back into the text of a parsed node. -/
def decodeText (text : String) : String :=
  match profile.codec with
  | some codec => codec.decode text
  | none => text

/-- Whether nodes of a kind keep their text although they have named children. -/
def keepsText (kind : String) : Bool :=
  profile.identifierKinds.contains kind || profile.stringKinds.contains kind
    || profile.numberKinds.contains kind || profile.textKinds.contains kind

/-- The kinds that a kind may be compared with besides itself. -/
def alternatives (kind : String) : List String :=
  if profile.identifierKinds.contains kind then profile.identifierKinds else []

/-- Whether nodes of the two kinds may be compared. -/
def areAlternatives (a b : String) : Bool :=
  a == b || (profile.alternatives a).contains b

/-- Whether a node is a name. -/
def isIdentifier (node : Node) : Bool :=
  profile.identifierKinds.contains node.kind

/-- Whether a node is compared as a string literal. -/
def isString (node : Node) : Bool :=
  profile.stringKinds.contains node.kind

/-- Whether a node is compared as a number. -/
def isNumber (node : Node) : Bool :=
  profile.numberKinds.contains node.kind

/-- Whether a node is free text. -/
def isText (node : Node) : Bool :=
  profile.textKinds.contains node.kind

/-- The text of a name. -/
def identifierName? (node : Node) : Option String :=
  if profile.isIdentifier node then node.text else none

/-- The text of a literal or of free text. -/
def literalValue? (node : Node) : Option String :=
  if profile.isString node || profile.isNumber node || profile.isText node then node.text else none

/-- Gives a name another text; other nodes stay as they are. -/
def rename (node : Node) (name : String) : Node :=
  if profile.isIdentifier node then { node with text := some name } else node

/-- Whether a node is a whole program. -/
def isProgram (node : Node) : Bool :=
  node.kind == profile.programKind

/-- Whether a node is a block of statements. -/
def isBlock (node : Node) : Bool :=
  node.kind == profile.blockKind || profile.extraBlockKinds.contains node.kind

/-- Whether a node holds statements. -/
def holdsStatements (node : Node) : Bool :=
  profile.isProgram node || profile.isBlock node

/-- The statements of a program or of a block. -/
def body (node : Node) : List Node :=
  node.sequence profile.bodyField

/-- A block of the given statements. -/
def blockOf (statements : List Node) (span : Span) : Node :=
  { kind := profile.blockKind, span, fields := [(profile.bodyField, .sequence statements)] }

/-- The content of a statement that is only wrapped. -/
def unwrapStatement (node : Node) : Node :=
  if profile.wrapperKinds.contains node.kind then
    match node.children with
    | [inner] => inner
    | _ => node
  else node

/-- Whether a node takes part in comparisons; blank free text does not. -/
def isComparable (node : Node) : Bool :=
  !(profile.isText node && node.text.all Text.isBlankText)

/-- Whether a node is a part of a construct around it. -/
def isFragment (node : Node) : Bool :=
  profile.fragmentKinds.contains node.kind

/-- Every kind may be compared with itself. -/
theorem areAlternatives_self (kind : String) : profile.areAlternatives kind kind = true := by
  simp [areAlternatives]

/-- Being comparable is symmetric. -/
theorem areAlternatives_comm (a b : String) :
    profile.areAlternatives a b = profile.areAlternatives b a := by
  rw [Bool.eq_iff_iff]
  simp only [areAlternatives, alternatives, Bool.or_eq_true, beq_iff_eq]
  constructor <;>
  · rintro (h | h)
    · exact Or.inl h.symm
    · split at h
      · rename_i kind
        refine Or.inr ?_
        rw [if_pos h]
        exact kind
      · simp at h

/-- The statements of a new block are those it was made of. -/
theorem body_blockOf (statements : List Node) (span : Span) :
    profile.body (profile.blockOf statements span) = statements := by
  simp [body, blockOf, Node.sequence, Node.field?]

end Profile

end StructuralSearch
