import StructuralSearch.Profile.Basic
import StructuralSearch.Wildcard.Fragment

/-!
# Wildcards on nodes

A name or a piece of free text whose text is `$$` or `$$$` is a whole-node wildcard.  An element of
a sequence is one also when it merely wraps such a node, as a statement or an argument does;
`innermost` looks through the wrappers.
-/

namespace StructuralSearch

namespace Node

/-- What a node is made of besides itself, as far as it matters for being a wrapper. -/
inductive Content where
  /-- no child at all -/
  | nothing
  /-- exactly one child -/
  | only (node : Node)
  /-- a token, or more than one child -/
  | more

/-- The content of two parts together. -/
def Content.append : Content → Content → Content
  | .nothing, b => b
  | a, .nothing => a
  | _, _ => .more

/-- The content of one field.  In a sequence a bare token counts as more than a child. -/
def contentOfValue : FieldValue Node → Content
  | .token _ => .more
  | .child none => .nothing
  | .child (some node) => .only node
  | .sequence [] => .nothing
  | .sequence [node] => if node.named then .only node else .more
  | .sequence _ => .more

/-- The content of a list of fields. -/
def contentOfFields : List (String × FieldValue Node) → Content
  | [] => .nothing
  | (_, value) :: fields => (contentOfValue value).append (contentOfFields fields)

/-- The child of a node that carries nothing but this child. -/
def soleChild? (node : Node) : Option Node :=
  match contentOfFields node.fields with
  | .only child => some child
  | _ => none

/-- The only content of a part that holds more than nothing is the content of its parts. -/
theorem Content.append_eq_only {a b : Content} {node : Node} (h : a.append b = .only node) :
    (a = .only node ∧ b = .nothing) ∨ (a = .nothing ∧ b = .only node) := by
  cases a <;> cases b <;> simp_all [Content.append]

/-- The only content of a field is smaller than the field. -/
theorem sizeOf_lt_of_contentOfValue {value : FieldValue Node} {node : Node}
    (h : contentOfValue value = .only node) : sizeOf node < sizeOf value := by
  unfold contentOfValue at h
  split at h <;> try contradiction
  · simp only [Content.only.injEq] at h
    subst h
    simp +arith
  · split at h <;> try contradiction
    simp only [Content.only.injEq] at h
    subst h
    simp +arith

/-- The only content of a list of fields is smaller than the list. -/
theorem sizeOf_lt_of_contentOfFields {fields : List (String × FieldValue Node)} {node : Node}
    (h : contentOfFields fields = .only node) : sizeOf node < sizeOf fields := by
  induction fields with
  | nil => simp [contentOfFields] at h
  | cons field fields ih =>
    obtain ⟨name, value⟩ := field
    rcases Content.append_eq_only h with ⟨here, -⟩ | ⟨-, there⟩
    · have := sizeOf_lt_of_contentOfValue here
      simp +arith at this ⊢
      omega
    · have := ih there
      simp +arith at this ⊢
      omega

/-- The sole child of a node is smaller than the node. -/
theorem sizeOf_lt_of_soleChild? {node child : Node} (h : node.soleChild? = some child) :
    sizeOf child < sizeOf node := by
  obtain ⟨kind, span, named, text, fields⟩ := node
  simp only [soleChild?] at h
  split at h
  · rename_i found
    obtain rfl := Option.some.inj h
    have := sizeOf_lt_of_contentOfFields found
    simp +arith at this ⊢
    omega
  · simp at h

/-- The node inside all wrappers. -/
def innermost (node : Node) : Node :=
  match _found : node.soleChild? with
  | some child => child.innermost
  | none => node
termination_by sizeOf node
decreasing_by exact sizeOf_lt_of_soleChild? _found

end Node

namespace Profile

variable (profile : Profile)

/-- The wildcard that a node itself is. -/
def nodeWildcard? (node : Node) : Option NodeWildcard :=
  if profile.isIdentifier node || profile.isText node then
    node.text.bind NodeWildcard.ofText?
  else none

/-- The wildcard that an element of a sequence is, wrappers put aside. -/
def elementWildcard? (node : Node) : Option NodeWildcard :=
  profile.nodeWildcard? node.innermost

end Profile

end StructuralSearch
