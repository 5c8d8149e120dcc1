import Mathlib.Data.Fintype.EquivFin
import StructuralSearch.Profile.Tables
import StructuralSearch.Proofs.BuiltTexts
import StructuralSearch.Proofs.Generalising
import StructuralSearch.Proofs.SureSearch

/-!
# Wrapped wildcards

An element of a sequence is looked through before it is compared: if nothing but wrappers stand around
a `$$`, the element is taken for the wildcard.  A wrapper is a node that carries nothing but one child.
Punctuation is no part of a node, so the brackets of a list with a single element are a wrapper as well
as a statement or an argument is.

The local fact is `sequenceVerdict_singleton`: in every mode a sequence of one element accepts one file
element exactly as the element does.  So such an element is matched like the node that it is, with one
exception: a wrapper around `$$` that is no wildcard itself is matched by every element of a file, and it
is the only construct for which the two disagree (`one_element_agrees_iff`).
-/

namespace StructuralSearch

namespace Node

/-- Wrappers stand between a node and one below it: the nodes on the way carry nothing but the next
one. -/
inductive Wraps : Node → Node → Prop
  | sole {node child : Node} (h : node.soleChild? = some child) : Wraps node child
  | deeper {node child inner : Node} (h : node.soleChild? = some child)
      (hbelow : Wraps child inner) : Wraps node inner

/-- What wrappers stand around has the same inside as they have. -/
theorem Wraps.innermost_eq {node inner : Node} (h : node.Wraps inner) :
    node.innermost = inner.innermost := by
  induction h with
  | sole hsole => exact innermost_of_some hsole
  | deeper hsole _ ih => rw [innermost_of_some hsole, ih]

/-- The inside of a node is the node, or wrappers stand around it. -/
theorem innermost_eq_or_wraps (node : Node) :
    node.innermost = node ∨ node.Wraps node.innermost := by
  induction node using induction_on_children with
  | step node ih =>
      cases hsole : node.soleChild? with
      | none => exact Or.inl (innermost_of_none hsole)
      | some child =>
          right
          rw [innermost_of_some hsole]
          rcases ih child (mem_children_of_soleChild? hsole) with heq | hwraps
          · rw [heq]
            exact .sole hsole
          · exact .deeper hsole hwraps

/-- Inside all wrappers there is no further one. -/
theorem soleChild?_innermost (node : Node) : node.innermost.soleChild? = none := by
  induction node using induction_on_children with
  | step node ih =>
      cases hsole : node.soleChild? with
      | none => rwa [innermost_of_none hsole]
      | some child =>
          rw [innermost_of_some hsole]
          exact ih child (mem_children_of_soleChild? hsole)

end Node

namespace Profile

variable {profile : Profile}

/-- A node is no wildcard itself, but wrappers lead from it to a `$$`. -/
structure WrapsOneNode (profile : Profile) (node : Node) : Prop where
  plain : profile.nodeWildcard? node = none
  wildcard : ∃ leaf, node.Wraps leaf ∧ leaf.soleChild? = none ∧
    profile.nodeWildcard? leaf = some .single

/-- Such nodes are those that count as `$$` in a sequence only. -/
theorem wrapsOneNode_iff {node : Node} :
    profile.WrapsOneNode node ↔
      profile.nodeWildcard? node = none ∧ profile.elementWildcard? node = some .single := by
  constructor
  · intro h
    obtain ⟨leaf, hwraps, hsole, hleaf⟩ := h.wildcard
    refine ⟨h.plain, ?_⟩
    rw [elementWildcard?, hwraps.innermost_eq, Node.innermost_of_none hsole, hleaf]
  · intro h
    obtain ⟨hplain, helement⟩ := h
    refine ⟨hplain, node.innermost, ?_, node.soleChild?_innermost, helement⟩
    apply node.innermost_eq_or_wraps.resolve_left
    intro heq
    rw [elementWildcard?, heq, hplain] at helement
    cases helement

/-- A kind that keeps no text is none of names, literals or free text. -/
theorem eq_false_of_keepsText {node : Node} (h : profile.keepsText node.kind = false) :
    profile.isIdentifier node = false ∧ profile.isString node = false ∧
      profile.isNumber node = false ∧ profile.isText node = false := by
  simpa [keepsText, isIdentifier, isString, isNumber, isText, and_assoc] using h

end Profile

/-- For every kind there are nodes of files that are of another kind and are neither names nor literals
nor free text: leaves of a kind that the profile does not mention. -/
theorem Grammar.exists_builds_of_other_kind (grammar : Grammar) (kind : String) :
    ∃ file, grammar.Builds file ∧ file.kind ≠ kind ∧
      grammar.profile.keepsText file.kind = false := by
  let known := kind :: (grammar.profile.identifierKinds ++ grammar.profile.stringKinds ++
    grammar.profile.numberKinds ++ grammar.profile.textKinds)
  obtain ⟨other, hother⟩ := Infinite.exists_notMem_finset known.toFinset
  let leaf : ParseTree := Calls.tree other none 0 0 []
  have hreplaced : (grammar.builder "").replacement? leaf.kind [] = none := by
    unfold TreeBuilder.replacement?
    split <;> rfl
  have hbuild : (grammar.builder "").build leaf = (grammar.builder "").assemble leaf [] := by
    rw [TreeBuilder.build_eq, show leaf.children = [] from rfl, TreeBuilder.buildAll, hreplaced]
    rfl
  have hkind : ((grammar.builder "").build leaf).kind = other := by
    rw [hbuild]
    exact ((grammar.builder "").kind_text_assemble leaf).1
  refine ⟨(grammar.builder "").build leaf, ⟨"", leaf, Node.mem_walk_self _⟩, ?_, ?_⟩
  · rw [hkind]
    intro heq
    simp [known, heq] at hother
  · rw [hkind]
    simp only [known, List.mem_toFinset, List.mem_cons, List.mem_append, not_or] at hother
    simp [Profile.keepsText, hother]

namespace Criteria

variable {criteria : Criteria} {query file : Node}

/-- A wildcard matches every node. -/
theorem verdict_of_nodeWildcard (h : (criteria.profile.nodeWildcard? query).isSome) (file : Node) :
    criteria.verdict query file = .ok true := by
  have hlevel : criteria.compareLevel file query = .settled := by simp [compareLevel, h]
  rw [verdict_eq, hlevel]

/-- A node that is no wildcard does not match a node of another kind that is neither a name nor a
literal nor free text. -/
theorem verdict_of_other_kind (hnone : criteria.profile.nodeWildcard? query = none)
    (hkind : file.kind ≠ query.kind) (hkeeps : criteria.profile.keepsText file.kind = false) :
    criteria.verdict query file = .ok false := by
  obtain ⟨hname, hstring, hnumber, htext⟩ := Profile.eq_false_of_keepsText hkeeps
  have hlevel : criteria.compareLevel file query = .mismatch := by
    by_cases halone : criteria.DecidedAlone query
    · apply (criteria.compareLevel_of_decidedAlone halone file).resolve_left
      intro hsettled
      cases hquery : criteria.profile.isIdentifier query with
      | true =>
          have hother := ((settled_iff_of_isIdentifier hnone file hquery).mp hsettled).1
          simp [hname] at hother
      | false =>
          cases hliteral : criteria.profile.isString query || criteria.profile.isText query with
          | true =>
              have hother := ((settled_iff_of_isLiteral hnone file hquery hliteral).mp hsettled).1
              simp [sameLiteralFamily, hstring, htext] at hother
          | false =>
              have hcounts : criteria.profile.isNumber query = true := by
                simp only [Bool.or_eq_false_iff] at hliteral
                simpa [DecidedAlone, hnone, hquery, hliteral] using halone
              have hother :=
                ((settled_iff_of_isNumber hnone file hquery hliteral hcounts).mp hsettled).1
              simp [hnumber] at hother
    · rw [criteria.compareLevel_of_not_decidedAlone halone]
      have hnot : ¬ criteria.profile.isIdentifier query := fun h => halone (Or.inr (Or.inl h))
      have hdiffers : criteria.profile.areAlternatives query.kind file.kind = false := by
        rw [Bool.eq_false_iff, Ne, areAlternatives_iff_of_not_identifier hnot]
        exact Ne.symm hkind
      simp [hdiffers]
  rw [verdict_eq, hlevel]

/-- The search for a sequence gives its verdict, whatever the counters are. -/
theorem validateSequence_fst_eq (queries files : List Node) (tally : Tally) :
    (criteria.validateSequence queries files tally).1 = criteria.sequenceVerdict queries files := by
  rw [(criteria.yields_validateSequence queries files).fst_eq tally, sequenceVerdict_eq]

/-- In a sequence of one element, a wrapper around `$$` is matched by every element of a file, and
everything else is matched as a node. -/
theorem sequenceVerdict_singleton_of_wrapsOneNode (criteria : Criteria) {query file : Node}
    (hquery : criteria.profile.isComparable query = true)
    (hrest : criteria.profile.elementWildcard? query ≠ some .rest)
    (hfile : criteria.profile.isComparable file = true) :
    (criteria.profile.WrapsOneNode query → criteria.sequenceVerdict [query] [file] = .ok true) ∧
    (¬ criteria.profile.WrapsOneNode query →
      criteria.sequenceVerdict [query] [file] = criteria.verdict query file) := by
  rw [sequenceVerdict_singleton hquery hrest hfile, Profile.wrapsOneNode_iff, element]
  dsimp only
  constructor
  · intro h
    rw [if_pos h.2]
  · intro h
    split
    · rename_i hsingle
      have hwildcard : criteria.profile.nodeWildcard? query ≠ none := fun hnone => h ⟨hnone, hsingle⟩
      rw [verdict_of_nodeWildcard (Option.isSome_iff_ne_none.mpr hwildcard)]
    · rfl

/-- **What a single element of a sequence matches.**  In every mode a comparable element that is no
`$$$` matches a comparable file element as a node matches a node, unless it wraps a `$$`: then it
matches whatever the file element is.  So the search for one element agrees with the search for the node
exactly if the element wraps no `$$`. -/
theorem one_element_agrees_iff (grammar : Grammar) (mode : Mode) (caseInsensitive : Bool)
    {query : Node} (hquery : grammar.profile.isComparable query = true)
    (hrest : grammar.profile.elementWildcard? query ≠ some .rest) :
    let criteria : Criteria := ⟨grammar.profile, mode, caseInsensitive⟩
    (∀ file, grammar.profile.isComparable file = true → ∀ tally,
      (grammar.profile.WrapsOneNode query →
        (criteria.validateSequence [query] [file] tally).1 = .ok true) ∧
      (¬ grammar.profile.WrapsOneNode query →
        (criteria.validateSequence [query] [file] tally).1 =
          (criteria.validate query file tally).1)) ∧
    ((∀ file, grammar.Builds file → grammar.profile.isComparable file = true → ∀ tally,
        (criteria.validateSequence [query] [file] tally).1 = .ok true →
          (criteria.validate query file tally).1 = .ok true) ↔
      ¬ grammar.profile.WrapsOneNode query) := by
  intro criteria
  simp only [validateSequence_fst_eq, validate_fst_eq]
  have hdecides : ∀ file, grammar.profile.isComparable file = true →
      (grammar.profile.WrapsOneNode query → criteria.sequenceVerdict [query] [file] = .ok true) ∧
      (¬ grammar.profile.WrapsOneNode query →
        criteria.sequenceVerdict [query] [file] = criteria.verdict query file) :=
    fun file hfile =>
      criteria.sequenceVerdict_singleton_of_wrapsOneNode hquery hrest hfile
  refine ⟨fun file hfile _ => hdecides file hfile, ?_⟩
  constructor
  · intro hagrees hwraps
    obtain ⟨file, hbuilds, hkind, hkeeps⟩ := grammar.exists_builds_of_other_kind query.kind
    have hfile : grammar.profile.isComparable file = true := by
      simp [Profile.isComparable, (Profile.eq_false_of_keepsText hkeeps).2.2.2]
    have hmatches := hagrees file hbuilds hfile {} ((hdecides file hfile).1 hwraps)
    rw [verdict_of_other_kind hwraps.plain hkind hkeeps] at hmatches
    cases hmatches
  · intro hwraps file _ hfile _ hmatches
    rwa [(hdecides file hfile).2 hwraps] at hmatches

end Criteria

/-! ### A language of lists

An expression is a number, a name or a list with brackets around it. -/

namespace Lists

def layout : Layout where
  kinds := [("array", { hasChildren := true }), ("identifier", {}), ("number", {})]

/-- A list with a single element. -/
def array (start stop : Nat) (element : ParseTree) : ParseTree :=
  Calls.tree "array" none start stop
    [{ Calls.tree "[" none start (start + 1) [] with named := false }, element,
      { Calls.tree "]" none (stop - 1) stop [] with named := false }]

def grammar : Grammar where
  profile := .typescript
  layout := layout
  parser
    | "[$$]" => some (array 0 4 (Calls.tree "identifier" none 1 3 []))
    | "[ab]" => some (array 0 4 (Calls.tree "identifier" none 1 3 []))
    | "1" => some (Calls.tree "number" none 0 1 [])
    | _ => none

/-- The node of a text. -/
def node (text : String) : Node :=
  (grammar.builder text).build ((grammar.parser text).getD (Calls.tree "number" none 0 0 []))

theorem builds_node (text : String) : grammar.Builds (node text) :=
  ⟨text, _, Node.mem_walk_self _⟩

/-- A name of two letters as the only element of a list. -/
def element (name : String) : Node where
  kind := "identifier"
  span := ⟨⟨1, 2, 1⟩, ⟨1, 4, 3⟩⟩
  text := some name

theorem innermost_node {text name : String}
    (h : (node text).soleChild? = some (element name)) :
    (node text).innermost = element name := by
  rw [Node.innermost_of_some h]
  exact Node.innermost_of_none rfl

end Lists

namespace Criteria

/-- A list of a name is matched in a sequence only where it is matched as a node. -/
theorem list_agrees :
    let criteria : Criteria := ⟨Lists.grammar.profile, .includeAny, false⟩
    ∀ file, Lists.grammar.Builds file → Lists.grammar.profile.isComparable file = true → ∀ tally,
      (criteria.validateSequence [Lists.node "[ab]"] [file] tally).1 = .ok true →
        (criteria.validate (Lists.node "[ab]") file tally).1 = .ok true := by
  intro criteria
  have helement : Lists.grammar.profile.elementWildcard? (Lists.node "[ab]") = none := by
    rw [Profile.elementWildcard?, Lists.innermost_node rfl]
    decide
  apply (one_element_agrees_iff Lists.grammar .includeAny false (by decide +kernel)
    (by rw [helement]; decide)).2.mpr
  intro hwraps
  have hsingle := (Profile.wrapsOneNode_iff.mp hwraps).2
  rw [helement] at hsingle
  cases hsingle

/-- The list `[$$]` is no wildcard, and no mode matches it with the number `1`; yet as an element of a
sequence it is matched by this number. -/
theorem list_matched_by_number :
    let list := (Lists.node "[$$]").mapText Lists.grammar.profile.decodeText
    let number := Lists.node "1"
    let profile := Lists.grammar.profile
    Lists.grammar.BuildsQuery list ∧ Lists.grammar.Builds number ∧
    profile.isComparable list = true ∧ profile.isComparable number = true ∧
    profile.nodeWildcard? list = none ∧ list.kind ∉ profile.wrapperKinds ∧
    profile.elementWildcard? list ≠ some .rest ∧ number.kind ≠ list.kind ∧
    ∀ mode caseInsensitive,
      let criteria : Criteria := ⟨profile, mode, caseInsensitive⟩
      (criteria.validateSequence [list] [number] {}).1 = .ok true ∧
      (criteria.validate list number {}).1 = .ok false := by
  intro list number profile
  have hlist : list = Lists.node "[$$]" := rfl
  have helement : profile.elementWildcard? list = some .single := by
    rw [Profile.elementWildcard?, hlist, Lists.innermost_node rfl]
    decide
  have hlistCompared : profile.isComparable list = true := by decide +kernel
  have hnumberCompared : profile.isComparable number = true := by decide +kernel
  have hplain : profile.nodeWildcard? list = none := by decide +kernel
  have hrest : profile.elementWildcard? list ≠ some .rest := by
    rw [helement]
    decide
  refine ⟨⟨"[$$]", _, Node.mem_walk_self _⟩, Lists.builds_node "1", hlistCompared, hnumberCompared,
    hplain, by decide +kernel, hrest, by decide +kernel, ?_⟩
  intro mode caseInsensitive criteria
  constructor
  · rw [validateSequence_fst_eq]
    exact (criteria.sequenceVerdict_singleton_of_wrapsOneNode hlistCompared hrest
      hnumberCompared).1 (Profile.wrapsOneNode_iff.mpr ⟨hplain, helement⟩)
  · cases mode <;> cases caseInsensitive <;> decide +kernel

end Criteria

end StructuralSearch
