import StructuralSearch.Proofs.TurnTaking

/-!
# From mode to mode

What a query matches in one mode it matches in another one that compares no more fields, if this is
so for its sequences (`verdict_of_sequences`).  Down a tree the modes are therefore in their order as
far as the sequences are: exact mode and order if all sequences choose in turn
(`verdict_includeOrdered`), order and freedom if none is disturbed (`verdict_includeAny`).
-/

namespace StructuralSearch

namespace Node

/-- The sequences in the fields of a node. -/
def sequences (node : Node) : List (List Node) :=
  node.fields.filterMap fun
    | (_, .sequence nodes) => some nodes
    | _ => none

theorem mem_sequences_of_mem_fields {node : Node} {name : String} {nodes : List Node}
    (h : (name, .sequence nodes) ∈ node.fields) : nodes ∈ node.sequences :=
  List.mem_filterMap.mpr ⟨_, h, rfl⟩

/-- All sequences of a node and of the nodes below it have a property. -/
def EverySequence (P : List Node → Prop) (node : Node) : Prop :=
  node.Everywhere fun inner => ∀ nodes ∈ inner.sequences, P nodes

instance decidableEverySequence (P : List Node → Prop) [DecidablePred P] (node : Node) :
    Decidable (node.EverySequence P) :=
  inferInstanceAs (Decidable (node.Everywhere fun inner => ∀ nodes ∈ inner.sequences, P nodes))

/-- All sequences keep a property that implies another one. -/
theorem EverySequence.mono {P Q : List Node → Prop} {node : Node} (h : node.EverySequence P)
    (himp : ∀ nodes, P nodes → Q nodes) : node.EverySequence Q :=
  fun inner hinner nodes hnodes => himp nodes (h inner hinner nodes hnodes)

end Node

namespace Criteria

variable {criteria : Criteria}

section SameInAllModes

variable (criteria : Criteria) (mode : Mode)

@[simp] theorem textMatches_inMode :
    (criteria.inMode mode).textMatches = criteria.textMatches := rfl

@[simp] theorem numberMatches_inMode :
    (criteria.inMode mode).numberMatches = criteria.numberMatches := rfl

@[simp] theorem sameLiteralFamily_inMode :
    (criteria.inMode mode).sameLiteralFamily = criteria.sameLiteralFamily := rfl

/-- Nodes that are decided alone are compared alike in all modes. -/
theorem compareLevel_inMode {query : Node} (h : criteria.DecidedAlone query) (file : Node) :
    (criteria.inMode mode).compareLevel file query = criteria.compareLevel file query := by
  rcases h with h | h | h | h | h <;> simp [compareLevel, h]

end SameInAllModes

/-- A match passes from one mode to another that compares no more fields, if the matches of the
values in these fields do. -/
theorem verdict_inMode {source target : Mode} {query file : Node}
    (hcompared : ∀ value, (criteria.inMode target).isCompared value = true →
      (criteria.inMode source).isCompared value = true)
    (hvalues : ∀ name value, (name, value) ∈ query.fields → ∀ actual,
      file.field? name = some actual →
      (criteria.inMode source).valueVerdict value actual = .ok true →
      (criteria.inMode target).valueVerdict value actual = .ok true)
    (h : (criteria.inMode source).verdict query file = .ok true) :
    (criteria.inMode target).verdict query file = .ok true := by
  rw [verdict_eq_true_iff] at h ⊢
  rcases h with hlevel | ⟨halone, hagree, hfields⟩
  · have halone : criteria.DecidedAlone query :=
      (criteria.inMode source).decidedAlone_of_settled hlevel
    rw [compareLevel_inMode _ _ halone] at hlevel ⊢
    exact Or.inl hlevel
  · refine Or.inr ⟨halone, hagree, fun name value hmem htarget => ?_⟩
    obtain ⟨actual, hactual, hmatch⟩ := hfields name value hmem (hcompared value htarget)
    exact ⟨actual, hactual, hvalues name value hmem actual hactual hmatch⟩

/-- A match of values passes from one mode to another if the matches of nodes and the searches in
sequences do. -/
theorem valueVerdict_inMode {source target : Mode} {value actual : FieldValue Node}
    (hnodes : ∀ query ∈ value.nodes, ∀ file ∈ actual.nodes,
      (criteria.inMode source).verdict query file = .ok true →
      (criteria.inMode target).verdict query file = .ok true)
    (hsequences : ∀ queries files, value = .sequence queries → actual = .sequence files →
      (criteria.inMode source).sequenceVerdict queries files = .ok true →
      (criteria.inMode target).sequenceVerdict queries files = .ok true)
    (h : (criteria.inMode source).valueVerdict value actual = .ok true) :
    (criteria.inMode target).valueVerdict value actual = .ok true := by
  unfold valueVerdict validateValue at h ⊢
  split at h
  · exact hnodes _ (by simp [FieldValue.nodes]) _ (by simp [FieldValue.nodes]) h
  · rfl
  · exact hsequences _ _ rfl rfl h
  · exact h
  · cases h

/-- **From mode to mode.**  Matches below a root pass from one mode to another that compares no more
fields, if the searches for the sequences of the query do. -/
theorem verdict_of_sequences {source target : Mode} {root query : Node}
    (hcompared : ∀ value, (criteria.inMode target).isCompared value = true →
      (criteria.inMode source).isCompared value = true)
    (hsequences : ∀ node ∈ query.walk, ∀ name queries, (name, .sequence queries) ∈ node.fields →
      ∀ files, (∀ file ∈ files, file ∈ root.walk) →
      (∀ child ∈ queries, ∀ file ∈ files,
        (criteria.inMode source).verdict child file = .ok true →
        (criteria.inMode target).verdict child file = .ok true) →
      (criteria.inMode source).sequenceVerdict queries files = .ok true →
      (criteria.inMode target).sequenceVerdict queries files = .ok true)
    {file : Node} (hfile : file ∈ root.walk)
    (h : (criteria.inMode source).verdict query file = .ok true) :
    (criteria.inMode target).verdict query file = .ok true := by
  induction query using Node.induction_on_children generalizing file with
  | step query ih =>
      refine verdict_inMode hcompared (fun name value hmem actual hactual => ?_) h
      have hvisited : ∀ other ∈ actual.nodes, other ∈ root.walk := by
        intro other hother
        have hchild := Node.mem_children_of_field? hactual hother
        exact Node.mem_walk_trans (Node.mem_walk_of_mem_children hchild) hfile
      have hbelow : ∀ child ∈ value.nodes, ∀ other ∈ actual.nodes,
          (criteria.inMode source).verdict child other = .ok true →
          (criteria.inMode target).verdict child other = .ok true := by
        intro child hchild other hother
        have hmemChild : child ∈ query.children :=
          Node.mem_children_iff.mpr ⟨name, value, hmem, hchild⟩
        have hmemOther : other ∈ root.walk := hvisited other hother
        refine ih child hmemChild (fun node hnode => hsequences node ?_) hmemOther
        exact Node.mem_walk_iff.mpr (Or.inr ⟨child, hmemChild, hnode⟩)
      refine valueVerdict_inMode hbelow fun queries files hvalue hother => ?_
      subst hvalue hother
      exact hsequences query (Node.mem_walk_self query) name queries hmem files hvisited hbelow

/-- What a node accepts passes from one mode to another if its matches do. -/
theorem acceptsNode_inMode {source target : Mode} {query file : Node}
    (hmatch : (criteria.inMode source).verdict query file = .ok true →
      (criteria.inMode target).verdict query file = .ok true)
    (h : (criteria.inMode source).acceptsNode query file = true) :
    (criteria.inMode target).acceptsNode query file = true := by
  rw [acceptsNode_iff] at h ⊢
  exact h.imp_right hmatch

/-- The verdict on two sequences in a mode; the comparable nodes are those of all modes. -/
theorem sequenceVerdict_inMode_eq (mode : Mode) (queries files : List Node) :
    (criteria.inMode mode).sequenceVerdict queries files =
      (criteria.inMode mode).searchSequence ((criteria.inMode mode).elements queries)
        (files.filter criteria.profile.isComparable) :=
  sequenceVerdict_eq _ _ _

/-- In any mode the nodes of a query decide on nodes on which they have verdicts. -/
theorem decides_inMode {queries files : List Node} {mode : Mode}
    (hok : ∀ query ∈ queries, ∀ file ∈ files,
      ∃ found, (criteria.inMode mode).verdict query file = .ok found) :
    Sequence.Decides ((criteria.inMode mode).elements queries)
      (files.filter criteria.profile.isComparable) :=
  decides_elements hok

section Sequences

variable {nodes queries files : List Node}

/-- The comparable nodes of a file sequence are comparable nodes of the pool. -/
theorem mem_of_mem_comparable (hfiles : files ⊆ nodes) :
    ∀ file ∈ files.filter criteria.profile.isComparable,
      file ∈ nodes ∧ criteria.profile.isComparable file = true := fun _ hfile =>
  ⟨hfiles (List.mem_of_mem_filter hfile), (List.mem_filter.mp hfile).2⟩

/-- A sequence that chooses in turn and is found in exact mode is found with order. -/
theorem sequenceVerdict_includeOrdered (hturn : criteria.InTurn nodes queries)
    (hfiles : files ⊆ nodes)
    (hok : ∀ mode, ∀ query ∈ queries, ∀ file ∈ files,
      ∃ found, (criteria.inMode mode).verdict query file = .ok found)
    (hnodes : ∀ query ∈ queries, ∀ file ∈ files,
      (criteria.inMode .exact).verdict query file = .ok true →
      (criteria.inMode .includeOrdered).verdict query file = .ok true)
    (h : (criteria.inMode .exact).sequenceVerdict queries files = .ok true) :
    (criteria.inMode .includeOrdered).sequenceVerdict queries files = .ok true := by
  rw [sequenceVerdict_inMode_eq] at h ⊢
  rw [searchSequence_eq_true_iff_aligned rfl (decides_inMode (hok _))] at h
  obtain ⟨places, hplaces⟩ := exists_claim_of_inTurn hturn (mem_of_mem_comparable hfiles)
    (fun query hquery file hfile => acceptsNode_inMode
      (hnodes query (mem_of_mem_claimants hquery) file (List.mem_of_mem_filter hfile))) h
  exact searchSequence_of_claim (by simp [inMode]) (decides_inMode (hok _)) hplaces

/-- A sequence that is not disturbed and is found with order is found without. -/
theorem sequenceVerdict_includeAny (hundisturbed : criteria.Undisturbed nodes queries)
    (hfiles : files ⊆ nodes)
    (hok : ∀ mode, ∀ query ∈ queries, ∀ file ∈ files,
      ∃ found, (criteria.inMode mode).verdict query file = .ok found)
    (hnodes : ∀ query ∈ queries, ∀ file ∈ files,
      (criteria.inMode .includeOrdered).verdict query file = .ok true →
      (criteria.inMode .includeAny).verdict query file = .ok true)
    (h : (criteria.inMode .includeOrdered).sequenceVerdict queries files = .ok true) :
    (criteria.inMode .includeAny).sequenceVerdict queries files = .ok true := by
  rw [sequenceVerdict_inMode_eq] at h ⊢
  obtain ⟨places, hplaces⟩ := exists_claim_of_searchSequence (by simp [inMode]) h
  obtain ⟨found, hfound, -⟩ := exists_claim_of_undisturbed hundisturbed
    (mem_of_mem_comparable hfiles) (fun query hquery file hfile => acceptsNode_inMode
      (hnodes query (mem_of_mem_claimants hquery) file (List.mem_of_mem_filter hfile))) hplaces
  exact searchSequence_of_claim (by simp [inMode]) (decides_inMode (hok _)) hfound

/-- **The order of the modes in sequences.**  Suppose every element of a query sequence accepts some
of the nodes in exact mode.  Then exactly the sequences that choose in turn, and whose elements
accept with order what they accept in exact mode, are found with order wherever they are found in
exact mode in sequences of these nodes. -/
theorem sequenceVerdict_includeOrdered_iff_inTurn
    (hok : ∀ mode, ∀ query ∈ queries, ∀ file ∈ nodes,
      ∃ found, (criteria.inMode mode).verdict query file = .ok found)
    (hmatch : ∀ query ∈ criteria.claimants queries, ∃ node ∈ nodes,
      criteria.profile.isComparable node = true ∧
        (criteria.inMode .exact).acceptsNode query node = true) :
    (∀ files, files ⊆ nodes →
      (criteria.inMode .exact).sequenceVerdict queries files = .ok true →
      (criteria.inMode .includeOrdered).sequenceVerdict queries files = .ok true) ↔
    criteria.InTurn nodes queries ∧ ∀ query ∈ criteria.claimants queries, ∀ node ∈ nodes,
      criteria.profile.isComparable node = true →
      (criteria.inMode .exact).acceptsNode query node = true →
      (criteria.inMode .includeOrdered).acceptsNode query node = true := by
  rw [← kept_iff_inTurn hmatch]
  have hdecides : ∀ mode, ∀ files, files ⊆ nodes → Sequence.Decides
      ((criteria.inMode mode).elements queries) (files.filter criteria.profile.isComparable) :=
    fun mode files hfiles => decides_inMode fun query hquery file hfile =>
      hok mode query hquery file (hfiles hfile)
  constructor
  · intro h files hfiles haligned
    have hsame : files.filter criteria.profile.isComparable = files :=
      List.filter_eq_self.mpr fun file hfile => (hfiles file hfile).2
    have hsubset : files ⊆ nodes := fun file hfile => (hfiles file hfile).1
    have hexact : (criteria.inMode .exact).sequenceVerdict queries files = .ok true := by
      rw [sequenceVerdict_inMode_eq,
        searchSequence_eq_true_iff_aligned rfl (hdecides .exact files hsubset), profile_inMode,
        hsame]
      exact haligned
    have hordered := h files hsubset hexact
    rw [sequenceVerdict_inMode_eq, hsame] at hordered
    exact exists_claim_of_searchSequence (by simp [inMode]) hordered
  · intro hkept files hfiles hexact
    rw [sequenceVerdict_inMode_eq] at hexact ⊢
    rw [searchSequence_eq_true_iff_aligned rfl (hdecides .exact files hfiles)] at hexact
    obtain ⟨places, hplaces⟩ := hkept _ (mem_of_mem_comparable hfiles) hexact
    exact searchSequence_of_claim (by simp [inMode]) (hdecides _ files hfiles) hplaces

end Sequences

section Trees

variable {layout : Layout} {root query : Node}

/-- The elements of a sequence below a node are visited with it. -/
theorem mem_walk_of_mem_sequence {node element : Node} {name : String} {queries : List Node}
    (hnode : node ∈ query.walk) (hmem : (name, .sequence queries) ∈ node.fields)
    (helement : element ∈ queries) : element ∈ query.walk := by
  have hchild : element ∈ node.children := Node.mem_children_iff.mpr ⟨name, _, hmem, helement⟩
  exact Node.mem_walk_trans (Node.mem_walk_of_mem_children hchild) hnode

/-- In all modes there are verdicts on the elements of a query sequence and visited nodes. -/
theorem verdict_ok_of_mem_sequence (hroot : root.Everywhere layout.Covers)
    (hquery : query.Everywhere layout.Fits) {node : Node} {name : String}
    {queries files : List Node} (hnode : node ∈ query.walk)
    (hmem : (name, .sequence queries) ∈ node.fields) (hfiles : files ⊆ root.walk) :
    ∀ mode, ∀ child ∈ queries, ∀ file ∈ files,
      ∃ found, (criteria.inMode mode).verdict child file = .ok found :=
  fun _ _ hchild _ hfile => verdict_ok_of_fits
    (hquery.visited (mem_walk_of_mem_sequence hnode hmem hchild)) (hroot.visited (hfiles hfile))

/-- **With order no less is matched than in exact mode**, if all sequences of the query choose in
turn. -/
theorem verdict_includeOrdered (hroot : root.Everywhere layout.Covers)
    (hquery : query.Everywhere layout.Fits)
    (hturn : query.EverySequence (criteria.InTurn root.walk)) {file : Node}
    (hfile : file ∈ root.walk) (h : (criteria.inMode .exact).verdict query file = .ok true) :
    (criteria.inMode .includeOrdered).verdict query file = .ok true := by
  refine verdict_of_sequences (fun value hvalue => ?_) ?_ hfile h
  · cases value <;> simp_all [isCompared, inMode]
  · intro node hnode name queries hmem files hfiles
    exact sequenceVerdict_includeOrdered
      (hturn node hnode queries (Node.mem_sequences_of_mem_fields hmem)) hfiles
      (verdict_ok_of_mem_sequence hroot hquery hnode hmem hfiles)

/-- **Without order no less is matched than with order**, if no sequence of the query is
disturbed. -/
theorem verdict_includeAny (hroot : root.Everywhere layout.Covers)
    (hquery : query.Everywhere layout.Fits)
    (hundisturbed : query.EverySequence (criteria.Undisturbed root.walk)) {file : Node}
    (hfile : file ∈ root.walk)
    (h : (criteria.inMode .includeOrdered).verdict query file = .ok true) :
    (criteria.inMode .includeAny).verdict query file = .ok true := by
  refine verdict_of_sequences (fun value hvalue => ?_) ?_ hfile h
  · cases value <;> simp_all [isCompared, inMode]
  · intro node hnode name queries hmem files hfiles
    exact sequenceVerdict_includeAny
      (hundisturbed node hnode queries (Node.mem_sequences_of_mem_fields hmem)) hfiles
      (verdict_ok_of_mem_sequence hroot hquery hnode hmem hfiles)

end Trees

end Criteria

end StructuralSearch
