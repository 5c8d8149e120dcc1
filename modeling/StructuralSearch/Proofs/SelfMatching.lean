import StructuralSearch.Proofs.BuiltTexts
import StructuralSearch.Proofs.ExactRelation
import StructuralSearch.Proofs.PlainQueries

/-!
# Trees that match themselves and each other

A tree is matched with itself without looking anywhere but in place: names and literals describe
their own texts, fields are found under their own names, and the elements of a sequence accept
themselves.  What can come in between is a rest wildcard, which leads an element to other elements
first; this does no harm unless one of them is a token of a kind with fields.

The comparison of two nodes treats them differently, since it follows the fields of the query only
and asks of keywords in one direction.  In built trees without wildcards the difference does not show
(`Related.symm`): the nodes of a kind have the same fields, a field that holds a token on one side
does so on the other, and elements are matched one by one.
-/

namespace StructuralSearch

namespace Sequence

variable {ε α : Type} {query : List (Wanted (Except ε) α)} {file : List α}

/-- A glob without rest wildcards succeeds if each element accepts what stands at its own place. -/
theorem glob_in_place (hrest : ∀ wanted ∈ query, wanted.isRest = false)
    (h : List.Forall₂ (fun wanted x => wanted.accepts x = .ok true) query file) :
    glob query file = .ok true := by
  have hfrom : globFrom query file = .ok true := by
    induction h with
    | nil => rfl
    | cons haccepts _ ih =>
        rw [globFrom_cons (hrest _ List.mem_cons_self), haccepts]
        exact ih fun other hother => hrest other (List.mem_cons_of_mem _ hother)
  have hlength : file.length = query.length := h.length_eq.symm
  simp [glob, hlength, hfrom]

end Sequence

namespace Criteria

variable {criteria : Criteria}

/-! ### In place -/

/-- A text describes itself. -/
theorem textMatches_self (text : Option String) : criteria.textMatches text text = true := by
  cases text with
  | none => rfl
  | some text => exact fragmentsMatch_self _

/-- What is decided alone settles itself, if numbers have a text. -/
theorem compareLevel_self {node : Node} (halone : criteria.DecidedAlone node)
    (hnumber : criteria.profile.isNumber node → node.text.isSome) :
    criteria.compareLevel node node = .settled := by
  have hfamily : criteria.profile.isString node || criteria.profile.isText node →
      criteria.sameLiteralFamily node node := by
    simp [sameLiteralFamily]
  have hvalue : criteria.profile.isNumber node → criteria.numberMatches
      (criteria.profile.literalValue? node) (criteria.profile.literalValue? node) := by
    intro his
    obtain ⟨text, htext⟩ := Option.isSome_iff_exists.mp (hnumber his)
    simp [Profile.literalValue?, his, htext, numberMatches]
  unfold DecidedAlone at halone
  unfold compareLevel Comparison.ofBool
  grind [Profile.areAlternatives_self, textMatches_self]

/-- An element of a query sequence accepts a node exactly if its decision says so. -/
theorem element_accepts_iff {query file : Node} :
    (criteria.element query).accepts file = .ok true ↔ criteria.acceptsNode query file = true := by
  rw [acceptsNode_iff]
  dsimp only [element]
  split
  · rename_i hsingle
    exact iff_of_true rfl (Or.inl hsingle)
  · rename_i hnone
    exact (or_iff_right hnone).symm

/-- A sequence matches in exact mode if the file sequence can be cut for it, and if there are verdicts
on all pairs of elements or none is a rest wildcard. -/
theorem sequenceVerdict_of_aligned (hexact : criteria.mode = .exact) {queries files : List Node}
    (haligned : Aligned (fun query => criteria.profile.elementWildcard? query = some .rest)
      (fun query file => criteria.acceptsNode query file = true)
      (queries.filter criteria.profile.isComparable) (files.filter criteria.profile.isComparable))
    (hsure : (∀ query ∈ queries, ∀ file ∈ files, ∃ found, criteria.verdict query file = .ok found) ∨
      ∀ query ∈ queries, criteria.profile.elementWildcard? query ≠ some .rest) :
    criteria.sequenceVerdict queries files = .ok true := by
  rw [sequenceVerdict_eq]
  rcases hsure with hsure | hnone
  · exact (searchSequence_eq_true_iff_aligned hexact (decides_elements hsure)).mpr haligned
  · have hplaces := (Aligned.forall₂_iff fun query hquery =>
      hnone query (List.mem_of_mem_filter hquery)).mp haligned
    rw [searchSequence, if_pos hexact]
    refine Sequence.glob_in_place (fun wanted hwanted => ?_) ?_
    · obtain ⟨query, hquery, rfl⟩ := List.mem_map.mp hwanted
      exact beq_eq_false_iff_ne.mpr (hnone query (List.mem_of_mem_filter hquery))
    · rw [elements, List.forall₂_map_left_iff]
      exact hplaces.imp fun _ _ => element_accepts_iff.mpr

/-- A sequence matches itself in exact mode if its elements match themselves, and if there are
verdicts on all pairs of them or none is a rest wildcard. -/
theorem sequenceVerdict_self (hexact : criteria.mode = .exact) {nodes : List Node}
    (h : ∀ node ∈ nodes, criteria.verdict node node = .ok true)
    (hsure : (∀ query ∈ nodes, ∀ file ∈ nodes, ∃ found, criteria.verdict query file = .ok found) ∨
      ∀ node ∈ nodes, criteria.profile.elementWildcard? node ≠ some .rest) :
    criteria.sequenceVerdict nodes nodes = .ok true := by
  refine sequenceVerdict_of_aligned hexact (Aligned.self fun node hnode _ => ?_) hsure
  exact criteria.acceptsNode_iff.mpr (Or.inr (h node (List.mem_of_mem_filter hnode)))

/-- **Trees match themselves.**  In exact mode a tree with its fields in order matches itself, if its
tokens are of kinds without fields or if no rest wildcard is in it. -/
theorem verdict_self (hexact : criteria.mode = .exact) {layout : Layout} {tree : Node}
    (hfits : tree.Everywhere layout.Fits) (hinOrder : tree.Everywhere Node.FieldsInOrder)
    (hnumbers : tree.Everywhere fun node => criteria.profile.isNumber node → node.text.isSome)
    (hsure : tree.Everywhere layout.BareToken ∨
      tree.Everywhere fun node => criteria.profile.nodeWildcard? node ≠ some .rest) :
    criteria.verdict tree tree = .ok true := by
  induction tree using Node.induction_on_children with
  | step node ih =>
      have hsureBelow : ∀ child ∈ node.children, child.Everywhere layout.BareToken ∨
          child.Everywhere fun node => criteria.profile.nodeWildcard? node ≠ some .rest :=
        fun child hchild => hsure.imp (fun h => h.child hchild) (fun h => h.child hchild)
      have hbelow : ∀ child ∈ node.children, criteria.verdict child child = .ok true :=
        fun child hchild => ih child hchild (hfits.child hchild) (hinOrder.child hchild)
          (hnumbers.child hchild) (hsureBelow child hchild)
      rw [verdict_eq_true_iff]
      by_cases halone : criteria.DecidedAlone node
      · exact Or.inl (compareLevel_self halone hnumbers.self)
      · have hfield : ∀ {name value}, (name, value) ∈ node.fields → node.field? name = some value :=
          fun hmem => hinOrder.self.field?_of_mem hmem
        have hagree : AgreeOutside node node := by
          refine ⟨rfl, fun wanted actual hwanted hactual => ?_, id, fun name text => hfield⟩
          rw [hwanted] at hactual
          exact Option.some.inj hactual
        refine Or.inr ⟨halone, hagree, fun name value hmem hcompared => ⟨value, hfield hmem, ?_⟩⟩
        have hvalue : ∀ child ∈ value.nodes, child ∈ node.children := fun child hchild =>
          Node.mem_children_iff.mpr ⟨name, value, hmem, hchild⟩
        match value with
        | .token text => simp [isCompared] at hcompared
        | .child none => rfl
        | .child (some child) => exact hbelow child (hvalue child (List.mem_singleton_self _))
        | .sequence nodes =>
            refine sequenceVerdict_self hexact (fun child hchild => hbelow child (hvalue child hchild))
              (hsure.imp (fun hbare query hquery file hfile => ?_) fun hnone child hchild => ?_)
            · have hcovers : file.Everywhere layout.Covers := fun inner hinner =>
                ((hfits.child (hvalue file hfile)) inner hinner).covers_of_bareToken
                  ((hbare.child (hvalue file hfile)) inner hinner)
              exact verdict_ok_of_fits (hfits.child (hvalue query hquery)) hcovers
            · exact (hnone.child (hvalue child hchild)) _ child.innermost_mem_walk

/-! ### In both directions -/

/-- A text without `$` stays so when case is folded. -/
theorem hasWildcard_fold {text : String} (h : hasWildcard text = false) :
    hasWildcard (criteria.fold text) = false := by
  unfold fold
  split
  · exact hasWildcard_lowercase h
  · exact h

/-- A text without `$` describes the texts that are the same when case is folded. -/
theorem textMatches_iff_of_plain {query file : Option String}
    (hplain : ∀ text ∈ query, hasWildcard text = false) :
    criteria.textMatches query file = true ↔
      query.map criteria.fold = file.map criteria.fold := by
  match query, file with
  | none, none => simp [textMatches]
  | none, some text => simp [textMatches]
  | some wanted, none => simp [textMatches]
  | some wanted, some text =>
      have hfold : hasWildcard (criteria.fold wanted) = false := hasWildcard_fold (hplain wanted rfl)
      simp [textMatches, fragmentsMatch_iff_eq hfold]

/-- A number other than the wildcard describes the numbers that are the same when case is folded. -/
theorem numberMatches_iff {query file : Option String} (hnone : query ≠ some numberWildcard) :
    criteria.numberMatches query file = true ↔
      query.isSome ∧ query.map criteria.fold = file.map criteria.fold := by
  match query, file with
  | none, _ => simp [numberMatches]
  | some wanted, none => simp [numberMatches]
  | some wanted, some value =>
      have hne : wanted ≠ numberWildcard := fun heq => hnone (congrArg some heq)
      simp [numberMatches, hne]

/-- Two nodes are both names, both strings, both free text, or both numbers with a text. -/
def SameFamily (profile : Profile) (query file : Node) : Prop :=
  (profile.isIdentifier query ∧ profile.isIdentifier file) ∨
    (profile.isString query ∧ profile.isString file) ∨
    (profile.isText query ∧ profile.isText file) ∨
    (profile.isNumber query ∧ profile.isNumber file ∧ query.text.isSome)

/-- A node of a tree without wildcards: it has its fields in the shape and the order of a layout, no
`$` in its text, and is not the number that stands for all numbers. -/
structure Ordinary (profile : Profile) (layout : Layout) (node : Node) : Prop where
  fits : layout.Fits node
  covers : layout.Covers node
  inOrder : node.FieldsInOrder
  plain : ∀ text ∈ node.text, hasWildcard text = false
  number : profile.isNumber node → node.text ≠ some numberWildcard

/-- Names may be compared with each other. -/
theorem areAlternatives_of_isIdentifier {profile : Profile} {query file : Node}
    (hquery : profile.isIdentifier query) (hfile : profile.isIdentifier file) :
    profile.areAlternatives query.kind file.kind := by
  unfold Profile.isIdentifier at hquery hfile
  simp only [Profile.areAlternatives, Profile.alternatives, hquery, ↓reduceIte, hfile,
    Bool.or_true]

/-- The value of a string or of free text is its text. -/
theorem literalValue?_of_literal {profile : Profile} {node : Node}
    (h : profile.isString node || profile.isText node) :
    profile.literalValue? node = node.text := by
  rw [Bool.or_eq_true] at h
  rcases h with his | his <;> simp [Profile.literalValue?, his]

/-- The value of a number is its text. -/
theorem literalValue?_of_number {profile : Profile} {node : Node} (h : profile.isNumber node) :
    profile.literalValue? node = node.text := by
  simp [Profile.literalValue?, h]

section Symmetry

variable {layout : Layout} {query file : Node}

/-- Which ordinary nodes are decided alone is a matter of their kinds. -/
theorem decidedAlone_iff_of_ordinary (h : Ordinary criteria.profile layout query) :
    criteria.DecidedAlone query ↔ criteria.profile.isIdentifier query ∨
      criteria.profile.isString query ∨ criteria.profile.isText query ∨
      criteria.profile.isNumber query := by
  simp [DecidedAlone, Profile.nodeWildcard?_of_plain h.plain]

/-- Names and literals without wildcards are settled by those of their family whose texts are the same
when case is folded. -/
theorem compareLevel_eq_settled_iff (hapart : criteria.profile.KeepsApart)
    (hquery : Ordinary criteria.profile layout query) :
    criteria.compareLevel file query = .settled ↔
      SameFamily criteria.profile query file ∧
        query.text.map criteria.fold = file.text.map criteria.fold := by
  have hwildcard : criteria.profile.nodeWildcard? query = none :=
    Profile.nodeWildcard?_of_plain hquery.plain
  have htexts : criteria.textMatches query.text file.text = true ↔
      query.text.map criteria.fold = file.text.map criteria.fold :=
    textMatches_iff_of_plain hquery.plain
  by_cases hname : criteria.profile.isIdentifier query
  · obtain ⟨hstring, hnumber, htext⟩ := hapart.isNot_of_isIdentifier hname
    rw [settled_iff_of_isIdentifier hwildcard file hname, htexts]
    simp only [SameFamily, hname, hstring, hnumber, htext, Bool.false_eq_true, false_and, or_false,
      true_and]
    exact and_congr_right fun hfile =>
      and_iff_right (areAlternatives_of_isIdentifier hname hfile)
  · rw [Bool.not_eq_true] at hname
    by_cases hliteral : criteria.profile.isString query || criteria.profile.isText query
    · have hnumber : criteria.profile.isNumber query = false := by
        by_contra his
        rw [Bool.not_eq_false] at his
        obtain ⟨hstring, htext⟩ := hapart.isNot_of_isNumber his
        simp [hstring, htext] at hliteral
      have hfamily : criteria.sameLiteralFamily query file = true ↔
          SameFamily criteria.profile query file := by
        simp [sameLiteralFamily, SameFamily, hname, hnumber]
      rw [settled_iff_of_isLiteral hwildcard file hname hliteral, hfamily]
      refine and_congr_right fun hsame => ?_
      have hfile : criteria.profile.isString file || criteria.profile.isText file := by
        have hpair := hfamily.mpr hsame
        simp only [sameLiteralFamily, Bool.or_eq_true, Bool.and_eq_true] at hpair ⊢
        exact hpair.imp And.right And.right
      rw [literalValue?_of_literal hliteral, literalValue?_of_literal hfile, htexts]
    · rw [Bool.not_eq_true] at hliteral
      obtain ⟨hstring, htext⟩ := Bool.or_eq_false_iff.mp hliteral
      by_cases hnumber : criteria.profile.isNumber query
      · have hvalue : criteria.numberMatches query.text file.text = true ↔ query.text.isSome ∧
            query.text.map criteria.fold = file.text.map criteria.fold :=
          numberMatches_iff (hquery.number hnumber)
        rw [settled_iff_of_isNumber hwildcard file hname hliteral hnumber]
        simp only [SameFamily, hname, hstring, htext, hnumber, Bool.false_eq_true, false_and,
          false_or, true_and, and_assoc]
        refine and_congr_right fun hfile => ?_
        rw [literalValue?_of_number hnumber, literalValue?_of_number hfile, hvalue]
      · have halone : ¬ criteria.DecidedAlone query := by
          simp [decidedAlone_iff_of_ordinary hquery, hname, hstring, htext, hnumber]
        constructor
        · intro hlevel
          exact absurd (criteria.decidedAlone_of_settled hlevel) halone
        · rintro ⟨hsame, -⟩
          simp [SameFamily, hname, hstring, htext, hnumber] at hsame

/-- Ordinary nodes that are settled by each other are settled in both directions. -/
theorem settled_symm (hapart : criteria.profile.KeepsApart)
    (hquery : Ordinary criteria.profile layout query)
    (hfile : Ordinary criteria.profile layout file)
    (h : criteria.compareLevel file query = .settled) :
    criteria.compareLevel query file = .settled := by
  obtain ⟨hsame, htexts⟩ := (compareLevel_eq_settled_iff hapart hquery).mp h
  refine (compareLevel_eq_settled_iff hapart hfile).mpr ⟨?_, htexts.symm⟩
  have hsome : query.text.isSome → file.text.isSome := by
    have hboth := congrArg Option.isSome htexts
    rw [Option.isSome_map, Option.isSome_map] at hboth
    rw [hboth]
    exact id
  rcases hsame with ⟨hq, hf⟩ | ⟨hq, hf⟩ | ⟨hq, hf⟩ | ⟨hq, hf, htext⟩
  · exact Or.inl ⟨hf, hq⟩
  · exact Or.inr (Or.inl ⟨hf, hq⟩)
  · exact Or.inr (Or.inr (Or.inl ⟨hf, hq⟩))
  · exact Or.inr (Or.inr (Or.inr ⟨hf, hq, hsome htext⟩))

/-- A field that describes another one describes one that is there. -/
theorem RelatedValue.isSome {value : FieldValue Node} {actual : Option (FieldValue Node)}
    (h : criteria.RelatedValue value actual) : actual.isSome := by
  cases h <;> rfl

/-- Where nodes agree and their fields are related, each field of the file has a counterpart in the
query: both hold the same token, or the one describes the other. -/
theorem exists_counterpart (hquery : Ordinary criteria.profile layout query)
    (hfile : Ordinary criteria.profile layout file) (hagree : AgreeOutside query file)
    (hvalues : ∀ name value, (name, value) ∈ query.fields → (∀ text, value ≠ .token text) →
      criteria.RelatedValue value (file.field? name))
    {name : String} {actual : FieldValue Node} (hmem : (name, actual) ∈ file.fields) :
    ∃ value, query.field? name = some value ∧ ((∃ text, value = .token text ∧ actual = value) ∨
      (name, value) ∈ query.fields ∧ criteria.RelatedValue value (some actual)) := by
  have hfield := hfile.inOrder.field?_of_mem hmem
  have hpresent : (query.field? name).isSome := by
    have hadmits := hfile.fits.admits name actual hmem
    by_cases htoken : ∃ text, actual = .token text
    · obtain ⟨text, rfl⟩ := htoken
      rcases hadmits with hsingle | rfl
      · refine hquery.covers name ?_
        rw [hagree.kind]
        exact List.mem_append_left _ (List.mem_append_left _ hsingle)
      · exact hagree.keywords (by simp [hfield])
    · refine hquery.covers name ?_
      rw [hagree.kind]
      exact hadmits.mem_fieldNames fun text heq => htoken ⟨text, heq⟩
  obtain ⟨value, hvalue⟩ := Option.isSome_iff_exists.mp hpresent
  have hmemQuery := Node.mem_fields_of_field? hvalue
  refine ⟨value, hvalue, ?_⟩
  by_cases htoken : ∃ text, value = .token text
  · obtain ⟨text, rfl⟩ := htoken
    have hsame := hagree.tokens name text hmemQuery
    rw [hfield] at hsame
    exact Or.inl ⟨text, rfl, Option.some.inj hsame⟩
  · refine Or.inr ⟨hmemQuery, ?_⟩
    rw [← hfield]
    exact hvalues name value hmemQuery fun text heq => htoken ⟨text, heq⟩

/-- Ordinary nodes that agree with their fields related agree in both directions. -/
theorem agreeOutside_symm (hquery : Ordinary criteria.profile layout query)
    (hfile : Ordinary criteria.profile layout file) (hagree : AgreeOutside query file)
    (hvalues : ∀ name value, (name, value) ∈ query.fields → (∀ text, value ≠ .token text) →
      criteria.RelatedValue value (file.field? name)) : AgreeOutside file query where
  kind := hagree.kind.symm
  text wanted actual hwanted hactual := (hagree.text actual wanted hactual hwanted).symm
  keywords hkeywords := by
    obtain ⟨value, hvalue⟩ := Option.isSome_iff_exists.mp hkeywords
    have hmem := Node.mem_fields_of_field? hvalue
    by_cases htoken : ∃ text, value = .token text
    · obtain ⟨text, rfl⟩ := htoken
      simp [hagree.tokens _ text hmem]
    · exact (hvalues _ value hmem fun text heq => htoken ⟨text, heq⟩).isSome
  tokens name text hmem := by
    obtain ⟨value, hvalue, ⟨_, _, rfl⟩ | ⟨-, hrelated⟩⟩ :=
      exists_counterpart hquery hfile hagree hvalues hmem
    · exact hvalue
    · cases hrelated

/-- Related sequences without wildcards are related in both directions, if their elements are. -/
theorem aligned_symm {queries files : List Node} (hqueries : ∀ node ∈ queries, node.Plain)
    (hfiles : ∀ node ∈ files, node.Plain)
    (h : Aligned (fun wanted => criteria.profile.elementWildcard? wanted = some .rest)
      criteria.Takes queries files)
    (hrelated : ∀ query ∈ queries, ∀ file ∈ files, criteria.Related query file →
      criteria.Related file query) :
    Aligned (fun wanted => criteria.profile.elementWildcard? wanted = some .rest)
      criteria.Takes files queries := by
  have hnone : ∀ {node : Node}, node.Plain → criteria.profile.elementWildcard? node = none :=
    fun hplain => Profile.elementWildcard?_of_plain hplain
  have hrest : ∀ {nodes : List Node}, (∀ node ∈ nodes, node.Plain) →
      ∀ node ∈ nodes, ¬ criteria.profile.elementWildcard? node = some .rest := by
    intro nodes hplain node hnode
    rw [hnone (hplain node hnode)]
    exact nofun
  rw [Aligned.forall₂_iff (hrest hqueries)] at h
  rw [Aligned.forall₂_iff (hrest hfiles)]
  refine List.Forall₂.flip (Sequence.forall₂_imp_of_mem h fun query hquery file hfile htakes => ?_)
  refine .node (hnone (hfiles file hfile)) (hrelated query hquery file hfile ?_)
  cases htakes with
  | any hsingle => simp [hnone (hqueries query hquery)] at hsingle
  | node _ hmatch => exact hmatch

/-- **Symmetry.**  Between trees of ordinary nodes the relation that exact mode decides is
symmetric. -/
theorem Related.symm (hapart : criteria.profile.KeepsApart)
    (hquery : query.Everywhere (Ordinary criteria.profile layout))
    (hfile : file.Everywhere (Ordinary criteria.profile layout))
    (h : criteria.Related query file) : criteria.Related file query := by
  induction query using Node.induction_on_children generalizing file with
  | step query ih =>
      cases h with
      | settled halone hlevel =>
          have hback := settled_symm hapart hquery.self hfile.self hlevel
          exact .settled (criteria.decidedAlone_of_settled hback) hback
      | fields halone hagree hvalues =>
          have hkinds : ¬ criteria.DecidedAlone file := by
            rw [decidedAlone_iff_of_ordinary hquery.self] at halone
            rw [decidedAlone_iff_of_ordinary hfile.self]
            simpa only [Profile.isIdentifier, Profile.isString, Profile.isText, Profile.isNumber,
              hagree.kind] using halone
          refine .fields hkinds (agreeOutside_symm hquery.self hfile.self hagree hvalues)
            fun name actual hmem htoken => ?_
          obtain ⟨value, hvalue, ⟨text, rfl, heq⟩ | ⟨hmemQuery, hrelated⟩⟩ :=
            exists_counterpart hquery.self hfile.self hagree hvalues hmem
          · exact absurd heq (htoken text)
          · rw [hvalue]
            have hbelow : ∀ child ∈ value.nodes, ∀ other ∈ actual.nodes,
                criteria.Related child other → criteria.Related other child := by
              intro child hchild other hother
              have hmemChild := Node.mem_children_iff.mpr ⟨name, value, hmemQuery, hchild⟩
              have hmemOther := Node.mem_children_iff.mpr ⟨name, actual, hmem, hother⟩
              exact ih child hmemChild (hquery.child hmemChild) (hfile.child hmemOther)
            have hplainQuery : ∀ child ∈ value.nodes, child.Plain := fun child hchild =>
              (hquery.child (Node.mem_children_iff.mpr ⟨name, value, hmemQuery, hchild⟩)).mono
                fun _ hordinary => hordinary.plain
            have hplainFile : ∀ other ∈ actual.nodes, other.Plain := fun other hother =>
              (hfile.child (Node.mem_children_iff.mpr ⟨name, actual, hmem, hother⟩)).mono
                fun _ hordinary => hordinary.plain
            cases hrelated with
            | absent => exact .absent
            | child hnodes =>
                exact .child (hbelow _ (List.mem_singleton_self _) _ (List.mem_singleton_self _)
                  hnodes)
            | sequence haligned =>
                exact .sequence (aligned_symm
                  (fun node hnode => hplainQuery node (List.mem_of_mem_filter hnode))
                  (fun node hnode => hplainFile node (List.mem_of_mem_filter hnode)) haligned
                  fun node hnode other hother =>
                    hbelow node (List.mem_of_mem_filter hnode) other (List.mem_of_mem_filter hother))

end Symmetry

/-- The nodes of a file without wildcards are ordinary, if its tokens are of kinds without fields. -/
theorem everywhere_ordinary {grammar : Grammar} {tree : Node} (h : grammar.Builds tree)
    (hbare : tree.Everywhere grammar.layout.BareToken) (hplain : tree.Plain)
    (hnumber : tree.Everywhere fun node =>
      grammar.profile.isNumber node → node.text ≠ some numberWildcard) :
    tree.Everywhere (Ordinary grammar.profile grammar.layout) := fun node hnode =>
  ⟨h.everywhere_fits node hnode, h.everywhere_covers hbare node hnode,
    h.everywhere_fieldsInOrder node hnode, hplain node hnode, hnumber node hnode⟩

/-- **Trees match themselves and each other.**  In exact mode every built tree matches itself,
whatever wildcards are in it, if its tokens are of kinds without fields or if it holds no `$$$`; a tree
without `$` matches itself in the include modes too.  Exact mode gives the same answer in both
directions for two built trees without `$` and without the number that stands for all numbers, if
their tokens are of kinds without fields. -/
theorem matches_self_and_in_both_directions (grammar : Grammar) (caseInsensitive : Bool) :
    let criteria := fun mode => (⟨grammar.profile, mode, caseInsensitive⟩ : Criteria)
    let bare := fun tree : Node => tree.Everywhere grammar.layout.BareToken
    (∀ tree tally, grammar.Builds tree →
      (bare tree ∨ tree.Everywhere fun node => grammar.profile.nodeWildcard? node ≠ some .rest) →
      ((criteria .exact).validate tree tree tally).1 = .ok true) ∧
    (∀ tree tally, grammar.Builds tree → tree.Plain →
      ∀ mode, mode = .includeAny ∨ mode = .includeOrdered →
        ((criteria mode).validate tree tree tally).1 = .ok true) ∧
    (grammar.profile.KeepsApart → ∀ a b tally, grammar.Builds a → grammar.Builds b →
      bare a → bare b → a.Plain → b.Plain →
      (∀ tree ∈ [a, b], tree.Everywhere fun node =>
        grammar.profile.isNumber node → node.text ≠ some numberWildcard) →
      ((criteria .exact).validate a b tally).1 = ((criteria .exact).validate b a tally).1) := by
  intro criteria bare
  have hself : ∀ tree, grammar.Builds tree → (bare tree ∨ tree.Everywhere fun node =>
      grammar.profile.nodeWildcard? node ≠ some .rest) →
      (criteria .exact).verdict tree tree = .ok true := by
    intro tree hbuilds hsure
    have hnumbers : tree.Everywhere fun node => grammar.profile.isNumber node → node.text.isSome :=
      fun node hnode his =>
        (hbuilds.visited hnode).text_isSome (Profile.keepsText_of_isNumber his)
    exact verdict_self rfl hbuilds.everywhere_fits hbuilds.everywhere_fieldsInOrder hnumbers hsure
  simp only [validate_fst_eq]
  refine ⟨fun tree _ => hself tree, ?plain, ?directions⟩
  case plain =>
    intro tree _ hbuilds hplain mode _
    have hexact := hself tree hbuilds (Or.inr fun node hnode hrest => by
      simp [Profile.nodeWildcard?_of_plain (hplain node hnode)] at hrest)
    show ((criteria .exact).inMode mode).verdict tree tree = .ok true
    exact verdict_of_exact hplain hexact
  case directions =>
    intro hapart a b _ ha hb hbareA hbareB hplainA hplainB hnumbers
    have hordinaryA := everywhere_ordinary ha hbareA hplainA (hnumbers a (by simp))
    have hordinaryB := everywhere_ordinary hb hbareB hplainB (hnumbers b (by simp))
    have hsymm : (criteria .exact).Related a b ↔ (criteria .exact).Related b a :=
      ⟨Related.symm hapart hordinaryA hordinaryB, Related.symm hapart hordinaryB hordinaryA⟩
    have hfitsA := ha.everywhere_fits
    have hfitsB := hb.everywhere_fits
    have hcoversA := ha.everywhere_covers hbareA
    have hcoversB := hb.everywhere_covers hbareB
    rw [← verdict_eq_true_iff_related rfl hfitsA hcoversB,
      ← verdict_eq_true_iff_related rfl hfitsB hcoversA] at hsymm
    obtain ⟨found, hfound⟩ : ∃ found, (criteria .exact).verdict a b = .ok found :=
      verdict_ok_of_fits hfitsA hcoversB
    obtain ⟨other, hother⟩ : ∃ other, (criteria .exact).verdict b a = .ok other :=
      verdict_ok_of_fits hfitsB hcoversA
    rw [hfound, hother] at hsymm ⊢
    simpa only [Except.ok.injEq, ← Bool.eq_iff_iff] using hsymm

/-- `f($$$,g(a))` matches itself in exact mode, `f(b,c,g(a))` does with order, and `f(c,g(a))` and
`f(g(a),c)` match each other in neither direction. -/
theorem calls_match_themselves :
    let criteria := fun mode => (⟨Calls.profile, mode, false⟩ : Criteria)
    let rest := Calls.node "f($$$,g(a))"
    let plain := Calls.node "f(b,c,g(a))"
    let first := Calls.node "f(c,g(a))"
    let second := Calls.node "f(g(a),c)"
    ((criteria .exact).validate rest rest {}).1 = .ok true ∧
    ((criteria .includeOrdered).validate plain plain {}).1 = .ok true ∧
    ((criteria .exact).validate first second {}).1 =
      ((criteria .exact).validate second first {}).1 := by
  obtain ⟨hself, hplain, hdirections⟩ := matches_self_and_in_both_directions Calls.grammar false
  refine ⟨hself _ {} (Calls.builds_node _) (Or.inl (by decide)),
    hplain _ {} (Calls.builds_node _) (by decide +kernel) _ (Or.inr rfl),
    hdirections ⟨by decide, by decide⟩ _ _ {} (Calls.builds_node _) (Calls.builds_node _)
      (by decide) (by decide) (by decide +kernel) (by decide +kernel) ?_⟩
  intro tree _ node _ hnumber
  cases hnumber

end Criteria

namespace Calls

/-- The tree of `f($$$,$$(),call,h(a))`, where the second argument carries nothing but `$$`. -/
def restBeforeWord : ParseTree :=
  call 0 21 [name 2 5,
    tree "call" (some "argument") 6 10 [tree "name" (some "function") 6 8 []],
    word 11 15, call 16 20 [name 18 19]]

end Calls

namespace Criteria

/-- A token of a kind with fields can keep a tree from matching itself, and make a match depend on the
direction: behind `$$$` the call `h(a)` is tried on the word first, and a word describes a call but a
call does not describe a word. -/
theorem self_match_fails_at_token :
    let exact : Criteria := ⟨Calls.profile, .exact, false⟩
    let tree := Calls.nodeOf "f($$$,$$(),call,h(a))" Calls.restBeforeWord
    let word := Calls.node "f(call)"
    let nested := Calls.node "f(g(a))"
    (Calls.grammar.Builds tree ∧ (exact.validate tree tree {}).1 ≠ .ok true) ∧
    Calls.grammar.Builds word ∧ Calls.grammar.Builds nested ∧ word.Plain ∧ nested.Plain ∧
      Calls.profile.numberKinds = [] ∧
      (exact.validate word nested {}).1 = .ok true ∧
      (exact.validate nested word {}).1 ≠ .ok true := by
  exact ⟨⟨Calls.builds_nodeOf _ _, by decide +kernel⟩, Calls.builds_node _, Calls.builds_node _,
    by decide +kernel, by decide +kernel, rfl, by decide +kernel, by decide +kernel⟩

end Criteria

end StructuralSearch
