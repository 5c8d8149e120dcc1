import StructuralSearch.Matching.Comparison
import StructuralSearch.Profile.Tables

/-!
# What a comparison at one level says

A query node is either decided by itself (`DecidedAlone`: wildcards, names, free text and literals)
or compared with the file node around its children (`AgreeOutside`: kinds, texts, keywords and
tokens).  In the second case nothing but the fields below can make a difference any more, and
`compareLevel_eq_pending_iff` says which fields are left.
-/

namespace StructuralSearch

/-- Two nodes agree apart from their children: in their kinds, in their texts if both have one, in
the presence of keywords, and in the tokens of the query. -/
structure AgreeOutside (query file : Node) : Prop where
  kind : query.kind = file.kind
  text : ∀ wanted actual, query.text = some wanted → file.text = some actual → wanted = actual
  keywords : (file.field? Node.keywordsField).isSome → (query.field? Node.keywordsField).isSome
  tokens : ∀ name text, (name, .token text) ∈ query.fields →
    file.field? name = some (.token text)

/-- The kinds of a language are told apart: those of names are none of literals or of free text, and
those of numbers none of strings or of free text. -/
structure Profile.KeepsApart (profile : Profile) : Prop where
  names : ∀ kind ∈ profile.identifierKinds,
    kind ∉ profile.stringKinds ∧ kind ∉ profile.numberKinds ∧ kind ∉ profile.textKinds
  numbers : ∀ kind ∈ profile.numberKinds, kind ∉ profile.stringKinds ∧ kind ∉ profile.textKinds

/-- The kinds of the known languages are told apart. -/
theorem Profile.keepsApart_ofLanguage (language : Language) :
    (Profile.ofLanguage language).KeepsApart := by
  cases language <;> exact ⟨by decide, by decide⟩

/-- Names are no literals and no free text. -/
theorem Profile.KeepsApart.isNot_of_isIdentifier {profile : Profile} (h : profile.KeepsApart)
    {node : Node} (hname : profile.isIdentifier node) :
    profile.isString node = false ∧ profile.isNumber node = false ∧
      profile.isText node = false := by
  simp only [isIdentifier, isString, isNumber, isText, decide_eq_true_eq,
    List.contains_eq_mem, decide_eq_false_iff_not] at hname ⊢
  exact h.names node.kind hname

/-- Numbers are no strings and no free text. -/
theorem Profile.KeepsApart.isNot_of_isNumber {profile : Profile} (h : profile.KeepsApart)
    {node : Node} (hnumber : profile.isNumber node) :
    profile.isString node = false ∧ profile.isText node = false := by
  simp only [isString, isNumber, isText, decide_eq_true_eq,
    List.contains_eq_mem, decide_eq_false_iff_not] at hnumber ⊢
  exact h.numbers node.kind hnumber

namespace Criteria

variable (criteria : Criteria)

/-- A query node is decided at its own level: it is a wildcard, a name, a string, free text or a
number. -/
def DecidedAlone (query : Node) : Prop :=
  (criteria.profile.nodeWildcard? query).isSome ∨ criteria.profile.isIdentifier query ∨
    criteria.profile.isString query ∨ criteria.profile.isText query ∨
    criteria.profile.isNumber query

/-- Nodes that are no names are comparable only with nodes of their own kind. -/
theorem areAlternatives_iff_of_not_identifier {profile : Profile} {query : Node} {kind : String}
    (h : ¬ profile.isIdentifier query) :
    profile.areAlternatives query.kind kind ↔ query.kind = kind := by
  have hnone : query.kind ∉ profile.identifierKinds := by
    simpa [Profile.isIdentifier] using h
  simp [Profile.areAlternatives, Profile.alternatives, hnone]

/-- Texts agree unless both nodes have one and these differ. -/
theorem textsAgree_iff {file query : Node} :
    textsAgree file query ↔
      ∀ wanted actual, query.text = some wanted → file.text = some actual → wanted = actual := by
  unfold textsAgree
  cases query.text <;> cases file.text <;> simp

/-- Keywords agree unless only the file has some. -/
theorem keywordsAgree_iff {file query : Node} :
    keywordsAgree file query ↔
      ((file.field? Node.keywordsField).isSome → (query.field? Node.keywordsField).isSome) := by
  unfold keywordsAgree
  cases file.field? Node.keywordsField <;> simp

/-- Tokens agree if each token of the query stands in the same field of the file. -/
theorem tokensAgree_iff {file query : Node} :
    tokensAgree file query ↔ ∀ name text, (name, .token text) ∈ query.fields →
      file.field? name = some (.token text) := by
  unfold tokensAgree
  rw [List.all_eq_true]
  constructor
  · intro h name text hmem
    have hentry := h (name, .token text) hmem
    dsimp only at hentry
    split at hentry
    · rename_i actual hactual
      rw [hactual, beq_iff_eq.mp hentry]
    · cases hentry
  · rintro h ⟨name, value⟩ hmem
    cases value with
    | token text => simp [h name text hmem]
    | child node => rfl
    | sequence nodes => rfl

/-- A comparison of nodes that are not decided alone. -/
theorem compareLevel_of_not_decidedAlone {query : Node} (h : ¬ criteria.DecidedAlone query)
    (file : Node) :
    criteria.compareLevel file query =
      if criteria.profile.areAlternatives query.kind file.kind && textsAgree file query
          && keywordsAgree file query && tokensAgree file query then
        .pending ((criteria.comparedFields query).filter fun name => (file.field? name).isSome)
          (criteria.comparedFields query)
      else .mismatch := by
  simp only [DecidedAlone, not_or, Bool.not_eq_true] at h
  obtain ⟨hwildcard, hidentifier, hstring, htext, hnumber⟩ := h
  simp [compareLevel, hwildcard, hidentifier, hstring, htext, hnumber]

/-- A comparison of nodes that are decided alone ends at its level. -/
theorem compareLevel_of_decidedAlone {query : Node} (h : criteria.DecidedAlone query)
    (file : Node) :
    criteria.compareLevel file query = .settled ∨ criteria.compareLevel file query = .mismatch := by
  unfold compareLevel Comparison.ofBool
  unfold DecidedAlone at h
  grind

/-- Nodes that are settled at their level are decided alone. -/
theorem decidedAlone_of_settled {query file : Node}
    (h : criteria.compareLevel file query = .settled) : criteria.DecidedAlone query := by
  by_cases halone : criteria.DecidedAlone query
  · exact halone
  · rw [criteria.compareLevel_of_not_decidedAlone halone] at h
    split at h <;> cases h

section Settled

variable {criteria} {query : Node} (hnone : criteria.profile.nodeWildcard? query = none) (file : Node)
include hnone

/-- A name is settled by the names that its text describes. -/
theorem settled_iff_of_isIdentifier (hname : criteria.profile.isIdentifier query) :
    criteria.compareLevel file query = .settled ↔ criteria.profile.isIdentifier file ∧
      criteria.profile.areAlternatives query.kind file.kind ∧
      criteria.textMatches query.text file.text := by
  simp [compareLevel, Comparison.ofBool, hnone, hname, and_assoc]

/-- A string or free text is settled by those of its family that its value describes. -/
theorem settled_iff_of_isLiteral (hname : criteria.profile.isIdentifier query = false)
    (hliteral : criteria.profile.isString query || criteria.profile.isText query) :
    criteria.compareLevel file query = .settled ↔ criteria.sameLiteralFamily query file ∧
      criteria.textMatches (criteria.profile.literalValue? query)
        (criteria.profile.literalValue? file) := by
  simp only [compareLevel, hnone, hname, hliteral, Option.isSome_none, Bool.false_eq_true,
    ↓reduceIte]
  simp [Comparison.ofBool]

/-- A number is settled by the numbers that its value describes. -/
theorem settled_iff_of_isNumber (hname : criteria.profile.isIdentifier query = false)
    (hliteral : (criteria.profile.isString query || criteria.profile.isText query) = false)
    (hnumber : criteria.profile.isNumber query) :
    criteria.compareLevel file query = .settled ↔ criteria.profile.isNumber file ∧
      criteria.numberMatches (criteria.profile.literalValue? query)
        (criteria.profile.literalValue? file) := by
  simp only [compareLevel, hnone, hname, hliteral, hnumber, Option.isSome_none, Bool.false_eq_true,
    ↓reduceIte]
  simp [Comparison.ofBool]

end Settled

/-- **What is left to compare.**  A comparison leaves the fields to be compared exactly if the query
node is not decided alone and agrees with the file node outside of its children. -/
theorem compareLevel_eq_pending_iff {file query : Node} {fileKeys queryKeys : List String} :
    criteria.compareLevel file query = .pending fileKeys queryKeys ↔
      ¬ criteria.DecidedAlone query ∧ AgreeOutside query file ∧
      queryKeys = criteria.comparedFields query ∧
      fileKeys = (criteria.comparedFields query).filter fun name => (file.field? name).isSome := by
  by_cases h : criteria.DecidedAlone query
  · rcases criteria.compareLevel_of_decidedAlone h file with heq | heq <;> simp [heq, h]
  · have hidentifier : ¬ criteria.profile.isIdentifier query := fun hid => h (Or.inr (Or.inl hid))
    have hagree : AgreeOutside query file ↔
        (criteria.profile.areAlternatives query.kind file.kind && textsAgree file query
          && keywordsAgree file query && tokensAgree file query) = true := by
      simp only [Bool.and_eq_true, areAlternatives_iff_of_not_identifier hidentifier,
        textsAgree_iff, keywordsAgree_iff, tokensAgree_iff]
      exact ⟨fun h => ⟨⟨⟨h.kind, h.text⟩, h.keywords⟩, h.tokens⟩,
        fun h => ⟨h.1.1.1, h.1.1.2, h.1.2, h.2⟩⟩
    rw [criteria.compareLevel_of_not_decidedAlone h, hagree]
    split <;> rename_i hcond <;> simp [h, hcond, eq_comm, and_comm]

end Criteria

end StructuralSearch
