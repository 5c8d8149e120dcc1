import StructuralSearch.Proofs.CandidateKinds
import StructuralSearch.Proofs.Placeholders

/-!
# Decoded texts

No placeholder is left where the markers were put back.  Putting back one marker leaves nothing of
its own placeholder, as the marker and the placeholder have no character in common, and for the same
reason it makes none of the other placeholders (`isInfix_of_isInfix_restore`).  So a decoded text is
free of all of them, and decoding it once more changes nothing.

A compiled query is made of nodes whose texts were decoded and of at most one block around them,
which has no text.

* `holdsPlaceholder_decode`, `decode_decode`: a decoded text holds no placeholder and stays as it is;
* `Query.no_placeholder_left`: neither does any text in a compiled query.
-/

namespace StructuralSearch

open Text

namespace Codec

variable {codec : Codec}

/-- A text is free of placeholders if none of them stands in it. -/
theorem holdsPlaceholder_eq_false_iff {text : String} :
    codec.holdsPlaceholder text = false ↔
      ∀ m, ¬ (codec.placeholder m).toList <:+: text.toList := by
  have hoccurs : ∀ m, occursIn (codec.placeholder m).toList text.toList = false ↔
      ¬ (codec.placeholder m).toList <:+: text.toList := by
    intro m
    rw [← Bool.not_eq_true, occursIn_iff]
    exact not_congr ⟨fun ⟨front, back, h⟩ => ⟨front, back, h.symm⟩,
      fun ⟨front, back, h⟩ => ⟨front, back, h.symm⟩⟩
  simp only [holdsPlaceholder, List.any_cons, List.any_nil, Bool.or_false, Bool.or_eq_false_iff,
    hoccurs]
  constructor
  · rintro ⟨hrest, hnode, hidentifier⟩ m
    cases m with
    | rest => exact hrest
    | node => exact hnode
    | identifier => exact hidentifier
  · intro h
    exact ⟨h .rest, h .node, h .identifier⟩

namespace Frame

variable (frame : codec.Frame)
include frame

/-- **One marker.**  A placeholder that stands in a text in which a marker was put back is that of
another marker and was there before. -/
theorem isInfix_of_isInfix_restore {m other : Marker} {text : List Char}
    (h : (codec.placeholder other).toList <:+: codec.restore m text) :
    other ≠ m ∧ (codec.placeholder other).toList <:+: text := by
  have hnew : m.text.toList ≠ [] := by
    obtain ⟨others, hm⟩ := m.exists_text_eq
    rw [hm]
    exact List.cons_ne_nil _ _
  have hfresh : ∀ n, ∀ c ∈ (codec.placeholder n).toList, c ∉ m.text.toList := by
    intro n c hc hmem
    exact frame.wildcard_not_mem n (Marker.eq_of_mem_text hmem ▸ hc)
  rw [frame.restore_eq] at h
  constructor
  · rintro rfl
    exact not_isInfix_replaceToken _ hnew (hfresh other) text h
  · exact isInfix_of_isInfix_replaceToken _ hnew (hfresh other) h

/-- A text stays as it is if the placeholder of the marker does not stand in it. -/
theorem restore_eq_self {m : Marker} {text : List Char}
    (h : ¬ (codec.placeholder m).toList <:+: text) : codec.restore m text = text := by
  rw [frame.restore_eq]
  exact replaceToken_eq_self _ h

/-- **No placeholder is left** in a decoded text. -/
theorem holdsPlaceholder_decode (text : String) :
    codec.holdsPlaceholder (codec.decode text) = false := by
  rw [holdsPlaceholder_eq_false_iff, decode, String.toList_ofList]
  intro m h
  obtain ⟨hidentifier, h⟩ := frame.isInfix_of_isInfix_restore h
  obtain ⟨hnode, h⟩ := frame.isInfix_of_isInfix_restore h
  obtain ⟨hrest, -⟩ := frame.isInfix_of_isInfix_restore h
  cases m with
  | rest => exact hrest rfl
  | node => exact hnode rfl
  | identifier => exact hidentifier rfl

/-- Decoding leaves a text without placeholders alone. -/
theorem decode_of_holdsPlaceholder_eq_false {text : String}
    (h : codec.holdsPlaceholder text = false) : codec.decode text = text := by
  have hfree := holdsPlaceholder_eq_false_iff.mp h
  rw [decode, frame.restore_eq_self (hfree .rest), frame.restore_eq_self (hfree .node),
    frame.restore_eq_self (hfree .identifier), String.ofList_toList]

/-- Decoding twice is decoding once. -/
theorem decode_decode (text : String) : codec.decode (codec.decode text) = codec.decode text :=
  frame.decode_of_holdsPlaceholder_eq_false (frame.holdsPlaceholder_decode text)

end Frame

end Codec

/-! ### Compiled queries -/

/-- The tree that a query is compared with: its node, or the block of its statements. -/
def QueryTarget.tree : QueryTarget → Node
  | .node target => target
  | .statements block => block

/-- The children of a new block are its statements. -/
theorem Profile.children_blockOf (profile : Profile) (statements : List Node) (span : Span) :
    (profile.blockOf statements span).children = statements := by
  simp [blockOf, Node.children, FieldValue.nodes]

/-- The texts in a query were decoded. -/
theorem Grammar.BuildsQuery.exists_decodeText_eq {grammar : Grammar} {node : Node}
    (h : grammar.BuildsQuery node) {text : String} (htext : node.text = some text) :
    ∃ raw, text = grammar.profile.decodeText raw := by
  obtain ⟨source, tree, hnode⟩ := h
  rw [Node.walk_mapText] at hnode
  obtain ⟨⟨kind, span, named, before, fields⟩, -, rfl⟩ := List.mem_map.mp hnode
  obtain ⟨raw, -, rfl⟩ := Option.map_eq_some_iff.mp htext
  exact ⟨raw, rfl⟩

namespace Query

variable {grammar : Grammar}

/-- Several statements are put into a new block. -/
theorem exists_blockOf_of_selectTarget {profile : Profile} {found : List Node} {block : Node}
    {hints : List Hint} (h : selectTarget profile found = .ok (.statements block, hints)) :
    ∃ statements span, block = profile.blockOf statements span := by
  unfold selectTarget at h
  split at h
  · cases h
  · cases h
  · obtain ⟨hblock, -⟩ := Prod.mk.inj (Except.ok.inj h)
    exact ⟨_, _, (QueryTarget.statements.inj hblock).symm⟩

/-- **What compiled queries consist of.**  A property of the nodes of queries and of new blocks holds
everywhere in a compiled query. -/
theorem everywhere_tree_of_compile {P : Node → Prop} {index : Nat} {text : String} {query : Query}
    (hcompile : compile grammar index text = .ok query)
    (hbuilt : ∀ node, grammar.BuildsQuery node → P node)
    (hblock : ∀ statements span, P (grammar.profile.blockOf statements span)) :
    query.target.tree.Everywhere P := by
  obtain ⟨index, text, target, hints⟩ := query
  have hnodes : ∀ node ∈ target.nodes grammar.profile, node.Everywhere P := by
    intro node hnode visited hvisited
    exact hbuilt visited ((buildsQuery_of_compile hcompile node hnode).visited hvisited)
  cases target with
  | node node => exact hnodes node (List.mem_singleton_self _)
  | statements block =>
      obtain ⟨-, root, _, _, -, hselected, heq⟩ := compile_eq_ok_iff.mp hcompile
      obtain ⟨-, -, rfl, -⟩ := Query.mk.inj heq
      obtain ⟨statements, span, rfl⟩ := exists_blockOf_of_selectTarget hselected
      refine Node.everywhere_of_children (hblock statements span) fun child hchild => ?_
      have hmem : child ∈ (grammar.profile.blockOf statements span).children := hchild
      rw [Profile.children_blockOf] at hmem
      rw [QueryTarget.nodes, Profile.body_blockOf] at hnodes
      exact hnodes child hmem

/-- **No placeholder survives.**  For every language that needs placeholders, decoded texts hold none
of them and stay as they are when they are decoded again.  So whatever the parser makes of the encoded
query, no node of a compiled query has a text with a placeholder in it, be the query a node or a block
of statements. -/
theorem no_placeholder_left {language : Language} {codec : Codec}
    (hcodec : (Profile.ofLanguage language).codec = some codec) :
    (∀ text, codec.holdsPlaceholder (codec.decode text) = false ∧
      codec.decode (codec.decode text) = codec.decode text) ∧
    ∀ grammar : Grammar, grammar.profile = .ofLanguage language →
      ∀ index text query, compile grammar index text = .ok query →
        query.target.tree.Everywhere fun node =>
          ∀ text, node.text = some text → codec.holdsPlaceholder text = false := by
  obtain ⟨frame⟩ := Profile.nonempty_frame hcodec
  refine ⟨fun text => ⟨frame.holdsPlaceholder_decode text, frame.decode_decode text⟩, ?_⟩
  intro grammar hprofile index text query hcompile
  refine everywhere_tree_of_compile hcompile ?_ ?_
  · intro node hnode text htext
    obtain ⟨raw, rfl⟩ := hnode.exists_decodeText_eq htext
    rw [hprofile, Profile.decodeText, hcodec]
    exact frame.holdsPlaceholder_decode raw
  · intro statements span text htext
    cases htext

end Query

/-! ### A language of names

A program is a single name. -/

namespace Names

def grammar : Grammar where
  profile := .python
  layout := Numbers.layout
  parser
    | "a_x_2_x_a" => some (Numbers.program "identifier" 9)
    | _ => none

/-- The query for any statement, which is parsed as a name. -/
theorem compile_wildcard :
    Query.compile grammar 0 "$$" =
      .ok ⟨0, "$$", .node (Numbers.statement "identifier" "$$" 9), []⟩ := by
  have hencode : grammar.profile.encodeQuery "$$" = "a_x_2_x_a" := by decide +kernel
  have hdecode : (Numbers.file "identifier" "a_x_2_x_a" 9).mapText grammar.profile.decodeText =
      Numbers.file "identifier" "$$" 9 := by
    have htext : grammar.profile.decodeText "a_x_2_x_a" = "$$" := by decide +kernel
    simp [Numbers.file, Numbers.statement, Numbers.number, Node.mapText, Node.mapTextFields,
      Node.mapTextValue, Node.mapTextAll, htext]
  refine Query.compile_eq_ok_iff.mpr ⟨by decide +kernel,
    Numbers.file "identifier" "a_x_2_x_a" 9, _, _, ?_, ?_, rfl⟩
  · rw [hencode]
    rfl
  · rw [hdecode]
    rfl

end Names

/-- The query for any statement is parsed as a name that is a placeholder, and compiled it holds
none. -/
theorem no_placeholder_in_wildcard :
    Query.compile Names.grammar 0 "$$" =
      .ok ⟨0, "$$", .node (Numbers.statement "identifier" "$$" 9), []⟩ ∧
    (Numbers.statement "identifier" "$$" 9).Everywhere fun node =>
      ∀ text, node.text = some text → Codec.underscored.holdsPlaceholder text = false := by
  have hcodec : (Profile.ofLanguage .python).codec = some .underscored := rfl
  obtain ⟨-, hfree⟩ := Query.no_placeholder_left hcodec
  exact ⟨Names.compile_wildcard, hfree Names.grammar rfl 0 "$$" _ Names.compile_wildcard⟩

end StructuralSearch
