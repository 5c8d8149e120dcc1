import Mathlib.Data.List.Infix
import StructuralSearch.Profile.Tables
import StructuralSearch.Proofs.Replacing

/-!
# Placeholders that are put back

All placeholders of a codec begin and end with the same letter, and it stands nowhere else in them
(`Codec.Frame`).  So where two placeholders overlap they share one letter: the last one of the first
and the first one of the second.

Encoding and decoding are followed on pieces.  `spell bound` writes the markers up to a length as
plain characters, and `readBack m` reads the placeholder of `m` among plain characters as the marker.
The key local fact is `readBack_spell_iff`: reading one marker back gives the pieces with one marker
less spelled out, unless a placeholder can be read across the end of a piece (`TanglesAt`).  As the
pieces can be told from their characters and their code together (`eq_of_flatMap_eq`), nothing
repairs a wrong reading, and `decode_encode_iff` gives the exact condition of the round trip.

`decode_encode_eq_self_iff` says so for texts: for every language a text is what decoding its encoded
form gives, unless it tangles a placeholder.
-/

namespace StructuralSearch

open Text

/-- The number of wildcard characters in a marker. -/
def Marker.length : Marker → Nat
  | .identifier => 1
  | .node => 2
  | .rest => 3

/-- The number of wildcard characters that a piece has as a marker. -/
def Piece.rank : Piece → Nat
  | .plain _ => 0
  | .marker m => m.length

/-- Markers are told apart by their length. -/
theorem Marker.length_injective : Function.Injective Marker.length := by
  intro a b h
  cases a <;> cases b <;> first | rfl | cases h

theorem Marker.length_pos (m : Marker) : 0 < m.length := by
  cases m <;> decide

/-- A marker is written with wildcard characters only. -/
theorem Marker.eq_of_mem_text {m : Marker} {c : Char} (h : c ∈ m.text.toList) : c = '$' := by
  cases m <;> simpa [text] using h

/-- A marker begins with a wildcard character. -/
theorem Marker.exists_text_eq (m : Marker) : ∃ others, m.text.toList = '$' :: others := by
  cases m <;> exact ⟨_, rfl⟩

/-- Two texts that agree have the same beginning in front of the first separator. -/
theorem eq_of_append_cons_eq {α : Type} {c : α} {a b back back' : List α} (ha : c ∉ a) (hb : c ∉ b)
    (h : a ++ c :: back = b ++ c :: back') : a = b := by
  induction a generalizing b with
  | nil =>
      cases b with
      | nil => rfl
      | cons d b => exact absurd ((List.cons.inj h).1 ▸ List.mem_cons_self) hb
  | cons x a ih =>
      obtain ⟨hx, ha⟩ := not_or.mp (List.mem_cons.not.mp ha)
      cases b with
      | nil => exact absurd (List.cons.inj h).1.symm hx
      | cons d b =>
          obtain ⟨-, hothers⟩ := not_or.mp (List.mem_cons.not.mp hb)
          obtain ⟨rfl, hbehind⟩ := List.cons.inj h
          rw [ih ha hothers hbehind]

namespace Codec

variable (codec : Codec)

/-! ### Pieces and their code -/

/-- A piece with its `$` as a plain character, if that belongs to the language. -/
def settlePiece (piece : Piece) (following : List Piece) : Piece :=
  match piece, following with
  | .marker .identifier, .plain c :: _ =>
    if codec.keepBefore.contains c then .plain '$' else .marker .identifier
  | piece, _ => piece

/-- The pieces of a query, each `$` that belongs to the language as a plain character. -/
def settle : List Piece → List Piece
  | [] => []
  | piece :: pieces => codec.settlePiece piece pieces :: settle pieces

/-- The characters by which a piece is encoded: a plain one stays, and a marker gives way to its
placeholder. -/
def code : Piece → List Char
  | .plain c => [c]
  | .marker m => (codec.placeholder m).toList

/-- **Tangled placeholders.**  Once the markers are encoded, the placeholder of `m` can be read where
`m` was not written: the characters inside it stand there as they are, the piece in front of them
ends with its first character and is no marker as long as `m`, and the piece behind them begins with
its last character and is no longer marker than `m`. -/
def TanglesAt (m : Marker) (pieces : List Piece) : Prop :=
  ∃ front left first inner last right back,
    (codec.placeholder m).toList = first :: (inner ++ [last]) ∧
    pieces = front ++ left :: (inner.map .plain ++ right :: back) ∧
    (codec.code left).getLast? = some first ∧ left.rank < m.length ∧
    (codec.code right).head? = some last ∧ right.rank ≤ m.length

/-- A query tangles one of the placeholders. -/
def Tangles (query : String) : Prop :=
  ∃ m, codec.TanglesAt m (codec.settle (Piece.scan query.toList))

/-- A `$` that belongs to the language is written as it was. -/
theorem chars_settlePiece (piece : Piece) (following : List Piece) :
    (codec.settlePiece piece following).chars = piece.chars := by
  unfold settlePiece
  split
  · split <;> rfl
  · rfl

theorem flatMap_chars_settle (pieces : List Piece) :
    (codec.settle pieces).flatMap Piece.chars = pieces.flatMap Piece.chars := by
  induction pieces with
  | nil => rfl
  | cons piece pieces ih => rw [settle, List.flatMap_cons, List.flatMap_cons, ih, chars_settlePiece]

/-- A piece is encoded by the code of the settled piece. -/
theorem encodePiece_eq_code (piece : Piece) (following : List Piece) :
    codec.encodePiece piece following = codec.code (codec.settlePiece piece following) := by
  rcases piece with c | m
  · rfl
  · cases m with
    | rest => rfl
    | node => rfl
    | identifier =>
        rcases following with _ | ⟨_ | _, following⟩
        · rfl
        · rw [encodePiece, settlePiece]
          split <;> rfl
        · rfl

/-- Encoding writes the code of the settled pieces. -/
theorem encodePieces_eq_flatMap (pieces : List Piece) :
    codec.encodePieces pieces = (codec.settle pieces).flatMap codec.code := by
  induction pieces with
  | nil => rfl
  | cons piece pieces ih =>
      rw [encodePieces, settle, List.flatMap_cons, ih, encodePiece_eq_code]

/-- What the placeholders of a codec have in common: they begin and end with one letter, which
stands nowhere else in them, and they hold no wildcard character. -/
structure Frame where
  edge : Char
  core : Marker → List Char
  placeholder_eq : ∀ m, (codec.placeholder m).toList = edge :: (core m ++ [edge])
  edge_not_mem : ∀ m, edge ∉ core m
  wildcard_not_mem : ∀ m, '$' ∉ (codec.placeholder m).toList
  core_injective : Function.Injective core

/-- A piece with its marker spelled out as plain characters, if that is no longer than the bound. -/
def spellPiece (bound : Nat) (piece : Piece) : List Piece :=
  if piece.rank ≤ bound then (codec.code piece).map .plain else [piece]

/-- Pieces with the markers up to a length spelled out. -/
def spell (bound : Nat) (pieces : List Piece) : List Piece :=
  pieces.flatMap (codec.spellPiece bound)

/-- Pieces with the placeholders of a marker read as the marker. -/
def readBack (m : Marker) (pieces : List Piece) : List Piece :=
  replaceAll ((codec.placeholder m).toList.map .plain) [.marker m] pieces

theorem spellPiece_of_le {bound : Nat} {piece : Piece} (h : piece.rank ≤ bound) :
    codec.spellPiece bound piece = (codec.code piece).map .plain :=
  if_pos h

theorem spellPiece_of_lt {bound : Nat} {piece : Piece} (h : bound < piece.rank) :
    codec.spellPiece bound piece = [piece] :=
  if_neg (Nat.not_le_of_lt h)

theorem spell_cons (bound : Nat) (piece : Piece) (pieces : List Piece) :
    codec.spell bound (piece :: pieces) = codec.spellPiece bound piece ++ codec.spell bound pieces :=
  List.flatMap_cons

/-- A text without wildcard characters begins the text of some pieces exactly if its characters are
the first of the pieces. -/
theorem isPrefix_flatMap_chars_iff {text : List Char} (hplain : '$' ∉ text)
    {pieces : List Piece} :
    text <+: pieces.flatMap Piece.chars ↔ text.map .plain <+: pieces := by
  induction text generalizing pieces with
  | nil => simp
  | cons c text ih =>
      obtain ⟨hc, htext⟩ := not_or.mp (List.mem_cons.not.mp hplain)
      rcases pieces with _ | ⟨d | m, pieces⟩
      · simp
      · rw [List.flatMap_cons, Piece.chars, List.singleton_append, List.map_cons,
          List.cons_prefix_cons, List.cons_prefix_cons, ih htext, Piece.plain.injEq]
      · obtain ⟨others, hm⟩ := m.exists_text_eq
        rw [List.flatMap_cons, Piece.chars, hm, List.cons_append, List.map_cons,
          List.cons_prefix_cons, List.cons_prefix_cons]
        constructor
        · rintro ⟨heq, -⟩
          exact absurd heq.symm hc
        · rintro ⟨heq, -⟩
          cases heq

namespace Frame

variable {codec} (frame : codec.Frame)
include frame

theorem placeholder_ne_nil (m : Marker) : (codec.placeholder m).toList ≠ [] := by
  rw [frame.placeholder_eq]
  exact List.cons_ne_nil _ _

theorem map_placeholder_ne_nil (m : Marker) :
    (codec.placeholder m).toList.map Piece.plain ≠ [] :=
  fun h => frame.placeholder_ne_nil m (List.map_eq_nil_iff.mp h)

/-- The letter at the ends of the placeholders is no wildcard character. -/
theorem edge_ne_wildcard : frame.edge ≠ '$' := by
  intro heq
  refine frame.wildcard_not_mem .rest ?_
  rw [frame.placeholder_eq, heq]
  exact List.mem_cons_self

theorem restore_eq (m : Marker) (text : List Char) :
    codec.restore m text =
      replaceToken (codec.placeholder m).toList (frame.placeholder_ne_nil m) m.text.toList text :=
  dif_pos (frame.placeholder_ne_nil m)

theorem readBack_eq (m : Marker) (pieces : List Piece) :
    codec.readBack m pieces =
      replaceToken _ (frame.map_placeholder_ne_nil m) [.marker m] pieces :=
  dif_pos (frame.map_placeholder_ne_nil m)

/-- Markers are put back into a text as they are read back among its pieces. -/
theorem restore_flatMap_chars (m : Marker) (pieces : List Piece) :
    codec.restore m (pieces.flatMap Piece.chars) =
      (codec.readBack m pieces).flatMap Piece.chars := by
  rw [frame.restore_eq, frame.readBack_eq]
  have hplain := frame.wildcard_not_mem m
  induction pieces using replacing_induction (frame.map_placeholder_ne_nil m) with
  | nil => simp
  | found pieces ih =>
      have hspelled : ((codec.placeholder m).toList.map Piece.plain).flatMap Piece.chars =
          (codec.placeholder m).toList := by
        simp [List.flatMap_map, Piece.chars]
      rw [replaceToken_append, List.flatMap_append, List.flatMap_append, hspelled,
        replaceToken_append, ih]
      simp [Piece.chars]
  | kept piece pieces hbegins ih =>
      rw [replaceToken_cons _ hbegins, List.flatMap_cons, List.flatMap_cons, ← ih]
      refine replaceToken_append_of_not_isPrefix _ fun back hback hsuffix hprefix => ?_
      rcases piece with c | other
      · obtain rfl : back = [c] := by
          rcases List.suffix_cons_iff.mp hsuffix with heq | hnil
          · exact heq
          · exact absurd (List.suffix_nil.mp hnil) hback
        exact hbegins ((isPrefix_flatMap_chars_iff hplain).mp
          (by rwa [List.flatMap_cons]))
      · obtain ⟨c, others, rfl⟩ := List.exists_cons_of_ne_nil hback
        have hc : c = '$' := Marker.eq_of_mem_text (hsuffix.subset List.mem_cons_self)
        rw [frame.placeholder_eq] at hprefix
        exact frame.edge_ne_wildcard ((List.cons_prefix_cons.mp hprefix).1.trans hc)

/-- Reading markers back does not change the code of the pieces. -/
theorem flatMap_code_readBack (m : Marker) (pieces : List Piece) :
    (codec.readBack m pieces).flatMap codec.code = pieces.flatMap codec.code := by
  rw [frame.readBack_eq]
  induction pieces using replacing_induction (frame.map_placeholder_ne_nil m) with
  | nil => simp
  | found pieces ih =>
      rw [replaceToken_append, List.flatMap_append, List.flatMap_append, ih]
      simp [List.flatMap_map, code]
  | kept piece pieces hbegins ih =>
      rw [replaceToken_cons _ hbegins, List.flatMap_cons, List.flatMap_cons, ih]

/-- What is read back is the marker, and the other pieces were there before. -/
theorem mem_readBack {m : Marker} {piece : Piece} {pieces : List Piece}
    (h : piece ∈ codec.readBack m pieces) : piece = .marker m ∨ piece ∈ pieces := by
  rw [frame.readBack_eq] at h
  induction pieces using replacing_induction (frame.map_placeholder_ne_nil m) with
  | nil => simp at h
  | found pieces ih =>
      rw [replaceToken_append] at h
      rcases List.mem_append.mp h with hnew | hlater
      · exact Or.inl (List.mem_singleton.mp hnew)
      · exact (ih hlater).imp_right (List.mem_append_right _)
  | kept first pieces hbegins ih =>
      rw [replaceToken_cons _ hbegins] at h
      rcases List.mem_cons.mp h with rfl | hlater
      · exact Or.inr List.mem_cons_self
      · exact (ih hlater).imp_right (List.mem_cons_of_mem _)

/-- A marker that was read back is spelled out again. -/
theorem spell_readBack {m : Marker} {pieces : List Piece}
    (h : ∀ piece ∈ pieces, piece.rank = 0 ∨ m.length < piece.rank) :
    codec.spell m.length (codec.readBack m pieces) = pieces := by
  rw [frame.readBack_eq]
  induction pieces using replacing_induction (frame.map_placeholder_ne_nil m) with
  | nil => rw [replaceToken_nil]; rfl
  | found pieces ih =>
      rw [replaceToken_append, List.singleton_append, spell_cons,
        ih fun piece hpiece => h piece (List.mem_append_right _ hpiece),
        spellPiece_of_le codec (Nat.le_refl m.length), code]
  | kept piece pieces hbegins ih =>
      rw [replaceToken_cons _ hbegins, spell_cons,
        ih fun other hother => h other (List.mem_cons_of_mem _ hother)]
      rcases piece with c | other
      · rfl
      · have hlonger : m.length < other.length :=
          (h _ List.mem_cons_self).resolve_left (Nat.ne_of_gt other.length_pos)
        rw [spellPiece_of_lt codec hlonger, List.singleton_append]

/-- No placeholder is the beginning of another one. -/
theorem eq_of_placeholder_append {a b : Marker} {text other : List Char}
    (h : (codec.placeholder a).toList ++ text = (codec.placeholder b).toList ++ other) :
    a = b := by
  simp only [frame.placeholder_eq, List.cons_append, List.append_assoc, List.nil_append,
    List.cons.injEq, true_and] at h
  exact frame.core_injective
    (eq_of_append_cons_eq (frame.edge_not_mem a) (frame.edge_not_mem b) h)

/-- A plain character is not both encoded and written as a marker is. -/
theorem not_plain_of_marker {c : Char} {m : Marker} {code code' text text' : List Char}
    (hcode : c :: code = (codec.placeholder m).toList ++ code')
    (htext : c :: text = m.text.toList ++ text') : False := by
  obtain ⟨others, hm⟩ := m.exists_text_eq
  rw [frame.placeholder_eq] at hcode
  rw [hm] at htext
  exact frame.edge_ne_wildcard ((List.cons.inj hcode).1.symm.trans (List.cons.inj htext).1)

/-- **Code and text tell pieces apart.**  Pieces that are encoded alike and written alike are the
same. -/
theorem eq_of_flatMap_eq {pieces others : List Piece}
    (hcode : pieces.flatMap codec.code = others.flatMap codec.code)
    (htext : pieces.flatMap Piece.chars = others.flatMap Piece.chars) : pieces = others := by
  induction pieces generalizing others with
  | nil =>
      rcases others with _ | ⟨d | n, others⟩
      · rfl
      · cases hcode
      · obtain ⟨more, hn⟩ := n.exists_text_eq
        rw [List.flatMap_cons, Piece.chars, hn] at htext
        cases htext
  | cons piece pieces ih =>
      rcases piece with c | m
      · rcases others with _ | ⟨d | n, others⟩
        · cases hcode
        · obtain ⟨rfl, hbehind⟩ := List.cons.inj hcode
          rw [ih hbehind (List.cons.inj htext).2]
        · exact (frame.not_plain_of_marker hcode htext).elim
      · rcases others with _ | ⟨d | n, others⟩
        · obtain ⟨more, hm⟩ := m.exists_text_eq
          rw [List.flatMap_cons, Piece.chars, hm] at htext
          cases htext
        · exact (frame.not_plain_of_marker hcode.symm htext.symm).elim
        · obtain rfl := frame.eq_of_placeholder_append hcode
          rw [ih (List.append_cancel_left hcode) (List.append_cancel_left htext)]

end Frame

/-- Spelling out more markers spells out those that stand for less. -/
theorem spell_spell {less bound : Nat} (h : less ≤ bound) (pieces : List Piece) :
    codec.spell bound (codec.spell less pieces) = codec.spell bound pieces := by
  have hplain : ∀ text : List Char, codec.spell bound (text.map .plain) = text.map .plain := by
    intro text
    induction text with
    | nil => rfl
    | cons c text ih => rw [List.map_cons, spell_cons, ih]; rfl
  rw [spell, spell, List.flatMap_assoc]
  refine List.flatMap_congr fun piece _ => ?_
  rcases Nat.lt_or_ge less piece.rank with hlonger | hspelled
  · rw [spellPiece_of_lt codec hlonger, List.flatMap_singleton]
  · rw [spellPiece_of_le codec hspelled, spellPiece_of_le codec (Nat.le_trans hspelled h)]
    exact hplain _

/-- What is spelled out is plain. -/
theorem rank_of_mem_spell {bound : Nat} {piece : Piece} {pieces : List Piece}
    (h : piece ∈ codec.spell bound pieces) : piece.rank = 0 ∨ bound < piece.rank := by
  obtain ⟨origin, -, hpiece⟩ := List.mem_flatMap.mp h
  rcases Nat.lt_or_ge bound origin.rank with hlonger | hspelled
  · rw [spellPiece_of_lt codec hlonger, List.mem_singleton] at hpiece
    exact Or.inr (hpiece ▸ hlonger)
  · rw [spellPiece_of_le codec hspelled] at hpiece
    obtain ⟨c, -, rfl⟩ := List.mem_map.mp hpiece
    exact Or.inl rfl

/-- Nothing is spelled out up to length zero. -/
theorem spell_zero (pieces : List Piece) : codec.spell 0 pieces = pieces := by
  have hpiece : codec.spellPiece 0 = fun piece => [piece] := by
    funext piece
    rcases piece with c | m
    · rfl
    · exact spellPiece_of_lt codec m.length_pos
  rw [spell, hpiece, List.flatMap_singleton']

/-- Spelling markers out does not change the code of the pieces. -/
theorem flatMap_code_spell (bound : Nat) (pieces : List Piece) :
    (codec.spell bound pieces).flatMap codec.code = pieces.flatMap codec.code := by
  rw [spell, List.flatMap_assoc]
  refine List.flatMap_congr fun piece _ => ?_
  rcases Nat.lt_or_ge bound piece.rank with hlonger | hspelled
  · rw [spellPiece_of_lt codec hlonger, List.flatMap_singleton]
  · rw [spellPiece_of_le codec hspelled, List.flatMap_map]
    exact List.flatMap_singleton' _

/-- With all markers spelled out, the text of the pieces is their code. -/
theorem flatMap_chars_spell (pieces : List Piece) :
    (codec.spell 3 pieces).flatMap Piece.chars = pieces.flatMap codec.code := by
  rw [spell, List.flatMap_assoc]
  refine List.flatMap_congr fun piece _ => ?_
  have hspelled : piece.rank ≤ 3 := by
    rcases piece with c | m
    · exact Nat.zero_le 3
    · cases m <;> decide
  rw [spellPiece_of_le codec hspelled, List.flatMap_map]
  exact List.flatMap_singleton' _

/-! ### Reading one marker back -/

namespace Frame

variable {codec} (frame : codec.Frame)
include frame

/-- The pieces go on with what stands inside the placeholder of a marker and with the letter at its
end, once the markers up to that length are spelled out. -/
def Completes (m : Marker) (pieces : List Piece) : Prop :=
  ∃ right back, pieces = (frame.core m).map .plain ++ right :: back ∧
    (codec.code right).head? = some frame.edge ∧ right.rank ≤ m.length

/-- A piece is encoded by at least one character. -/
theorem exists_code_eq (piece : Piece) : ∃ c rest, codec.code piece = c :: rest := by
  rcases piece with c | m
  · exact ⟨c, [], rfl⟩
  · exact ⟨frame.edge, frame.core m ++ [frame.edge], frame.placeholder_eq m⟩

/-- The first character of the code of a marker. -/
theorem head?_code_marker (m : Marker) : (codec.code (.marker m)).head? = some frame.edge := by
  rw [code, frame.placeholder_eq, List.head?_cons]

/-- A character that spelled pieces begin with is the first one of the code of the first piece, which
is spelled out. -/
theorem cons_isPrefix_spell_iff {c : Char} {others : List Piece} {bound : Nat} {piece : Piece}
    {pieces : List Piece} :
    .plain c :: others <+: codec.spell bound (piece :: pieces) ↔
      piece.rank ≤ bound ∧ ∃ rest, codec.code piece = c :: rest ∧
        others <+: rest.map .plain ++ codec.spell bound pieces := by
  rw [spell_cons]
  rcases Nat.lt_or_ge bound piece.rank with hlonger | hspelled
  · rw [spellPiece_of_lt codec hlonger, List.singleton_append, List.cons_prefix_cons]
    constructor
    · rintro ⟨rfl, -⟩
      exact absurd hlonger (Nat.not_lt_zero bound)
    · rintro ⟨hle, -⟩
      exact absurd hle (Nat.not_le_of_lt hlonger)
  · obtain ⟨d, rest, hcode⟩ := frame.exists_code_eq piece
    rw [spellPiece_of_le codec hspelled, hcode, List.map_cons, List.cons_append,
      List.cons_prefix_cons, Piece.plain.injEq]
    constructor
    · rintro ⟨rfl, hprefix⟩
      exact ⟨hspelled, rest, rfl, hprefix⟩
    · rintro ⟨-, more, heq, hprefix⟩
      obtain ⟨rfl, rfl⟩ := List.cons.inj heq
      exact ⟨rfl, hprefix⟩

/-- Where a text up to the letter at the ends of placeholders is spelled out, its characters stand as
they are and a piece with that letter in front follows. -/
theorem isPrefix_spell_iff {inner : List Char} (hinner : frame.edge ∉ inner) {bound : Nat}
    {pieces : List Piece} :
    (inner ++ [frame.edge]).map .plain <+: codec.spell bound pieces ↔
      ∃ right back, pieces = inner.map .plain ++ right :: back ∧
        (codec.code right).head? = some frame.edge ∧ right.rank ≤ bound := by
  induction inner generalizing pieces with
  | nil =>
      rcases pieces with _ | ⟨piece, pieces⟩
      · simp [spell]
      · refine frame.cons_isPrefix_spell_iff.trans ?_
        constructor
        · rintro ⟨hrank, rest, hcode, -⟩
          exact ⟨piece, pieces, rfl, by rw [hcode, List.head?_cons], hrank⟩
        · rintro ⟨right, back, heq, hhead, hrank⟩
          obtain ⟨rfl, rfl⟩ := List.cons.inj heq
          obtain ⟨rest, hcode⟩ := List.head?_eq_some_iff.mp hhead
          exact ⟨hrank, rest, hcode, List.nil_prefix⟩
  | cons c inner ih =>
      obtain ⟨hc, hlater⟩ := not_or.mp (List.mem_cons.not.mp hinner)
      rcases pieces with _ | ⟨piece, pieces⟩
      · simp [spell]
      · refine frame.cons_isPrefix_spell_iff.trans ?_
        rcases piece with d | n
        · constructor
          · rintro ⟨-, rest, hcode, hprefix⟩
            obtain ⟨rfl, rfl⟩ := List.cons.inj hcode
            obtain ⟨right, back, rfl, hright⟩ := (ih hlater).mp hprefix
            exact ⟨right, back, rfl, hright⟩
          · rintro ⟨right, back, heq, hright⟩
            obtain ⟨hhead, hback⟩ := List.cons.inj heq
            obtain rfl := Piece.plain.inj hhead
            exact ⟨Nat.zero_le bound, [], rfl, (ih hlater).mpr ⟨right, back, hback, hright⟩⟩
        · constructor
          · rintro ⟨-, rest, hcode, -⟩
            have hhead := frame.head?_code_marker n
            rw [hcode, List.head?_cons] at hhead
            exact absurd (Option.some.inj hhead).symm hc
          · rintro ⟨right, back, heq, -⟩
            cases heq

/-- A placeholder begins with the letter at its ends. -/
theorem placeholder_isPrefix_cons_iff {m : Marker} {c : Char} {pieces : List Piece} :
    (codec.placeholder m).toList.map .plain <+: .plain c :: pieces ↔
      c = frame.edge ∧ (frame.core m ++ [frame.edge]).map .plain <+: pieces := by
  rw [frame.placeholder_eq, List.map_cons, List.cons_prefix_cons, Piece.plain.injEq, eq_comm]

/-- A plain character is kept, and what stands behind it is read, exactly if no placeholder begins
with it. -/
theorem readBack_plain_eq_iff {m : Marker} {c : Char} {pieces others : List Piece} :
    codec.readBack m (.plain c :: pieces) = .plain c :: others ↔
      ¬ (codec.placeholder m).toList.map .plain <+: .plain c :: pieces ∧
        codec.readBack m pieces = others := by
  simp only [frame.readBack_eq]
  by_cases hbegins : (codec.placeholder m).toList.map .plain <+: .plain c :: pieces
  · obtain ⟨rest, hrest⟩ := hbegins
    simp [← hrest, replaceToken_append]
  · simp [replaceToken_cons _ hbegins, hbegins]

/-- A placeholder is read as its marker. -/
theorem readBack_placeholder (m : Marker) (pieces : List Piece) :
    codec.readBack m ((codec.code (.marker m)).map .plain ++ pieces) =
      .marker m :: codec.readBack m pieces := by
  rw [frame.readBack_eq, frame.readBack_eq, code, replaceToken_append, List.singleton_append]

/-- A marker stays a marker. -/
theorem readBack_marker (m n : Marker) (pieces : List Piece) :
    codec.readBack m (.marker n :: pieces) = .marker n :: codec.readBack m pieces := by
  rw [frame.readBack_eq, frame.readBack_eq]
  refine replaceToken_cons _ fun hprefix => ?_
  rw [frame.placeholder_eq, List.map_cons, List.cons_prefix_cons] at hprefix
  cases hprefix.1

/-- Inside the placeholder of another marker no placeholder begins but at the last letter. -/
theorem readBack_inside {m n : Marker} (hne : n ≠ m) (pieces : List Piece) :
    codec.readBack m ((frame.edge :: frame.core n).map .plain ++ .plain frame.edge :: pieces) =
      (frame.edge :: frame.core n).map .plain ++
        codec.readBack m (.plain frame.edge :: pieces) := by
  simp only [frame.readBack_eq]
  refine replaceToken_append_of_not_isPrefix _ fun back hback hsuffix hprefix => ?_
  rw [frame.placeholder_eq, List.map_cons] at hprefix
  rw [List.map_cons] at hsuffix
  rcases List.suffix_cons_iff.mp hsuffix with rfl | hinner
  · -- the whole placeholder: both would have the same core
    rw [List.cons_append, List.cons_prefix_cons] at hprefix
    obtain ⟨rest, hrest⟩ := hprefix.2
    rw [List.map_append, List.append_assoc, List.map_singleton, List.singleton_append] at hrest
    have hfree : ∀ k, Piece.plain frame.edge ∉ (frame.core k).map .plain := by
      intro k hmem
      obtain ⟨c, hc, heq⟩ := List.mem_map.mp hmem
      exact frame.edge_not_mem k (Piece.plain.inj heq ▸ hc)
    have hcores := eq_of_append_cons_eq (hfree m) (hfree n) hrest
    have hinjective : Function.Injective Piece.plain := fun _ _ => Piece.plain.inj
    exact hne (frame.core_injective (List.map_injective_iff.mpr hinjective hcores)).symm
  · obtain ⟨first, others, rfl⟩ := List.exists_cons_of_ne_nil hback
    obtain ⟨c, hc, rfl⟩ := List.mem_map.mp (hinner.subset List.mem_cons_self)
    have heq := Piece.plain.inj (List.cons_prefix_cons.mp hprefix).1
    exact frame.edge_not_mem n (heq ▸ hc)

/-- **One piece.**  The code of a piece with less than a marker is kept, and what stands behind it is
read, exactly if no placeholder begins with its last character. -/
theorem readBack_code_eq_iff {m : Marker} {piece : Piece} (hshorter : piece.rank < m.length)
    {pieces others : List Piece} :
    codec.readBack m ((codec.code piece).map .plain ++ pieces) =
        (codec.code piece).map .plain ++ others ↔
      ¬ ((codec.code piece).getLast? = some frame.edge ∧
        (frame.core m ++ [frame.edge]).map .plain <+: pieces) ∧
      codec.readBack m pieces = others := by
  rcases piece with c | n
  · refine frame.readBack_plain_eq_iff.trans ?_
    rw [frame.placeholder_isPrefix_cons_iff]
    simp [code]
  · have hne : n ≠ m := by
      rintro rfl
      exact absurd hshorter (Nat.lt_irrefl _)
    have hcode : codec.code (.marker n) = (frame.edge :: frame.core n) ++ [frame.edge] :=
      frame.placeholder_eq n
    rw [hcode, List.map_append, List.map_singleton, List.append_assoc, List.append_assoc,
      List.singleton_append, List.singleton_append, frame.readBack_inside hne,
      List.append_cancel_left_eq, frame.readBack_plain_eq_iff, frame.placeholder_isPrefix_cons_iff,
      List.getLast?_concat]
    simp

/-- A placeholder is tangled where a piece with less than its marker ends with its first letter and
is followed by the rest of it. -/
theorem tanglesAt_iff {m : Marker} {pieces : List Piece} :
    codec.TanglesAt m pieces ↔ ∃ front left back, pieces = front ++ left :: back ∧
      (codec.code left).getLast? = some frame.edge ∧ left.rank < m.length ∧
        frame.Completes m back := by
  constructor
  · rintro ⟨front, left, first, inner, last, right, back, hplaceholder, heq, hleft, hrank, hright⟩
    rw [frame.placeholder_eq] at hplaceholder
    obtain ⟨rfl, hinner⟩ := List.cons.inj hplaceholder
    obtain ⟨rfl, hlast⟩ := List.append_inj' hinner rfl
    obtain rfl := List.singleton_inj.mp hlast
    exact ⟨front, left, _, heq, hleft, hrank, right, back, rfl, hright⟩
  · rintro ⟨front, left, _, heq, hleft, hrank, right, back, rfl, hright⟩
    exact ⟨front, left, frame.edge, frame.core m, frame.edge, right, back, frame.placeholder_eq m,
      heq, hleft, hrank, hright⟩

theorem not_tanglesAt_nil (m : Marker) : ¬ codec.TanglesAt m [] := by
  rw [frame.tanglesAt_iff]
  rintro ⟨front, left, back, heq, -⟩
  exact absurd heq.symm (List.append_ne_nil_of_right_ne_nil _ (List.cons_ne_nil _ _))

theorem tanglesAt_cons_iff {m : Marker} {piece : Piece} {pieces : List Piece} :
    codec.TanglesAt m (piece :: pieces) ↔
      ((codec.code piece).getLast? = some frame.edge ∧ piece.rank < m.length ∧
        frame.Completes m pieces) ∨ codec.TanglesAt m pieces := by
  rw [frame.tanglesAt_iff, frame.tanglesAt_iff]
  constructor
  · rintro ⟨_ | ⟨first, front⟩, left, back, heq, htangle⟩
    · obtain ⟨rfl, rfl⟩ := List.cons.inj heq
      exact Or.inl htangle
    · exact Or.inr ⟨front, left, back, (List.cons.inj heq).2, htangle⟩
  · rintro (htangle | ⟨front, left, back, rfl, htangle⟩)
    · exact ⟨[], piece, pieces, rfl, htangle⟩
    · exact ⟨piece :: front, left, back, rfl, htangle⟩

/-- **Reading one marker back.**  Where the markers up to the length of `m` are spelled out, reading
`m` back leaves the shorter ones spelled out, exactly if the placeholder of `m` is not tangled.  The
induction is on the pieces; longer markers are passed over, `m` itself is found, and a shorter piece
is kept unless a placeholder begins with its last character. -/
theorem readBack_spell_iff {m : Marker} {pieces : List Piece} :
    codec.readBack m (codec.spell m.length pieces) = codec.spell (m.length - 1) pieces ↔
      ¬ codec.TanglesAt m pieces := by
  induction pieces with
  | nil => simp [spell, frame.readBack_eq, frame.not_tanglesAt_nil]
  | cons piece pieces ih =>
      rw [frame.tanglesAt_cons_iff, spell_cons, spell_cons, not_or, ← ih]
      rcases Nat.lt_trichotomy piece.rank m.length with hshorter | hsame | hlonger
      · rw [spellPiece_of_le codec (Nat.le_of_lt hshorter),
          spellPiece_of_le codec (Nat.le_sub_one_of_lt hshorter),
          frame.readBack_code_eq_iff hshorter, frame.isPrefix_spell_iff (frame.edge_not_mem m)]
        simp [Completes, hshorter]
      · rcases piece with c | n
        · exact absurd hsame (Nat.ne_of_lt m.length_pos)
        · obtain rfl := Marker.length_injective hsame
          have hless : n.length - 1 < (Piece.marker n).rank := Nat.sub_one_lt_of_lt n.length_pos
          rw [spellPiece_of_le codec (Nat.le_of_eq hsame), spellPiece_of_lt codec hless,
            frame.readBack_placeholder, List.singleton_append, List.cons.injEq]
          simp [hsame]
      · rcases piece with c | n
        · exact absurd hlonger (Nat.not_lt_zero _)
        · rw [spellPiece_of_lt codec hlonger,
            spellPiece_of_lt codec (Nat.lt_of_le_of_lt (Nat.sub_le _ _) hlonger),
            List.singleton_append, List.singleton_append, frame.readBack_marker, List.cons.injEq]
          simp [Nat.not_lt_of_gt hlonger]

/-! ### All markers -/

/-- **The round trip of pieces.**  Decoding the code of pieces gives what they are written with, exactly
if they tangle no placeholder.  Reading all markers back gives pieces with the same code, so it gives
the right text only if it gives the same pieces, and then each of the three readings was right. -/
theorem decode_encode_iff (pieces : List Piece) :
    codec.restore .identifier (codec.restore .node (codec.restore .rest
        (pieces.flatMap codec.code))) = pieces.flatMap Piece.chars ↔
      ∀ m, ¬ codec.TanglesAt m pieces := by
  let afterRest := codec.readBack .rest (codec.spell 3 pieces)
  let afterNode := codec.readBack .node afterRest
  let afterAll := codec.readBack .identifier afterNode
  have htext : codec.restore .identifier (codec.restore .node (codec.restore .rest
      (pieces.flatMap codec.code))) = afterAll.flatMap Piece.chars := by
    rw [← codec.flatMap_chars_spell, frame.restore_flatMap_chars, frame.restore_flatMap_chars,
      frame.restore_flatMap_chars]
  have hcode : afterAll.flatMap codec.code = pieces.flatMap codec.code := by
    rw [frame.flatMap_code_readBack, frame.flatMap_code_readBack, frame.flatMap_code_readBack,
      codec.flatMap_code_spell]
  have hpieces : afterAll.flatMap Piece.chars = pieces.flatMap Piece.chars ↔ afterAll = pieces :=
    ⟨frame.eq_of_flatMap_eq hcode, congrArg _⟩
  have hrest : ∀ piece ∈ afterRest, piece.rank = 0 ∨ Marker.node.length < piece.rank := by
    intro piece hpiece
    rcases frame.mem_readBack hpiece with rfl | hspelled
    · exact Or.inr (by decide)
    · exact (codec.rank_of_mem_spell hspelled).imp_right (Nat.lt_of_succ_lt)
  have hnode : ∀ piece ∈ afterNode, piece.rank = 0 ∨ Marker.identifier.length < piece.rank := by
    intro piece hpiece
    rcases frame.mem_readBack hpiece with rfl | hbefore
    · exact Or.inr (by decide)
    · exact (hrest piece hbefore).imp_right (Nat.lt_of_succ_lt)
  rw [htext, hpieces]
  constructor
  · intro hall
    have hone : codec.spell 1 pieces = afterNode := by
      rw [← hall]
      exact frame.spell_readBack hnode
    have htwo : codec.spell 2 pieces = afterRest := by
      rw [← codec.spell_spell (Nat.le_succ 1), hone]
      exact frame.spell_readBack hrest
    intro m
    rw [← frame.readBack_spell_iff]
    cases m with
    | rest => exact htwo.symm
    | node => exact (congrArg _ htwo).trans hone.symm
    | identifier => exact (congrArg _ hone).trans (hall.trans (codec.spell_zero pieces).symm)
  · intro hfree
    have htwo : afterRest = codec.spell 2 pieces := frame.readBack_spell_iff.mpr (hfree .rest)
    have hone : afterNode = codec.spell 1 pieces :=
      (congrArg _ htwo).trans (frame.readBack_spell_iff.mpr (hfree .node))
    exact ((congrArg _ hone).trans (frame.readBack_spell_iff.mpr (hfree .identifier))).trans
      (codec.spell_zero pieces)

end Frame

end Codec

/-! ### The known languages -/

/-- The placeholders of letters, digits and underscores, whatever is kept. -/
def Codec.underscoredFrame (keepBefore : List Char) :
    Codec.Frame { Codec.underscored with keepBefore } where
  edge := 'a'
  core
    | .identifier => ['_', 'x', '_', '1', '_', 'x', '_']
    | .node => ['_', 'x', '_', '2', '_', 'x', '_']
    | .rest => ['_', 'x', '_', '3', '_', 'x', '_']
  placeholder_eq m := by cases m <;> simp [placeholder, underscored]
  edge_not_mem m := by cases m <;> decide
  wildcard_not_mem m := by cases m <;> simp [placeholder, underscored]
  core_injective a b h := by cases a <;> cases b <;> first | rfl | cases h

/-- The placeholders of letters, digits and hyphens. -/
def Codec.hyphenatedFrame : Codec.Frame .hyphenated where
  edge := 'q'
  core
    | .identifier => ['x', '-', '1', '-', 'x']
    | .node => ['x', '-', '2', '-', 'x']
    | .rest => ['x', '-', '3', '-', 'x']
  placeholder_eq m := by cases m <;> simp [placeholder, hyphenated]
  edge_not_mem m := by cases m <;> decide
  wildcard_not_mem m := by cases m <;> simp [placeholder, hyphenated]
  core_injective a b h := by cases a <;> cases b <;> first | rfl | cases h

/-- Every language that needs placeholders has framed ones. -/
theorem Profile.nonempty_frame {language : Language} {codec : Codec}
    (hcodec : (ofLanguage language).codec = some codec) : Nonempty codec.Frame := by
  cases language with
  | typescript => cases hcodec
  | python =>
      obtain rfl := Option.some.inj hcodec
      exact ⟨Codec.underscoredFrame []⟩
  | csharp =>
      obtain rfl := Option.some.inj hcodec
      exact ⟨Codec.underscoredFrame ['"', '@']⟩
  | html =>
      obtain rfl := Option.some.inj hcodec
      exact ⟨Codec.hyphenatedFrame⟩

namespace Codec

/-- **The round trip.**  For every language that needs placeholders, decoding the encoded form of a
text gives the text back, exactly if the text does not tangle one of the placeholders.  It may tangle
one although it holds none: encoding a marker puts the first letter of another placeholder in front of
what follows. -/
theorem decode_encode_eq_self_iff {language : Language} {codec : Codec}
    (hcodec : (Profile.ofLanguage language).codec = some codec) (text : String) :
    codec.decode (codec.encode text) = text ↔ ¬ codec.Tangles text := by
  obtain ⟨frame⟩ := Profile.nonempty_frame hcodec
  have hscan := Piece.flatMap_chars_scan text.toList
  have hpieces := frame.decode_encode_iff (codec.settle (Piece.scan text.toList))
  rw [flatMap_chars_settle, hscan, ← encodePieces_eq_flatMap] at hpieces
  rw [Tangles, not_exists, ← hpieces, decode, encode, String.toList_ofList]
  constructor
  · intro h
    exact (String.toList_ofList).symm.trans (congrArg String.toList h)
  · intro h
    rw [h, String.ofList_toList]

/-- A call with each of the markers comes back from its Python form, so it tangles nothing. -/
theorem not_tangles_call : ¬ Codec.underscored.Tangles "call($$$, $$, $Name)" := by
  have hcodec : (Profile.ofLanguage .python).codec = some .underscored := rfl
  have hback : Codec.underscored.decode (Codec.underscored.encode "call($$$, $$, $Name)") =
      "call($$$, $$, $Name)" := by decide +kernel
  exact (decode_encode_eq_self_iff hcodec "call($$$, $$, $Name)").mp hback

/-- Behind the placeholder of `$` the characters `_x_2_x_a` complete the one of `$$`, which is put
back first. -/
theorem round_trip_lost :
    (Profile.ofLanguage .python).codec = some .underscored ∧
    Codec.underscored.holdsPlaceholder "$_x_2_x_a" = false ∧
    Codec.underscored.encode "$_x_2_x_a" = "a_x_1_x_a_x_2_x_a" ∧
    Codec.underscored.decode "a_x_1_x_a_x_2_x_a" = "a_x_1_x_$$" ∧
    Codec.underscored.decode (Codec.underscored.encode "$_x_2_x_a") ≠ "$_x_2_x_a" := by
  decide +kernel

end Codec

end StructuralSearch
