import Mathlib.Data.List.Basic
import StructuralSearch.Proofs.Deduplication
import StructuralSearch.Search.TextPattern

/-!
# Matches of text patterns

What a compiled expression finds are stretches of the text.  The bytes in front of two stretches tell
which one begins first, and the bytes of a stretch tell where it ends (`Text.eq_of_byteLength_eq`).  So
in a text whose offsets are 32-bit quantities the range of a match says everything about it, whichever
expression found it: `TextSearch.toldByRange_find`.  Nothing of this depends on what the library of
regular expressions does.
-/

namespace StructuralSearch

open Text

theorem Text.byteLength_append (a b : List Char) :
    byteLength (a ++ b) = byteLength a + byteLength b := by
  induction a with
  | nil => simp [byteLength]
  | cons c a ih => simp only [List.cons_append, byteLength, ih, Nat.add_assoc]

/-- The beginning of a text is told by its number of bytes. -/
theorem Text.eq_of_byteLength_eq {a b back back' : List Char} (h : a ++ back = b ++ back')
    (hlength : byteLength a = byteLength b) : a = b ∧ back = back' := by
  induction a generalizing b with
  | nil =>
      cases b with
      | nil => exact ⟨rfl, h⟩
      | cons c b =>
          have hpos := Char.utf8Size_pos c
          simp only [byteLength] at hlength
          omega
  | cons c a ih =>
      cases b with
      | nil =>
          have hpos := Char.utf8Size_pos c
          simp only [byteLength] at hlength
          omega
      | cons d b =>
          obtain ⟨rfl, hbehind⟩ := List.cons.inj h
          simp only [byteLength] at hlength
          obtain ⟨rfl, hback⟩ := ih hbehind (by omega)
          exact ⟨rfl, hback⟩

/-- A longer beginning of a text has more bytes. -/
theorem Text.byteLength_lt_of_isPrefix {front text : List Char} (h : front <+: text)
    (hlength : front.length < text.length) : byteLength front < byteLength text := by
  obtain ⟨more, rfl⟩ := h
  cases more with
  | nil => simp at hlength
  | cons c more =>
      have hpos := Char.utf8Size_pos c
      rw [byteLength_append, byteLength]
      omega

/-- Of two beginnings of a text the one with no more characters has no more bytes. -/
theorem Text.byteLength_le_of_isPrefix {front other text : List Char} (h : front <+: text)
    (hother : other <+: text) (hlength : front.length ≤ other.length) :
    byteLength front ≤ byteLength other := by
  obtain ⟨more, rfl⟩ := List.prefix_of_prefix_length_le h hother hlength
  rw [byteLength_append]
  exact Nat.le_add_right _ _

namespace Stretch

variable {text : List Char}

/-- A stretch ends within its text. -/
theorem offset_add_le (stretch : Stretch text) :
    stretch.offset + byteLength stretch.code ≤ byteLength text := by
  have hbytes := congrArg byteLength stretch.spelled
  rw [byteLength_append, byteLength_append] at hbytes
  rw [offset]
  omega

/-- Stretches of a text are told by where they begin and where they end. -/
theorem eq_of_offset_eq {stretch other : Stretch text} (hstart : stretch.offset = other.offset)
    (hstop : stretch.offset + byteLength stretch.code = other.offset + byteLength other.code) :
    stretch = other := by
  obtain ⟨front, code, back, hspelled⟩ := stretch
  obtain ⟨front', code', back', hspelled'⟩ := other
  simp only [offset] at hstart hstop
  obtain ⟨rfl, hbehind⟩ := eq_of_byteLength_eq (hspelled.trans hspelled'.symm) hstart
  obtain ⟨rfl, rfl⟩ := eq_of_byteLength_eq hbehind (by omega)
  rfl

end Stretch

namespace TextSearch

/-- The match for a stretch of a source text that begins at a byte offset. -/
def matchAt (path source : String) (stretch : Nat × List Char) : Match :=
  .ofSpan path ⟨positionAt (lineStarts source.toList) stretch.1,
    positionAt (lineStarts source.toList) (stretch.1 + byteLength stretch.2)⟩
    (String.ofList stretch.2)

/-- The matches of a search in text mode are what its expressions find, if it is not empty. -/
theorem mem_find_iff {search : TextSearch} {path source : String} {found : Match} :
    found ∈ search.find path source ↔ ∃ pattern ∈ search.patterns,
      ∃ stretch ∈ pattern.find source.toList, stretch.code ≠ [] ∧
        found = matchAt path source (stretch.offset, stretch.code) := by
  have hne : ∀ code : List Char, (!code.isEmpty) = true ↔ code ≠ [] := by simp
  simp only [find, List.mem_flatMap, List.mem_map, List.mem_filter, hne, and_assoc,
    @eq_comm _ found, matchAt]

/-- **Ranges tell matches.**  In a text whose offsets are 32-bit quantities the matches of all
expressions are told by their ranges. -/
theorem toldByRange_find {search : TextSearch} {path source : String}
    (hfits : byteLength source.toList ≤ positionLimit) :
    ToldByRange (search.find path source) := by
  intro a ha b hb hrange
  obtain ⟨pattern, -, stretch, -, -, rfl⟩ := mem_find_iff.mp ha
  obtain ⟨other, -, stretch', -, -, rfl⟩ := mem_find_iff.mp hb
  obtain ⟨hstart, hstop⟩ := Prod.mk.inj hrange
  have hends := stretch.offset_add_le
  have hends' := stretch'.offset_add_le
  simp only [matchAt, Match.ofSpan, positionAt, clampPosition] at hstart hstop
  have hfrom : stretch.offset = stretch'.offset := by omega
  obtain rfl := Stretch.eq_of_offset_eq hfrom (by omega)
  rfl

end TextSearch

end StructuralSearch
