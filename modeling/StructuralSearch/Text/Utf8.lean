/-!
# Byte offsets

Positions count UTF-8 bytes.  `sliceBytes?` cuts a text at two byte offsets and refuses when one
of them lies inside a character, behind the end, or when they are in the wrong order.
-/

namespace StructuralSearch.Text

/-- The number of bytes that UTF-8 needs for a text. -/
def byteLength : List Char → Nat
  | [] => 0
  | c :: text => c.utf8Size + byteLength text

/-- Cuts a text at a byte offset, if that is a boundary between characters. -/
def splitAtByte? : Nat → List Char → Option (List Char × List Char)
  | 0, text => some ([], text)
  | _ + 1, [] => none
  | offset, c :: text =>
    if c.utf8Size ≤ offset then
      (splitAtByte? (offset - c.utf8Size) text).map fun (front, back) => (c :: front, back)
    else none

/-- The part of a text between two byte offsets. -/
def sliceBytes? (start stop : Nat) (text : List Char) : Option (List Char) :=
  if start ≤ stop then do
    let (_, back) ← splitAtByte? start text
    let (inner, _) ← splitAtByte? (stop - start) back
    return inner
  else none

/-- The part of a text between two byte offsets, empty where they do not fit the text. -/
def sliceBytes (start stop : Nat) (text : String) : String :=
  String.ofList ((sliceBytes? start stop text.toList).getD [])

/-- **Nothing is lost.**  The two parts of a cut text are the text, and the first one has the asked
number of bytes. -/
theorem splitAtByte?_eq_some {offset : Nat} {text front back : List Char}
    (h : splitAtByte? offset text = some (front, back)) :
    text = front ++ back ∧ byteLength front = offset := by
  induction text generalizing offset front back with
  | nil =>
    cases offset with
    | zero => simp_all [splitAtByte?, byteLength]
    | succ => simp [splitAtByte?] at h
  | cons c text ih =>
    cases offset with
    | zero => simp_all [splitAtByte?, byteLength]
    | succ offset =>
      simp only [splitAtByte?] at h
      split at h
      · rename_i fits
        obtain ⟨⟨front', back'⟩, cut, joined⟩ := Option.map_eq_some_iff.mp h
        obtain ⟨rfl, rfl⟩ := Prod.mk.inj joined
        obtain ⟨rfl, size⟩ := ih cut
        simp only [List.cons_append, byteLength, size, true_and]
        omega
      · simp at h

end StructuralSearch.Text
