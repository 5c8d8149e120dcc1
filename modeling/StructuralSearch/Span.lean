/-!
# Positions and spans

A position is a one-based line and column with the zero-based byte offset they stand for.  Lines,
columns and offsets are 32-bit quantities: a larger number is written as the largest one.
-/

namespace StructuralSearch

/-- The largest line, column or offset. -/
def positionLimit : Nat := 0xffffffff

/-- A number brought into the range of lines, columns and offsets. -/
def clampPosition (n : Nat) : Nat := min n positionLimit

/-- A place in a source text. -/
structure Position where
  line : Nat
  column : Nat
  offset : Nat
  deriving DecidableEq, Repr

/-- A stretch of source text. -/
structure Span where
  start : Position
  stop : Position
  deriving DecidableEq, Repr

namespace Span

/-- The number of bytes; none when the end lies before the start. -/
def length (span : Span) : Nat :=
  span.stop.offset - span.start.offset

/-- Whether the span holds no byte. -/
def isEmpty (span : Span) : Bool :=
  span.length == 0

/-- The span from the earlier start to the later end.  Of equal offsets the first span's position
is taken. -/
def cover (a b : Span) : Span where
  start := if b.start.offset < a.start.offset then b.start else a.start
  stop := if a.stop.offset < b.stop.offset then b.stop else a.stop

/-- A span covers itself. -/
@[simp] theorem cover_self (span : Span) : span.cover span = span := by
  simp [cover]

/-- The start of a cover is the smaller start. -/
theorem cover_start_offset (a b : Span) :
    (a.cover b).start.offset = min a.start.offset b.start.offset := by
  simp only [cover]
  split <;> omega

/-- The end of a cover is the larger end. -/
theorem cover_stop_offset (a b : Span) :
    (a.cover b).stop.offset = max a.stop.offset b.stop.offset := by
  simp only [cover]
  split <;> omega

end Span

end StructuralSearch
