/-!
# Text on a terminal

Some characters are not shown on a terminal but steer it.  An escape character starts a sequence:
a control sequence behind `[` ends with a letter, a command behind `]` with a bell, and other
strings only when a new sequence starts or is broken off.  `visible` is what is left of a
text when all of this is taken away; white space stays, and breaks off a sequence that is no
string.
-/

namespace StructuralSearch.Text.Terminal

/-- What the characters before one have started. -/
inductive State
  | text
  | escape
  /-- behind the first marks of an escape -/
  | marked
  | control
  | command
  | string
  deriving DecidableEq, Repr

/-- Whether a character is white space that a terminal shows as such. -/
def isSpace (c : Char) : Bool :=
  c = '\t' || c = '\n' || c = '\x0c' || c = '\r'

/-- What a printable ASCII character leads to within a sequence. -/
def next (state : State) (c : Char) : State :=
  match state with
  | .text => .text
  | .escape =>
    if c.toNat < 0x30 then .marked
    else
      match c with
      | '[' => .control
      | ']' => .command
      | 'P' | 'X' | '^' | '_' => .string
      | _ => .text
  | .marked => if c.toNat < 0x30 then .marked else .text
  | .control => if c.toNat < 0x40 then .control else .text
  | .command => .command
  | .string => .string

/-- The state behind a character, and what is shown of it.  A sequence swallows the first byte
of a character of several ones; the others count as unknown characters. -/
def step (state : State) (c : Char) : State × List Char :=
  if 0x80 ≤ c.toNat then
    (.text, if state = .text then [c] else List.replicate (c.utf8Size - 1) '\ufffd')
  else if c = '\x1b' then (.escape, [])
  else if c = '\x18' ∨ c = '\x1a' then (.text, [])
  else if state = .command ∧ c = '\x07' then (.text, [])
  else if isSpace c then
    if state = .command ∨ state = .string then (state, []) else (.text, [c])
  else if c.toNat < 0x20 ∨ c = '\x7f' then (state, [])
  else (next state c, if state = .text then [c] else [])

/-- What is shown of a text behind a state. -/
def visibleFrom (state : State) : List Char → List Char
  | [] => []
  | c :: rest =>
    let (state, shown) := step state c
    shown ++ visibleFrom state rest

/-- What is shown of a text. -/
def visible (text : String) : String :=
  String.ofList (visibleFrom .text text.toList)

/-- A text of printable ASCII characters is shown as it is. -/
theorem visibleFrom_eq_self {text : List Char}
    (plain : ∀ c ∈ text, 0x20 ≤ c.toNat ∧ c.toNat < 0x7f) : visibleFrom .text text = text := by
  induction text with
  | nil => rfl
  | cons c rest ih =>
    have ⟨low, high⟩ := plain c (by simp)
    have different {d : Char} (h : d.toNat < 0x20 ∨ 0x7f ≤ d.toNat) : c ≠ d := by
      rintro rfl
      omega
    have shown : step .text c = (.text, [c]) := by
      have notSpace : isSpace c = false := by
        simp [isSpace, different (d := '\t') (by decide), different (d := '\n') (by decide),
          different (d := '\x0c') (by decide), different (d := '\r') (by decide)]
      simp [step, next, notSpace, different (d := '\x1b') (by decide),
        different (d := '\x18') (by decide), different (d := '\x1a') (by decide),
        different (d := '\x7f') (by decide), Nat.not_le.mpr (Nat.lt_succ_of_lt high),
        Nat.not_lt.mpr low]
    simp [visibleFrom, shown, ih fun d member => plain d (by simp [member])]

end StructuralSearch.Text.Terminal
