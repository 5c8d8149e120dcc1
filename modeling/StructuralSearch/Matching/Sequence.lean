import StructuralSearch.Wildcard.Marker

/-!
# Matching sequences

A query sequence is a list of wanted elements.  A wanted element knows whether it is a wildcard and
decides which file elements it accepts; deciding may fail or count, so all searches here run in any
monad.

* `glob` lets the wanted elements take the file elements in order, one each, while a rest wildcard
  takes any number of them.
* `claim` lets each wanted element claim the first free file element that it accepts.  The most
  specific elements choose first, and a claim is never taken back.
* `shortestWindows` finds, from each start on, the shortest stretch of the file that a test accepts.
-/

namespace StructuralSearch

/-- How specific a wanted element is. -/
structure Strength where
  /-- 0 for fixed elements, 1 for names with a wildcard in them, 2 for whole-node wildcards -/
  level : Nat
  /-- the number of fixed characters -/
  fixed : Nat := 0
  deriving DecidableEq, Repr

/-- Whether an element of strength `a` may choose before one of strength `b`. -/
def Strength.le (a b : Strength) : Bool :=
  a.level < b.level || (a.level == b.level && b.fixed ≤ a.fixed)

/-- An element of a query sequence, wanted among file elements of type `α`. -/
structure Wanted (m : Type → Type) (α : Type) where
  wildcard : Option NodeWildcard
  strength : Strength
  /-- whether the element is content with a file element -/
  accepts : α → m Bool

/-- Whether any number of file elements may stand for the wanted element. -/
def Wanted.isRest {m : Type → Type} {α : Type} (wanted : Wanted m α) : Bool :=
  wanted.wildcard == some .rest

namespace Sequence

variable {m : Type → Type} [Monad m] {α : Type}

/-- Whether a test accepts the list or one of its suffixes, the longest tried first. -/
def someSuffix (test : List α → m Bool) : List α → m Bool
  | [] => test []
  | x :: xs => do
    if ← test (x :: xs) then return true
    else someSuffix test xs

/-- Whether the wanted elements can take the whole file list in order. -/
def globFrom : List (Wanted m α) → List α → m Bool
  | [], file => return file.isEmpty
  | wanted :: query, file =>
    if wanted.isRest then someSuffix (globFrom query) file
    else
      match file with
      | [] => return false
      | x :: xs => do
        if ← wanted.accepts x then globFrom query xs
        else return false

/-- `globFrom`, with lists of different lengths refused at once when no rest wildcard is there. -/
def glob (query : List (Wanted m α)) (file : List α) : m Bool :=
  if !query.any (·.isRest) && file.length != query.length then return false
  else globFrom query file

/-- The first free element that is accepted, and the elements that are left. -/
def takeFirst (accepts : α → m Bool) : List (Nat × α) → m (Option (Nat × List (Nat × α)))
  | [] => return none
  | (index, x) :: free => do
    if ← accepts x then return some (index, free)
    else
      match ← takeFirst accepts free with
      | some (claimed, left) => return some (claimed, (index, x) :: left)
      | none => return none

/-- The claims of the wanted elements, made one after the other: the place of each in the query with
the place of the file element that it claimed. -/
def claimEach : List (Nat × Wanted m α) → List (Nat × α) → m (Option (List (Nat × Nat)))
  | [], _ => return some []
  | (order, wanted) :: pending, free => do
    match ← takeFirst wanted.accepts free with
    | none => return none
    | some (index, left) =>
      match ← claimEach pending left with
      | none => return none
      | some claims => return some ((order, index) :: claims)

/-- The list with the place of each element. -/
def indexed {β : Type} (items : List β) : List (Nat × β) :=
  items.zipIdx.map fun (item, index) => (index, item)

/-- The elements that make a claim, in the order in which they choose. -/
def claimOrder (query : List (Wanted m α)) : List (Nat × Wanted m α) :=
  ((indexed query).filter fun (_, wanted) => !wanted.isRest).mergeSort
    fun a b => a.2.strength.le b.2.strength

/-- Whether each number is smaller than the next one. -/
def increasing : List Nat → Bool
  | a :: b :: rest => a < b && increasing (b :: rest)
  | _ => true

/-- The places of the claimed file elements in the order of the query, if every element finds one
and, where `ordered` is asked for, the places are in order too. -/
def claim (ordered : Bool) (query : List (Wanted m α)) (file : List α) :
    m (Option (List Nat)) := do
  let pending := claimOrder query
  if file.length < pending.length then return none
  else
    match ← claimEach pending (indexed file) with
    | none => return none
    | some claims =>
      let places := (claims.mergeSort fun a b => a.1 ≤ b.1).map (·.2)
      return if ordered && !increasing places then none else some places

/-- The shortest stretch that begins with `taken` and goes on with at least one of the elements that
follow, and that a test accepts. -/
def shortestStretch (test : List α → m Bool) (taken : List α) : List α → m (Option (List α))
  | [] => return none
  | x :: rest => do
    let window := taken ++ [x]
    if ← test window then return some window
    else shortestStretch test window rest

/-- The shortest accepted stretch from each place on at which there is one. -/
def shortestWindows (test : List α → m Bool) : List α → m (List (List α))
  | [] => return []
  | x :: rest => do
    let here ← shortestStretch test [] (x :: rest)
    let later ← shortestWindows test rest
    return here.toList ++ later

end Sequence

end StructuralSearch
