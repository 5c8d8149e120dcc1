/-!
# Stop flags

A stop flag asks a running search to end.  Copies of a flag share one signal: raising any of them
raises all of them, and a raised signal stays raised.  A switchboard keeps the signals and, for
each handle that was given out, the signal it belongs to.
-/

namespace StructuralSearch

/-- The signals that exist and the flags that were given out. -/
structure Switchboard where
  /-- whether each signal is raised -/
  signals : List Bool := []
  /-- the signal of each flag -/
  flags : List Nat := []
  deriving DecidableEq, Repr

namespace Switchboard

variable (board : Switchboard)

/-- Whether a flag is raised. -/
def isStopped (flag : Nat) : Bool :=
  match board.flags[flag]? with
  | some signal => board.signals[signal]?.getD false
  | none => false

/-- Gives out a flag with a signal of its own. -/
def addFlag : Switchboard :=
  ⟨board.signals ++ [false], board.flags ++ [board.signals.length]⟩

/-- Gives out another flag for the signal of `flag`. -/
def cloneFlag (flag : Nat) : Switchboard :=
  match board.flags[flag]? with
  | some signal => { board with flags := board.flags ++ [signal] }
  | none => board

/-- Raises the signal of a flag. -/
def stop (flag : Nat) : Switchboard :=
  match board.flags[flag]? with
  | some signal => { board with signals := board.signals.set signal true }
  | none => board

/-- The state of every flag. -/
def states : List Bool :=
  (List.range board.flags.length).map board.isStopped

/-- A signal stays raised, whichever flag is stopped. -/
theorem isStopped_stop_of_isStopped {flag other : Nat} (h : board.isStopped flag = true) :
    (board.stop other).isStopped flag = true := by
  simp only [isStopped, stop] at h ⊢
  cases hother : board.flags[other]? with
  | none => simpa using h
  | some raised =>
    cases hflag : board.flags[flag]? with
    | none => simp [hflag] at h
    | some signal =>
      simp only [hflag] at h ⊢
      by_cases same : raised = signal
      · subst same
        have inRange : raised < board.signals.length := by
          refine Nat.lt_of_not_le fun outside => ?_
          simp [List.getElem?_eq_none outside] at h
        simp [List.getElem?_set_self inRange]
      · simpa [List.getElem?_set_ne same] using h

end Switchboard

end StructuralSearch
