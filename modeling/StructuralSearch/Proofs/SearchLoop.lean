import Mathlib.Data.List.Infix
import StructuralSearch.Search.Run

/-!
# How far a search goes

A search goes through its files in order and adds up what each of them gives: its matches, or an
error.  What a file gives depends on the file alone, so the outcome of the loop over the files is
known once it is known where the loop ends.

The key local fact is a step: behind one more file, the record of the results and the state of the
observer are again those behind a list of files (`record_resultsIn`, `observe_stateBehind`).  From
it `loop_eq` follows by induction on the files that are left.

* `run_eq_search_take`: limits, debug mode and an observer only cut a search short.  Its results are
  those of a plain search over the files in front of the first reason to end, and a limit keeps the
  first matches of the search without the limit;
* `search_plain`: a plain search goes through all files.
-/

namespace StructuralSearch

/-- The same settings without a limit and without debug mode. -/
def Settings.plain (settings : Settings) : Settings :=
  { settings with debug := false, maxResults := none }

/-- Settings without a limit and without debug mode are plain. -/
theorem Settings.plain_eq_self (settings : Settings) (hlimit : settings.maxResults = none)
    (hdebug : settings.debug = false) : settings.plain = settings := by
  rw [plain, ← hlimit, ← hdebug]

namespace Engine

/-- A search that compares trees is ready exactly if all queries compile. -/
theorem prepare_of_isStructural {settings : Settings} {grammar : Grammar} {texts : List String}
    (hmode : settings.mode.isStructural = true) :
    prepare settings grammar texts =
      if (Query.compileAll grammar texts).isOk then
        .ok (.structural grammar (Query.compileAll grammar texts).queries)
      else .error (.ofErrors (Query.compileAll grammar texts).errors
        (Query.compileAll grammar texts).hints) := by
  unfold prepare
  rw [if_pos hmode]

variable (engine : Engine) (settings : Settings)

/-- The unique matches of a file; there are none if the file cannot be searched. -/
def uniqueIn (file : SourceFile) : List Match :=
  (engine.searchFile settings file).toOption.getD []

/-- The error record of a file; there is none if the file can be searched. -/
def errorsIn (file : SourceFile) : List ErrorRecord :=
  match engine.searchFile settings file with
  | .ok _ => []
  | .error error => [.file file.path error.message]

/-- The results of a search that went through these files. -/
def resultsIn (files : List SourceFile) : Results where
  found := files.flatMap (engine.uniqueIn settings)
  errors := files.flatMap (engine.errorsIn settings)
  hints := engine.hints

/-- The matches of a single file. -/
theorem found_resultsIn_singleton (file : SourceFile) :
    (engine.resultsIn settings [file]).found = engine.uniqueIn settings file :=
  List.append_nil _

/-- The errors of a single file. -/
theorem errors_resultsIn_singleton (file : SourceFile) :
    (engine.resultsIn settings [file]).errors = engine.errorsIn settings file :=
  List.append_nil _

end Engine

namespace Search

/-! ### The files that are consumed -/

/-- A search that ends behind certain lists of files consumes the first `count` of its files: it
goes on up to the first list behind which it ends, or through all files. -/
structure Consumes (Ends : List SourceFile → Prop) (files : List SourceFile) (count : Nat) :
    Prop where
  le_length : count ≤ files.length
  goes_on : ∀ fewer < count, ¬ Ends (files.take fewer)
  ends : count = files.length ∨ Ends (files.take count)

namespace Consumes

variable {Ends Sooner : List SourceFile → Prop} {files : List SourceFile} {count fewer : Nat}

/-- Nothing is consumed if the search ends at once. -/
theorem zero (h : Ends []) : Consumes Ends files 0 where
  le_length := Nat.zero_le _
  goes_on _ hlt := absurd hlt (Nat.not_lt_zero _)
  ends := Or.inr h

/-- If the search does not end at once, the first file is consumed. -/
theorem cons {file : SourceFile} (hgoes : ¬ Ends [])
    (h : Consumes (fun taken => Ends (file :: taken)) files count) :
    Consumes Ends (file :: files) (count + 1) where
  le_length := Nat.succ_le_succ h.le_length
  goes_on fewer hlt := by
    cases fewer with
    | zero => exact hgoes
    | succ fewer => exact h.goes_on fewer (Nat.lt_of_succ_lt_succ hlt)
  ends := h.ends.imp_left (congrArg Nat.succ)

/-- There is always a first end. -/
theorem exists_count (Ends : List SourceFile → Prop) (files : List SourceFile) :
    ∃ count, Consumes Ends files count := by
  induction files generalizing Ends with
  | nil => exact ⟨0, Nat.le_refl 0, fun _ hlt => absurd hlt (Nat.not_lt_zero _), Or.inl rfl⟩
  | cons file files ih =>
      by_cases hends : Ends []
      · exact ⟨0, zero hends⟩
      · obtain ⟨count, hcount⟩ := ih fun taken => Ends (file :: taken)
        exact ⟨count + 1, hcount.cons hends⟩

/-- A search that never ends consumes all files. -/
theorem eq_length (h : Consumes Ends files count) (hnever : ∀ done, ¬ Ends done) :
    count = files.length :=
  h.ends.resolve_right (hnever _)

/-- With more reasons to end no more files are consumed. -/
theorem le_of_imp (hsooner : Consumes Sooner files fewer) (h : Consumes Ends files count)
    (himp : ∀ done, Ends (files.take done) → Sooner (files.take done)) : fewer ≤ count := by
  by_contra hlt
  rcases h.ends with hall | hends
  · have hbound := hsooner.le_length
    omega
  · exact hsooner.goes_on count (by omega) (himp _ hends)

end Consumes

variable {σ : Type}

/-- What an observer is told behind some files: the matches of each file that has some, file by
file. `plain` gives the results of a plain search. -/
def batchesIn (plain : List SourceFile → Results) (done : List SourceFile) : List (List Match) :=
  (done.map fun file => (plain [file]).found).filter (!·.isEmpty)

/-- The state of an observer behind some files. -/
def stateBehind (observer : Observer σ) (plain : List SourceFile → Results) (state : σ)
    (done : List SourceFile) : σ :=
  (batchesIn plain done).foldl observer.notify state

/-- There is a reason to end a search behind the files `done`.  `plain` gives the results of a plain
search. -/
inductive EndsBehind (observer : Observer σ) (settings : Settings)
    (plain : List SourceFile → Results) (state : σ) (done : List SourceFile) : Prop
  /-- the observer asks for it -/
  | stopped (hstopped : observer.isStopped (stateBehind observer plain state done) = true)
  /-- more was found than is asked for -/
  | exceeded (limit : Nat) (hlimit : settings.maxResults = some limit)
      (hmore : limit < (plain done).found.length)
  /-- in debug mode, the last file had matches or an error -/
  | debugged (before : List SourceFile) (last : SourceFile) (hdebug : settings.debug = true)
      (hlast : done = before ++ [last])
      (hnews : (plain [last]).found ≠ [] ∨ (plain [last]).errors ≠ [])

/-! ### One file -/

section Step

variable (observer : Observer σ) (settings : Settings) (engine : Engine) (state : σ)
  (done : List SourceFile) (file : SourceFile)

/-- **One more file.**  The results behind a file are those in front of it with what it gives. -/
theorem record_resultsIn :
    record (engine.resultsIn settings done) file.path (engine.searchFile settings file) =
      engine.resultsIn settings (done ++ [file]) := by
  cases houtcome : engine.searchFile settings file with
  | ok unique =>
      simp [record, Engine.resultsIn, Engine.uniqueIn, Engine.errorsIn, houtcome, Except.toOption]
  | error error =>
      simp [record, Engine.resultsIn, Engine.uniqueIn, Engine.errorsIn, houtcome, Except.toOption]

/-- Behind one more file the observer was told about its matches. -/
theorem observe_stateBehind :
    observe observer (stateBehind observer (engine.resultsIn settings) state done)
        (engine.searchFile settings file) =
      stateBehind observer (engine.resultsIn settings) state (done ++ [file]) := by
  have hbatches : batchesIn (engine.resultsIn settings) (done ++ [file]) =
      batchesIn (engine.resultsIn settings) done ++
        [engine.uniqueIn settings file].filter (!·.isEmpty) := by
    rw [batchesIn, List.map_append, List.filter_append, List.map_singleton,
      Engine.found_resultsIn_singleton]
    rfl
  rw [stateBehind, stateBehind, hbatches, List.foldl_append]
  cases houtcome : engine.searchFile settings file with
  | ok unique =>
      cases unique with
      | nil => simp [observe, announce, Engine.uniqueIn, houtcome, Except.toOption]
      | cons found unique => simp [observe, announce, Engine.uniqueIn, houtcome, Except.toOption]
  | error error => simp [observe, Engine.uniqueIn, houtcome, Except.toOption]

/-- Debug mode ends a search behind a file exactly if the file had matches or an error. -/
theorem endsDebug_iff :
    endsDebug settings (engine.searchFile settings file) = true ↔
      settings.debug = true ∧ (engine.uniqueIn settings file ≠ [] ∨
        engine.errorsIn settings file ≠ []) := by
  cases houtcome : engine.searchFile settings file with
  | ok unique => simp [endsDebug, Engine.uniqueIn, Engine.errorsIn, houtcome, Except.toOption]
  | error error => simp [endsDebug, Engine.errorsIn, houtcome]

/-- The reasons to end a search as its loop asks for them: two of them in front of the next file,
and the third one behind the last file. -/
theorem endsBehind_iff :
    EndsBehind observer settings (engine.resultsIn settings) state done ↔
      (observer.isStopped (stateBehind observer (engine.resultsIn settings) state done) ||
        limitExceeded settings (engine.resultsIn settings done)) = true ∨
      ∃ before last, done = before ++ [last] ∧
        endsDebug settings (engine.searchFile settings last) = true := by
  constructor
  · rintro (hstopped | ⟨limit, hlimit, hmore⟩ | ⟨before, last, hdebug, hlast, hnews⟩)
    · exact Or.inl (by simp [hstopped])
    · exact Or.inl (by simp [limitExceeded, hlimit, hmore])
    · rw [Engine.found_resultsIn_singleton, Engine.errors_resultsIn_singleton] at hnews
      exact Or.inr ⟨before, last, hlast, (endsDebug_iff settings engine last).mpr ⟨hdebug, hnews⟩⟩
  · rintro (hfront | ⟨before, last, hlast, hends⟩)
    · rcases (Bool.or_eq_true _ _).mp hfront with hstopped | hexceeded
      · exact .stopped hstopped
      · obtain ⟨limit, hlimit, hmore⟩ := (Option.any_eq_true _ _).mp hexceeded
        exact .exceeded limit hlimit (of_decide_eq_true hmore)
    · obtain ⟨hdebug, hnews⟩ := (endsDebug_iff settings engine last).mp hends
      refine .debugged before last hdebug hlast ?_
      rwa [Engine.found_resultsIn_singleton, Engine.errors_resultsIn_singleton]

end Step

/-! ### All files -/

/-- A loop in front of a file: it ends there, or goes through the file, behind which debug mode may
end it. -/
theorem loop_cons (observer : Observer σ) (settings : Settings) (engine : Engine) (state : σ)
    (done : List SourceFile) (file : SourceFile) (files : List SourceFile) :
    loop observer settings engine (engine.resultsIn settings done)
        (stateBehind observer (engine.resultsIn settings) state done) (file :: files) =
      if observer.isStopped (stateBehind observer (engine.resultsIn settings) state done) ||
          limitExceeded settings (engine.resultsIn settings done) then
        (engine.resultsIn settings done,
          stateBehind observer (engine.resultsIn settings) state done)
      else if endsDebug settings (engine.searchFile settings file) then
        (engine.resultsIn settings (done ++ [file]),
          stateBehind observer (engine.resultsIn settings) state (done ++ [file]))
      else
        loop observer settings engine (engine.resultsIn settings (done ++ [file]))
          (stateBehind observer (engine.resultsIn settings) state (done ++ [file])) files := by
  rw [loop]
  dsimp only
  rw [record_resultsIn, observe_stateBehind]

/-- **The loop.**  A loop that debug mode did not end so far consumes its files up to the first
reason to end.  The induction is on the files that are left; `done` are those that it went through.
-/
theorem loop_eq (observer : Observer σ) (settings : Settings) (engine : Engine) (state : σ)
    (done files : List SourceFile)
    (hgoes : ∀ before last, done = before ++ [last] →
      endsDebug settings (engine.searchFile settings last) = false) :
    ∃ count,
      Consumes (fun taken =>
        EndsBehind observer settings (engine.resultsIn settings) state (done ++ taken))
        files count ∧
      loop observer settings engine (engine.resultsIn settings done)
          (stateBehind observer (engine.resultsIn settings) state done) files =
        (engine.resultsIn settings (done ++ files.take count),
          stateBehind observer (engine.resultsIn settings) state (done ++ files.take count)) := by
  induction files generalizing done with
  | nil =>
      obtain ⟨count, hcount⟩ := Consumes.exists_count (fun taken =>
        EndsBehind observer settings (engine.resultsIn settings) state (done ++ taken)) []
      exact ⟨count, hcount, by simp [loop]⟩
  | cons file files ih =>
      have hhere := endsBehind_iff observer settings engine state (done ++ [])
      have hnext := endsBehind_iff observer settings engine state (done ++ [file])
      rw [List.append_nil] at hhere
      rw [loop_cons]
      split
      · rename_i hfront
        refine ⟨0, .zero ?_, by simp⟩
        rw [List.append_nil]
        exact hhere.mpr (Or.inl hfront)
      · rename_i hfront
        have hstays : ¬ EndsBehind observer settings (engine.resultsIn settings) state
            (done ++ []) := by
          rw [List.append_nil, hhere]
          rintro (hends | ⟨before, last, hlast, hends⟩)
          · exact hfront hends
          · rw [hgoes before last hlast] at hends
            exact Bool.false_ne_true hends
        split
        · rename_i hdebug
          refine ⟨1, .cons hstays (.zero ?_), by simp⟩
          exact hnext.mpr (Or.inr ⟨done, file, rfl, hdebug⟩)
        · rename_i hdebug
          obtain ⟨count, hcount, hloop⟩ := ih (done ++ [file]) fun before last hlast => by
            obtain ⟨-, hsame⟩ := List.append_inj' hlast rfl
            obtain rfl := List.singleton_inj.mp hsame
            exact eq_false_of_ne_true hdebug
          simp only [List.append_assoc, List.singleton_append] at hcount hloop
          exact ⟨count + 1, .cons hstays hcount, by rw [hloop, List.take_succ_cons]⟩

/-! ### Whole searches -/

section Run

variable (observer : Observer σ) (settings : Settings) (grammar : Grammar) (state : σ)
  (files : List SourceFile) (texts : List String)

/-- A search with queries that fail reports their errors and nothing else. -/
theorem run_of_error {failed : Results}
    (hfailed : Engine.prepare settings grammar texts = .error failed) :
    run observer settings grammar state files texts = (failed, state) := by
  rw [run, hfailed]

/-- Where no file has matches, an observer is told nothing. -/
theorem batchesIn_of_silent {plain : List SourceFile → Results}
    (h : ∀ file, (plain [file]).found = []) (done : List SourceFile) :
    batchesIn plain done = [] := by
  refine List.filter_eq_nil_iff.mpr fun batch hbatch => ?_
  obtain ⟨file, -, rfl⟩ := List.mem_map.mp hbatch
  simp [h file]

/-- Where queries fail, nothing is found. -/
theorem found_of_prepare_error {failed : Results}
    (hfailed : Engine.prepare settings grammar texts = .error failed) : failed.found = [] := by
  unfold Engine.prepare at hfailed
  split at hfailed
  · dsimp only at hfailed
    split at hfailed
    · cases hfailed
    · obtain rfl := Except.error.inj hfailed
      rfl
  · split at hfailed
    · cases hfailed
    · obtain rfl := Except.error.inj hfailed
      rfl

/-- Nothing is cut where nothing was found. -/
theorem truncate_of_nil {results : Results} (hnone : results.found = []) :
    truncate settings results = results := by
  obtain ⟨found, errors, hints⟩ := results
  obtain rfl : found = [] := hnone
  unfold truncate
  split <;> simp

/-- A search consumes its files up to the first reason to end. -/
theorem run_of_ok {engine : Engine} (hengine : Engine.prepare settings grammar texts = .ok engine) :
    ∃ count,
      Consumes (EndsBehind observer settings (engine.resultsIn settings) state) files count ∧
      run observer settings grammar state files texts =
        (truncate settings (engine.resultsIn settings (files.take count)),
          stateBehind observer (engine.resultsIn settings) state (files.take count)) := by
  obtain ⟨count, hcount, hloop⟩ := loop_eq observer settings engine state [] files (by simp)
  simp only [List.nil_append] at hcount hloop
  have hrun : run observer settings grammar state files texts =
      (truncate settings (loop observer settings engine (engine.resultsIn settings [])
          (stateBehind observer (engine.resultsIn settings) state []) files).1,
        (loop observer settings engine (engine.resultsIn settings [])
          (stateBehind observer (engine.resultsIn settings) state []) files).2) := by
    rw [run, hengine]
    rfl
  exact ⟨count, hcount, by rw [hrun, hloop]⟩

/-- Without a limit, debug mode and an observer that asks for it, nothing ends a search. -/
theorem not_endsBehind_of_quiet {plain : List SourceFile → Results}
    (hlimit : settings.maxResults = none) (hdebug : settings.debug = false)
    (hquiet : ∀ done, observer.isStopped (stateBehind observer plain state done) = false)
    (done : List SourceFile) : ¬ EndsBehind observer settings plain state done := by
  rintro (hstopped | ⟨limit, hsome, -⟩ | ⟨before, last, htrue, -, -⟩)
  · rw [hquiet done] at hstopped
    exact Bool.false_ne_true hstopped
  · rw [hlimit] at hsome
    cases hsome
  · rw [hdebug] at htrue
    exact Bool.false_ne_true htrue

/-- **A plain search goes through all files.** -/
theorem search_plain {engine : Engine}
    (hengine : Engine.prepare settings grammar texts = .ok engine) :
    search settings.plain grammar files texts = engine.resultsIn settings files := by
  have hplain : Engine.prepare settings.plain grammar texts = .ok engine := hengine
  obtain ⟨count, hcount, hrun⟩ :=
    run_of_ok Observer.none settings.plain grammar () files texts hplain
  have hall : count = files.length :=
    hcount.eq_length (not_endsBehind_of_quiet _ _ _ rfl rfl fun _ => rfl)
  rw [search, hrun, hall, List.take_length]
  cases engine <;> rfl

end Run

section Limits

variable {observer : Observer σ} {settings : Settings} {grammar : Grammar} {state : σ}
  {files : List SourceFile} {texts : List String} {engine : Engine}

/-- A limit is one more reason to end a search. -/
theorem EndsBehind.within {plain : List SourceFile → Results} {done : List SourceFile}
    (maxResults : Option Nat)
    (h : EndsBehind observer { settings with maxResults := none } plain state done) :
    EndsBehind observer { settings with maxResults } plain state done := by
  rcases h with hstopped | ⟨limit, hlimit, -⟩ | ⟨before, last, hdebug, hlast, hnews⟩
  · exact .stopped hstopped
  · cases hlimit
  · exact .debugged before last hdebug hlast hnews

/-- A limit ends a search only where more was found than it asks for. -/
theorem EndsBehind.exceeded_or_without {plain : List SourceFile → Results}
    {done : List SourceFile} {limit : Nat}
    (h : EndsBehind observer { settings with maxResults := some limit } plain state done) :
    limit < (plain done).found.length ∨
      EndsBehind observer { settings with maxResults := none } plain state done := by
  rcases h with hstopped | ⟨other, hother, hmore⟩ | ⟨before, last, hdebug, hlast, hnews⟩
  · exact Or.inr (.stopped hstopped)
  · obtain rfl := Option.some.inj hother
    exact Or.inl hmore
  · exact Or.inr (.debugged before last hdebug hlast hnews)

/-- **A limit keeps the first matches.**  A search with a limit consumes no more files than the
search without it, and only fewer where it has found enough. -/
theorem run_within_limit (hengine : Engine.prepare settings grammar texts = .ok engine)
    (limit : Nat) :
    let within := fun maxResults =>
      (run observer { settings with maxResults } grammar state files texts).1
    (within (some limit)).found = (within none).found.take limit ∧
      (within (some limit)).errors <+: (within none).errors := by
  intro within
  have hsame : ∀ maxResults, engine.resultsIn { settings with maxResults } =
      engine.resultsIn settings := by
    intro maxResults
    cases engine <;> rfl
  obtain ⟨fewer, hfewer, hlimited⟩ := run_of_ok observer { settings with maxResults := some limit }
    grammar state files texts hengine
  obtain ⟨count, hcount, hwhole⟩ := run_of_ok observer { settings with maxResults := none }
    grammar state files texts hengine
  rw [hsame] at hfewer hlimited hcount hwhole
  have hle : fewer ≤ count := hfewer.le_of_imp hcount fun _ => EndsBehind.within (some limit)
  have hprefix : files.take fewer <+: files.take count := List.take_prefix_take_left hle
  obtain ⟨more, hmore⟩ : (engine.resultsIn settings (files.take fewer)).found <+:
      (engine.resultsIn settings (files.take count)).found := hprefix.flatMap _
  have hfirst : (engine.resultsIn settings (files.take fewer)).found.take limit =
      (engine.resultsIn settings (files.take count)).found.take limit := by
    rcases Nat.eq_or_lt_of_le hle with rfl | hlt
    · rfl
    · have hbound := hcount.le_length
      have hends : EndsBehind observer { settings with maxResults := some limit }
          (engine.resultsIn settings) state (files.take fewer) :=
        hfewer.ends.resolve_left (by omega)
      have henough := hends.exceeded_or_without.resolve_right (hcount.goes_on fewer hlt)
      rw [← hmore, List.take_append_of_le_length (Nat.le_of_lt henough)]
  have hfound : within (some limit) = truncate { settings with maxResults := some limit }
      (engine.resultsIn settings (files.take fewer)) := congrArg Prod.fst hlimited
  have hall : within none = truncate { settings with maxResults := none }
      (engine.resultsIn settings (files.take count)) := congrArg Prod.fst hwhole
  rw [hfound, hall]
  exact ⟨hfirst, hprefix.flatMap (engine.errorsIn settings)⟩

end Limits

/-- **A search is only cut short.**  Its results are those of a plain search over the files in front
of the first reason to end, with the matches cut by the limit: the observer asks for it, more was
found than the limit allows, or in debug mode the last file had matches or an error.  So a limit
keeps the first matches of the search without the limit, and its errors are the first ones. -/
theorem run_eq_search_take (observer : Observer σ) (settings : Settings) (grammar : Grammar)
    (state : σ) (files : List SourceFile) (texts : List String) :
    let plain := fun files => search settings.plain grammar files texts
    let within := fun maxResults =>
      (run observer { settings with maxResults } grammar state files texts).1
    (∃ count,
      Consumes (EndsBehind observer settings plain state) files count ∧
      run observer settings grammar state files texts =
        (truncate settings (plain (files.take count)),
          stateBehind observer plain state (files.take count))) ∧
    ∀ limit, (within (some limit)).found = (within none).found.take limit ∧
      (within (some limit)).errors <+: (within none).errors := by
  intro plain within
  cases hprepare : Engine.prepare settings grammar texts with
  | ok engine =>
      have hplain : plain = engine.resultsIn settings :=
        funext fun files => search_plain settings grammar files texts hprepare
      rw [hplain]
      exact ⟨run_of_ok observer settings grammar state files texts hprepare,
        run_within_limit hprepare⟩
  | error failed =>
      have hnone := found_of_prepare_error settings grammar texts hprepare
      have hplain : plain = fun _ => failed := by
        funext files
        exact congrArg Prod.fst
          (run_of_error Observer.none settings.plain grammar () files texts hprepare)
      have hwithin : within = fun _ => failed := by
        funext maxResults
        exact congrArg Prod.fst
          (run_of_error observer { settings with maxResults } grammar state files texts hprepare)
      constructor
      · obtain ⟨count, hcount⟩ := Consumes.exists_count
          (EndsBehind observer settings plain state) files
        refine ⟨count, hcount, ?_⟩
        have hsilent : ∀ file, (plain [file]).found = [] := by
          intro file
          rw [hplain, hnone]
        rw [stateBehind, batchesIn_of_silent hsilent, hplain, truncate_of_nil settings hnone]
        exact run_of_error observer settings grammar state files texts hprepare
      · intro limit
        rw [hwithin]
        exact ⟨by simp [hnone], List.prefix_refl _⟩

end Search

end StructuralSearch
