import Mathlib.Data.List.Chain
import Mathlib.Data.List.Dedup
import StructuralSearch.CommandLine.Run
import StructuralSearch.Proofs.FileReports

/-!
# The counts in a report

A report for human readers ends with the number of its matches and the number of their files.  The
files are counted by the runs of matches with one path, so a file whose matches come in two runs is
counted twice.  How often that happens is `Report.returns`.

The count is right exactly if no path comes back behind another one (`Report.Grouped`).  A search
keeps its files in their order and puts the matches of a file next to each other, so it is enough that
the files to search do not come back (`Report.grouped_search`).  But a file that is named, and then
named again behind another file, is searched again and counted again (`file_counted_again`).
-/

namespace StructuralSearch.CommandLine

namespace Report

/-! ### Runs of equal elements -/

section

variable {α : Type} [DecidableEq α]

/-- How often a list comes back to an element that it had left. -/
def returns : List α → Nat
  | [] => 0
  | [_] => 0
  | a :: b :: rest => (if a ≠ b ∧ a ∈ rest then 1 else 0) + returns (b :: rest)

/-- **Runs are the distinct elements and the returns.** -/
theorem length_dropAdjacent (list : List α) :
    (dropAdjacent list).length = list.dedup.length + returns list := by
  induction list using dropAdjacent.induct with
  | case1 => rfl
  | case2 a => rfl
  | case3 a rest ih =>
      rw [dropAdjacent, if_pos rfl, ih, List.dedup_cons_of_mem List.mem_cons_self, returns,
        if_neg fun h => h.1 rfl, Nat.zero_add]
  | case4 a b rest hne ih =>
      rw [dropAdjacent, if_neg hne, List.length_cons, ih, returns]
      by_cases hback : a ∈ rest
      · rw [List.dedup_cons_of_mem (List.mem_cons_of_mem b hback), if_pos ⟨hne, hback⟩]
        omega
      · have hnew : a ∉ b :: rest := by
          rintro (- | ⟨-, hmem⟩)
          · exact hne rfl
          · exact hback hmem
        rw [List.dedup_cons_of_notMem hnew, List.length_cons, if_neg fun h => hback h.2]
        omega

end

/-- Whether equal elements stand next to each other: nothing comes back behind something else. -/
def Grouped {α : Type} (list : List α) : Prop :=
  ∀ a b, [a, b, a].Sublist list → b = a

namespace Grouped

variable {α β : Type}

/-- A part of a list is grouped if the list is. -/
theorem sublist {list part : List α} (h : Grouped list) (hpart : part.Sublist list) :
    Grouped part :=
  fun a b hback => h a b (hback.trans hpart)

/-- A list without repetitions is grouped. -/
theorem of_nodup {list : List α} (h : list.Nodup) : Grouped list := by
  intro a b hback
  have hnodup : [a, b, a].Nodup := h.sublist hback
  simp at hnodup

/-- What is taken from blocks without equal neighbours is taken from the blocks' labels. -/
theorem sublist_labels {blocks : List β} {contents : β → List α} {label : β → α}
    (hlabel : ∀ block, ∀ a ∈ contents block, a = label block) {part : List α}
    (hchain : part.IsChain (· ≠ ·)) (hpart : part.Sublist (blocks.flatMap contents)) :
    part.Sublist (blocks.map label) := by
  induction blocks generalizing part with
  | nil => exact hpart
  | cons block blocks ih =>
      obtain ⟨front, back, rfl, hfront, hback⟩ := List.sublist_append_iff.mp hpart
      have hequal : ∀ a ∈ front, a = label block :=
        fun a ha => hlabel block a (hfront.subset ha)
      have hrest := ih (List.IsChain.right_of_append hchain) hback
      have hfirst : front.Sublist [label block] := by
        match front, List.IsChain.left_of_append hchain, hequal with
        | [], _, _ => exact List.nil_sublist _
        | [a], _, hequal => rw [hequal a List.mem_cons_self]
        | a :: b :: _, hchain, hequal =>
            have hne := (List.isChain_cons_cons.mp hchain).1
            rw [hequal a (by simp), hequal b (by simp)] at hne
            exact absurd rfl hne
      exact hfirst.append hrest

/-- Blocks of equal elements are grouped if their labels are. -/
theorem flatMap {blocks : List β} {contents : β → List α} {label : β → α}
    (h : Grouped (blocks.map label)) (hlabel : ∀ block, ∀ a ∈ contents block, a = label block) :
    Grouped (blocks.flatMap contents) := by
  intro a b hback
  by_contra hne
  have hchain : [a, b, a].IsChain (· ≠ ·) := by simp [hne, Ne.symm hne]
  exact hne (h a b (sublist_labels hlabel hchain hback))

/-- A list with one more element in front is grouped exactly if it does not come back to it. -/
theorem cons_cons_iff {a b : α} {rest : List α} :
    Grouped (a :: b :: rest) ↔ (a ≠ b → a ∉ rest) ∧ Grouped (b :: rest) := by
  constructor
  · intro h
    refine ⟨fun hne hback => hne ?_, h.sublist (List.sublist_cons_self a _)⟩
    exact (h a b (((List.singleton_sublist.mpr hback).cons_cons b).cons_cons a)).symm
  · rintro ⟨hstays, hrest⟩ x y hback
    cases hback with
    | cons _ hlater => exact hrest x y hlater
    | cons_cons _ hlater =>
        -- `y` and another `a` stand behind the first `a`.
        by_cases hab : a = b
        · subst hab
          cases hlater with
          | cons _ hlater => exact hrest a y (hlater.cons_cons a)
          | cons_cons _ _ => rfl
        · have hmem : a ∈ rest := by
            cases hlater with
            | cons _ hlater => exact hlater.subset (by simp)
            | cons_cons _ hlater => exact List.singleton_sublist.mp hlater
          exact absurd hmem (hstays hab)

end Grouped

/-- **A list is grouped exactly if it never comes back.** -/
theorem returns_eq_zero_iff {α : Type} [DecidableEq α] (list : List α) :
    returns list = 0 ↔ Grouped list := by
  induction list using returns.induct with
  | case1 => exact iff_of_true rfl (.of_nodup List.nodup_nil)
  | case2 a => exact iff_of_true rfl (.of_nodup (List.nodup_singleton a))
  | case3 a b rest ih =>
      rw [returns, Grouped.cons_cons_iff, ← ih, Nat.add_eq_zero_iff]
      refine and_congr_left fun _ => ?_
      split
      · rename_i hback
        exact iff_of_false Nat.one_ne_zero fun hstays => hstays hback.1 hback.2
      · rename_i hnot
        exact iff_of_true rfl fun hne hmem => hnot ⟨hne, hmem⟩

instance {α : Type} [DecidableEq α] (list : List α) : Decidable (Grouped list) :=
  decidable_of_iff _ (returns_eq_zero_iff list)

/-! ### The matches of a search -/

/-- The paths of matches, where those that take the same way are the same. -/
def ways (found : List Match) : List (Bool × List String) :=
  found.map fun m => FilePath.way m.filePath

/-- **A search leaves the files together.**  The matches of a search are grouped by their paths if the
files are. -/
theorem grouped_search (settings : Settings) (grammar : Grammar) {files : List SourceFile}
    (texts : List String) (hfiles : Grouped (files.map fun file => FilePath.way file.path)) :
    Grouped (ways (search settings grammar files texts).found) := by
  cases hprepare : Engine.prepare settings grammar texts with
  | error failed =>
      rw [search, Search.run_of_error Observer.none settings grammar () files texts hprepare,
        Search.found_of_prepare_error settings grammar texts hprepare]
      exact .of_nodup List.nodup_nil
  | ok engine =>
      obtain ⟨count, -, hrun⟩ :=
        Search.run_of_ok Observer.none settings grammar () files texts hprepare
      have hblocks : Grouped ((files.take count).flatMap
          fun file => ways (engine.uniqueIn settings file)) := by
        refine Grouped.flatMap (hfiles.sublist ((List.take_sublist count files).map _)) ?_
        intro file way hway
        obtain ⟨m, hm, rfl⟩ := List.mem_map.mp hway
        rw [engine.filePath_of_mem_uniqueIn hm]
      have hcut : ((search settings grammar files texts).found).Sublist
          ((files.take count).flatMap (engine.uniqueIn settings)) := by
        rw [search, hrun, Search.truncate]
        split
        · exact List.take_sublist _ _
        · exact List.Sublist.refl _
      refine hblocks.sublist ?_
      have hways := hcut.map fun m => FilePath.way m.filePath
      rwa [List.map_flatMap] at hways

end Report

open Report

/-- **Every file is counted once, and once more for each return.**  Where the report is for human
readers, it lists the matches and counts them, and the number of their files is that of their distinct
paths and of the returns to one that was left.  So it is right exactly if the paths of the matches
stand together, as they do if those of the files do. -/
theorem human_report_counts (look : String → Except ReadError Entry)
    (grammar : Language → Grammar) {written : List String} {arguments : Arguments}
    {options : Options} {queries : List String} (hread : Arguments.read written = .ok arguments)
    (hoptions : optionsOf look arguments = .ok options)
    (hqueries : queriesOf look arguments = .ok queries) (hhuman : options.format = .human) :
    let language := options.settings.language
    let files := arguments.paths.flatMap (filesAt look language)
    let found := (search options.settings (grammar language) files queries).found
    (run look grammar written).stdout =
      String.join (found.map listing) ++ counted found.length "match" "matches" ++ " in " ++
        counted ((ways found).dedup.length + returns (ways found)) "file" "files" ++ "\n" ∧
    (fileCount found = (ways found).dedup.length ↔ Grouped (ways found)) ∧
    (Grouped (files.map fun file => FilePath.way file.path) → Grouped (ways found)) := by
  intro language files found
  have hcount : fileCount found = (ways found).dedup.length + returns (ways found) :=
    length_dropAdjacent (ways found)
  refine ⟨?_, ?_, grouped_search options.settings (grammar language) queries⟩
  · have hexecute : execute look grammar arguments =
        .ok (render .human (search options.settings (grammar language) files queries)) := by
      simp [execute, hoptions, hqueries, hhuman, bind, Except.bind, pure, Except.pure, language,
        files]
    rw [← hcount, run, hread]
    simp only [hexecute, render, summary, String.append_assoc, found]
  · rw [hcount, ← returns_eq_zero_iff]
    omega

namespace TwoFiles

/-- Two files that are the same but for their names. -/
def directory : Directory :=
  [("a.py", .file (some "x")), ("b.py", .file (some "x"))]

/-- Grammars by which no text is parsed; a search for text needs none. -/
def grammar (language : Language) : Grammar where
  profile := .ofLanguage language
  layout := ⟨[]⟩
  parser := fun _ => none

/-- The search for the text `x` at some paths. -/
def written (paths : List String) : List String :=
  ["-q", "x", "-m", "text"] ++ paths

/-- What the program leaves behind when it is asked for that. -/
def output (paths : List String) : Output :=
  run directory.look grammar (written paths)

end TwoFiles

open TwoFiles

/-- A file that is named twice in a row is searched twice and counted once. -/
theorem neighbours_counted_once :
    (output ["a.py", "a.py", "b.py"]).stdout =
      "a.py:1:1-1:2\n    x\na.py:1:1-1:2\n    x\nb.py:1:1-1:2\n    x\n3 matches in 2 files\n" := by
  let arguments : Arguments :=
    { queries := ["x"], mode := some .text, paths := ["a.py", "a.py", "b.py"] }
  have hread : Arguments.read (written ["a.py", "a.py", "b.py"]) = .ok arguments := by
    decide +kernel
  have hoptions : optionsOf directory.look arguments = .ok (Options.resolve arguments {}) := by
    decide +kernel
  have hqueries : queriesOf directory.look arguments = .ok ["x"] := by
    decide +kernel
  rw [output, (human_report_counts directory.look grammar hread hoptions hqueries rfl).1]
  decide +kernel

/-- A file that is named again behind another one is counted again: the three matches are in two
files. -/
theorem file_counted_again :
    let files := ["a.py", "b.py", "a.py"].flatMap (filesAt directory.look .typescript)
    let found := (search { mode := .text } (grammar .typescript) files ["x"]).found
    (ways found).dedup.length = 2 ∧
      (output ["a.py", "b.py", "a.py"]).stdout =
        String.join (found.map listing) ++ "3 matches in 3 files\n" := by
  decide +kernel

end StructuralSearch.CommandLine
