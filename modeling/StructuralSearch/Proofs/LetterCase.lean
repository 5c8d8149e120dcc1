import Mathlib.Logic.Function.Basic
import StructuralSearch.Proofs.FragmentPatterns
import StructuralSearch.Proofs.OverlookedChanges
import StructuralSearch.Proofs.SureSearch

/-!
# Letter case

Where letter case does not count, the texts of names, of literals and of free text are compared in
lower case, and whether a text is blank does not depend on its case (`Text.isBlankText_lowercase`).  So
files that differ in the letter case of such texts only are matched alike, by the same comparisons
(`Criteria.letter_case_overlooked`).

All other texts are compared as they stand, those of a regular expression for example.  There two
texts are told apart although they are the same in lower case (`Criteria.letter_case_seen`).
-/

namespace StructuralSearch

namespace Text

/-! ### Blanks in lower case -/

/-- A case map keeps a property of characters if none of its runs begins or ends in the ranges of the
property. -/
theorem holds_applyRuns {ranges : CharRanges} {runs : List CaseRun}
    (hzero : ∀ range ∈ ranges, 0 < range.1)
    (hapart : ∀ run ∈ runs, ∀ range ∈ ranges,
      (run.last < range.1 ∨ range.2 < run.first) ∧
      (run.last + run.shift < range.1 ∨ range.2 < run.first + run.shift)) (c : Char) :
    ranges.holds (applyRuns runs c) = ranges.holds c := by
  unfold applyRuns
  split
  · rename_i run hfound
    have hrun := hapart run (List.mem_of_find?_eq_some hfound)
    have hmoves := List.find?_some hfound
    simp only [CaseRun.moves, Bool.and_eq_true, decide_eq_true_eq] at hmoves
    have hbefore : ranges.holds c = false := by
      rw [← Bool.not_eq_true, CharRanges.holds_iff]
      rintro ⟨range, hrange, hin⟩
      have hbefore := (hrun range hrange).1
      omega
    have hbehind : ranges.holds (Char.ofNat (c.toNat + run.shift).toNat) = false := by
      rw [← Bool.not_eq_true, CharRanges.holds_iff]
      rintro ⟨range, hrange, hin⟩
      have hpositive := hzero range hrange
      have hbehind := (hrun range hrange).2
      have hmoved := toNat_ofNat (c.toNat + run.shift).toNat
      omega
    rw [hbefore, hbehind]
  · rfl

/-- A character in lower case is white space exactly if the character is. -/
theorem isBlank_lowerChar (c : Char) : isBlank (lowerChar c) = isBlank c := by
  unfold lowerChar
  split
  · rename_i hascii
    have hall : ∀ n < 0x80, isBlank (Char.ofNat n).toLower = isBlank (Char.ofNat n) := by
      decide +kernel
    simpa using hall c.toNat hascii
  · exact holds_applyRuns (by decide +kernel) (by decide +kernel) c

/-- So it is between other characters. -/
theorem all_isBlank_lowered (before : List Char) (c : Char) (after : List Char) :
    (lowered before c after).all isBlank = isBlank c := by
  unfold lowered
  split
  · rename_i hsigma
    obtain rfl := eq_of_beq hsigma
    unfold lowerSigma
    split <;> decide
  · split
    · rename_i hdot
      obtain rfl := eq_of_beq hdot
      decide
    · rw [List.all_cons, List.all_nil, Bool.and_true, isBlank_lowerChar]

/-- **Letter case makes no blanks.**  A text in lower case is blank exactly if the text is. -/
theorem isBlankText_lowercase (text : String) : isBlankText (lowercase text) = isBlankText text := by
  have hall : ∀ before rest, (lowerFrom before rest).all isBlank = rest.all isBlank := by
    intro before rest
    induction rest generalizing before with
    | nil => rfl
    | cons c rest ih =>
        rw [lowerFrom_cons, List.all_append, all_isBlank_lowered, ih, List.all_cons]
  rw [isBlankText, lowercase, String.toList_ofList, hall, isBlankText]

end Text

namespace Node

/-! ### Texts that are changed kind by kind -/

mutual

/-- Applies `f`, given the kind of each node, to the text of a node and to the texts of all nodes below
it. -/
def mapTextAt (f : String → String → String) : Node → Node
  | ⟨kind, span, named, text, fields⟩ =>
    ⟨kind, span, named, text.map (f kind), mapTextAtFields f fields⟩

/-- Applies `f` to all texts in a list of fields. -/
def mapTextAtFields (f : String → String → String) :
    List (String × FieldValue Node) → List (String × FieldValue Node)
  | [] => []
  | (name, value) :: fields => (name, mapTextAtValue f value) :: mapTextAtFields f fields

/-- Applies `f` to all texts in a field. -/
def mapTextAtValue (f : String → String → String) : FieldValue Node → FieldValue Node
  | .token text => .token text
  | .child none => .child none
  | .child (some node) => .child (some (mapTextAt f node))
  | .sequence nodes => .sequence (mapTextAtAll f nodes)

/-- Applies `f` to all texts in a list of nodes. -/
def mapTextAtAll (f : String → String → String) : List Node → List Node
  | [] => []
  | node :: nodes => mapTextAt f node :: mapTextAtAll f nodes

end

variable (f g : String → String → String)

theorem mapTextAtAll_eq_map (nodes : List Node) :
    mapTextAtAll f nodes = nodes.map (mapTextAt f) := by
  induction nodes with
  | nil => rfl
  | cons node nodes ih => simp [mapTextAtAll, ih]

theorem mapTextAtValue_eq_map (value : FieldValue Node) :
    mapTextAtValue f value = value.map (mapTextAt f) := by
  rcases value with text | (_ | node) | nodes
  · rfl
  · rfl
  · rfl
  · simp [mapTextAtValue, FieldValue.map, mapTextAtAll_eq_map]

theorem mapTextAtFields_eq_map (fields : List (String × FieldValue Node)) :
    mapTextAtFields f fields = fields.map fun entry => (entry.1, entry.2.map (mapTextAt f)) := by
  induction fields with
  | nil => rfl
  | cons entry fields ih => simp [mapTextAtFields, mapTextAtValue_eq_map, ih]

@[simp] theorem kind_mapTextAt (node : Node) : (node.mapTextAt f).kind = node.kind := by
  cases node; rfl

@[simp] theorem text_mapTextAt (node : Node) :
    (node.mapTextAt f).text = node.text.map (f node.kind) := by
  cases node; rfl

theorem field?_mapTextAt (node : Node) (name : String) :
    (node.mapTextAt f).field? name = (node.field? name).map (.map (mapTextAt f)) := by
  obtain ⟨kind, span, named, text, fields⟩ := node
  simp only [mapTextAt, field?, mapTextAtFields_eq_map]
  induction fields with
  | nil => rfl
  | cons entry fields ih =>
      rw [List.map_cons, List.lookup_cons, List.lookup_cons, ih]
      split <;> rfl

/-- Texts that are changed one way and then another. -/
theorem mapTextAt_mapTextAt (node : Node) :
    (node.mapTextAt f).mapTextAt g = node.mapTextAt fun kind text => g kind (f kind text) := by
  induction node using induction_on_children with
  | step node ih =>
      have hfields : ∀ entry ∈ node.fields,
          (entry.2.map (mapTextAt f)).map (mapTextAt g) =
            entry.2.map (mapTextAt fun kind text => g kind (f kind text)) := by
        intro entry hentry
        rw [FieldValue.map_map]
        exact FieldValue.map_congr fun child hchild =>
          ih child (mem_children_iff.mpr ⟨entry.1, entry.2, hentry, hchild⟩)
      obtain ⟨kind, span, named, text, fields⟩ := node
      simp only [mapTextAt, mapTextAtFields_eq_map, List.map_map, mk.injEq, true_and]
      refine ⟨by rw [Option.map_map]; rfl, List.map_congr_left fun entry hentry => ?_⟩
      exact Prod.ext rfl (hfields entry hentry)

end Node

/-- The node with all texts that are compared without regard to letter case in lower case. -/
def Profile.foldCase (profile : Profile) (node : Node) : Node :=
  node.mapTextAt fun kind text => if profile.keepsText kind then Text.lowercase text else text

namespace Criteria

open Text

variable {criteria : Criteria}

/-- Whether a node takes part in comparisons does not depend on the letter case of its text. -/
theorem isComparable_eq_of_lowercase (profile : Profile) {node node' : Node}
    (hkind : node'.kind = node.kind)
    (htext : node'.text.map lowercase = node.text.map lowercase) :
    profile.isComparable node' = profile.isComparable node := by
  have hblank : ∀ text : Option String,
      text.all isBlankText = (text.map lowercase).all isBlankText := by
    intro text
    cases text with
    | none => rfl
    | some text => exact (isBlankText_lowercase text).symm
  rw [Profile.isComparable, Profile.isText, hkind, hblank, htext, ← hblank, Profile.isComparable,
    Profile.isText]

/-- **Letter case is overlooked.**  A change of texts that keeps what they are in lower case, and keeps
those texts that are compared as they stand, goes unnoticed where letter case does not count. -/
theorem overlooks_mapTextAt (hignoring : criteria.caseInsensitive = true)
    {f : String → String → String} (hfolded : ∀ kind text, lowercase (f kind text) = lowercase text)
    (hplain : ∀ kind text, criteria.profile.keepsText kind = false → f kind text = text) :
    criteria.Overlooks (Node.mapTextAt f) := by
  have hlowered : ∀ node : Node,
      (node.mapTextAt f).text.map lowercase = node.text.map lowercase := by
    intro node
    rw [Node.text_mapTextAt, Option.map_map]
    exact Option.map_congr fun text _ => hfolded node.kind text
  have hfold : criteria.fold = lowercase := by
    funext text
    exact if_pos hignoring
  exact {
    kind := Node.kind_mapTextAt f
    field? := Node.field?_mapTextAt f
    folded := fun node => by rw [hfold, hlowered]
    plain := fun node hplainKind => by
      rw [Node.text_mapTextAt]
      exact (Option.map_congr fun text _ => hplain node.kind text hplainKind).trans Option.map_id'
    comparable := fun node =>
      isComparable_eq_of_lowercase _ (Node.kind_mapTextAt f node) (hlowered node) }

/-- A node whose text is compared as it stands is told from a node with another text. -/
theorem compareLevel_of_other_text {query file : Node} {wanted actual : String}
    (hplain : criteria.profile.keepsText query.kind = false) (hwanted : query.text = some wanted)
    (hactual : file.text = some actual) (hne : wanted ≠ actual) :
    criteria.compareLevel file query = .mismatch := by
  have halone : ¬ criteria.DecidedAlone query := by
    simp_all [DecidedAlone, Profile.keepsText, Profile.nodeWildcard?, Profile.isIdentifier,
      Profile.isString, Profile.isText, Profile.isNumber]
  rw [criteria.compareLevel_of_not_decidedAlone halone, if_neg]
  simp [textsAgree, hwanted, hactual, hne]

/-- **Letter case makes no difference in names, literals and free text.**  Where letter case does not
count, files that differ in the case of such texts only are matched alike, in every mode and whatever
the query is.  Other texts are compared as they stand: a node that has one matches no node with
another one, although they may differ in letter case only. -/
theorem letter_case_overlooked (hignoring : criteria.caseInsensitive = true) :
    (∀ file file' : Node, criteria.profile.foldCase file = criteria.profile.foldCase file' →
      ∀ query, criteria.validate query file = criteria.validate query file') ∧
    ∀ query file wanted actual tally, criteria.profile.keepsText query.kind = false →
      query.text = some wanted → file.text = some actual → wanted ≠ actual →
      (criteria.validate query file tally).1 = .ok false := by
  constructor
  · intro file file' hsame query
    -- all texts that are the same in lower case are replaced by one of them
    let restored := Function.invFun lowercase
    have hrestored : ∀ text, lowercase (restored (lowercase text)) = lowercase text :=
      fun text => Function.invFun_eq ⟨text, rfl⟩
    let back := fun kind text => if criteria.profile.keepsText kind then restored text else text
    have hback : ∀ node, criteria.validate query ((criteria.profile.foldCase node).mapTextAt back) =
        criteria.validate query node := by
      intro node
      rw [Profile.foldCase, Node.mapTextAt_mapTextAt]
      refine (overlooks_mapTextAt hignoring ?_ ?_).validate_eq query node
      · intro kind text
        dsimp only [back]
        split
        · exact hrestored text
        · rfl
      · intro kind text hplain
        simp [back, hplain]
    rw [← hback file, hsame, hback file']
  · intro query file wanted actual tally hplain hwanted hactual hne
    rw [validate_fst_eq, verdict_eq, compareLevel_of_other_text hplain hwanted hactual hne]

end Criteria

namespace Calls

/-- The tree of `f(AΣ)` without a program around it, in whatever case its letters are. -/
def sigmaCall : ParseTree :=
  call 0 6 [name 2 5]

/-- Its node, given the texts of the two names. -/
def sigmaCallNode (function argument : String) : Node where
  kind := "call"
  span := sigmaCall.span
  fields :=
    [("argument", .sequence
        [{ kind := "name", span := (name 2 5).span, text := some argument }]),
      ("function", .child
        (some { kind := "name", span := (name 0 1).span, text := some function }))]

theorem foldCase_sigmaCallNode (function argument : String) :
    profile.foldCase (sigmaCallNode function argument) =
      sigmaCallNode (Text.lowercase function) (Text.lowercase argument) :=
  rfl

end Calls

namespace Criteria

/-- `f(AΣ)` and `F(aς)` are matched alike, for a `Σ` at the end of a word is a `ς` in lower case, and so
the one is matched by the other.  But the flag `i`, whose text is compared as it stands, is not
matched by the flag `I`. -/
theorem sigma_call_in_any_case :
    let file := Calls.nodeOf "f(AΣ)" Calls.sigmaCall
    let file' := Calls.nodeOf "F(aς)" Calls.sigmaCall
    let flag := fun text => Calls.nodeOf text (Calls.tree "flag" none 0 1 [])
    Calls.grammar.Builds file ∧ Calls.grammar.Builds file' ∧
      Calls.profile.foldCase file = Calls.profile.foldCase file' ∧
      (∀ mode query, validate ⟨Calls.profile, mode, true⟩ query file =
        validate ⟨Calls.profile, mode, true⟩ query file') ∧
      ∀ mode, (validate ⟨Calls.profile, mode, true⟩ file file' {}).1 = .ok true ∧
        (validate ⟨Calls.profile, mode, true⟩ (flag "I") (flag "i") {}).1 = .ok false := by
  intro file file' flag
  have hfile : file = Calls.sigmaCallNode "f" "AΣ" := rfl
  have hfile' : file' = Calls.sigmaCallNode "F" "aς" := rfl
  have hfunction : Text.lowercase "f" = Text.lowercase "F" := by decide +kernel
  have hargument : Text.lowercase "AΣ" = Text.lowercase "aς" := by decide +kernel
  have hsame : Calls.profile.foldCase file = Calls.profile.foldCase file' := by
    rw [hfile, hfile', Calls.foldCase_sigmaCallNode, hfunction, hargument,
      ← Calls.foldCase_sigmaCallNode]
  have hignoring : ∀ mode, (⟨Calls.profile, mode, true⟩ : Criteria).caseInsensitive = true :=
    fun _ => rfl
  have halike : ∀ mode query, validate ⟨Calls.profile, mode, true⟩ query file =
      validate ⟨Calls.profile, mode, true⟩ query file' :=
    fun mode query => (letter_case_overlooked (hignoring mode)).1 file file' hsame query
  refine ⟨Calls.builds_nodeOf _ _, Calls.builds_nodeOf _ _, hsame, halike, fun mode => ⟨?_, ?_⟩⟩
  · rw [← halike mode file, hfile]
    cases mode <;> decide +kernel
  · have hplain : Calls.profile.keepsText (flag "I").kind = false := by decide +kernel
    have hupper : (flag "I").text = some "I" := by decide +kernel
    have hlower : (flag "i").text = some "i" := by decide +kernel
    exact (letter_case_overlooked (hignoring mode)).2 (flag "I") (flag "i") "I" "i" {} hplain
      hupper hlower (by decide)

end Criteria

/-! ### A regular expression -/

namespace Patterns

def grammar : Grammar where
  profile := .typescript
  layout := ⟨[("regex_pattern", {})]⟩
  parser := fun _ => none

/-- The tree of what stands between the slashes of `/ab/`. -/
def pattern : ParseTree :=
  Calls.tree "regex_pattern" (some "pattern") 1 3 []

/-- Its node, given its text. -/
def patternNode (text : String) : Node where
  kind := "regex_pattern"
  span := pattern.span
  text := some text

end Patterns

/-- In lower case the patterns of `/ab/` and `/AB/` are the same.  But that of `/ab/` matches only
itself, in every mode, also where letter case does not count. -/
theorem Criteria.letter_case_seen :
    let file := (Patterns.grammar.builder "/ab/").build Patterns.pattern
    let file' := (Patterns.grammar.builder "/AB/").build Patterns.pattern
    Patterns.grammar.Builds file ∧ Patterns.grammar.Builds file' ∧
      file.mapText Text.lowercase = file'.mapText Text.lowercase ∧
      ∀ mode, (validate ⟨.typescript, mode, true⟩ file file {}).1 = .ok true ∧
        (validate ⟨.typescript, mode, true⟩ file file' {}).1 = .ok false := by
  intro file file'
  have hfile : file = Patterns.patternNode "ab" := rfl
  have hfile' : file' = Patterns.patternNode "AB" := rfl
  have htext : Text.lowercase "ab" = Text.lowercase "AB" := by decide +kernel
  refine ⟨⟨_, _, Node.mem_walk_self _⟩, ⟨_, _, Node.mem_walk_self _⟩, ?_, fun mode => ?_⟩
  · rw [hfile, hfile']
    exact congrArg Patterns.patternNode htext
  · rw [hfile, hfile']
    cases mode <;> decide +kernel

end StructuralSearch
