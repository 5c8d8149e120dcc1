import Mathlib.Data.List.Nodup
import StructuralSearch.CommandLine.Report
import StructuralSearch.Proofs.WrittenJson

/-!
# Results come back from their JSON document

A record is written as an object with a fixed list of names.  Since no name occurs twice, a reader
finds under each name what was written there (`members?_record`), so each record that results are made
of is read from what it is written as: positions, matches, hints and error records, whose kind is one
of their members.

`json_report_read_back` puts this together with the text of the document: the JSON report on results
is read as these results, whatever texts stand in them.
-/

namespace StructuralSearch

/-! ### Quantities of fixed width -/

/-- Lines, columns and offsets are numbers that can be written. -/
structure Position.InRange (position : Position) : Prop where
  line : position.line ≤ positionLimit
  column : position.column ≤ positionLimit
  offset : position.offset ≤ positionLimit

/-- The index of a query and its place are numbers that can be written. -/
def ErrorRecord.InRange : ErrorRecord → Prop
  | file _ _ => True
  | query index _ line column =>
    index ≤ Json.naturalLimit ∧ (∀ n ∈ line, n ≤ positionLimit) ∧ ∀ n ∈ column, n ≤ positionLimit

/-- The numbers in results are of the widths that positions and indices have. -/
structure Results.InRange (results : Results) : Prop where
  found : ∀ item ∈ results.found, item.start.InRange ∧ item.stop.InRange
  errors : ∀ record ∈ results.errors, record.InRange

namespace Json

/-! ### Members under their names -/

/-- A list without repetitions stays as it is when repetitions are dropped. -/
theorem eraseDups_of_nodup {names : List String} (h : names.Nodup) : names.eraseDups = names := by
  induction names with
  | nil => rfl
  | cons name names ih =>
      obtain ⟨hnew, hnames⟩ := List.nodup_cons.mp h
      have hall : names.filter (fun other => !other == name) = names := by
        refine List.filter_eq_self.mpr fun other hother => ?_
        have hne : other ≠ name := fun heq => hnew (heq ▸ hother)
        simpa using hne
      rw [List.eraseDups_cons, hall, ih hnames]

/-- Values that are all there are collected. -/
theorem collect_map_self {α : Type} {items : List α} {read : α → Option α}
    (h : ∀ item ∈ items, read item = some item) : collect (items.map read) = some items := by
  induction items with
  | nil => rfl
  | cons item items ih =>
      have hothers := ih fun other hother => h other (List.mem_cons_of_mem _ hother)
      simp [collect, h item List.mem_cons_self, hothers]

/-- If no name is written twice, a reader finds under each name what was written there. -/
theorem members?_record {members : List (String × Json)} (h : (members.map (·.1)).Nodup)
    (names : List String) :
    members? false names (members.map fun (name, value) => (some name, value)) =
      some (names.map fun name => members.lookup name) := by
  have hnodup : ((members.map (·.1)).filter names.contains).Nodup := h.filter _
  unfold members?
  rw [List.map_map, collect_map_self]
  · simp [eraseDups_of_nodup hnodup]
  · exact fun _ _ => rfl

/-- A list is read from what its elements are written as. -/
theorem toList?_array {α : Type} {items : List α} {read : Json → Option α} {write : α → Json}
    (h : ∀ item ∈ items, read (write item) = some item) :
    toList? read (array (items.map write)) = some items := by
  rw [toList?, List.map_map]
  exact collect_map_self h

/-- A natural number is read if it keeps the limit. -/
theorem toNat?_natural {limit n : Nat} (h : n ≤ limit) : toNat? limit (natural n) = some n :=
  if_pos h

/-- The fields of a record are those that were written. -/
theorem fields?_record {members : List (String × Json)} (h : (members.map (·.1)).Nodup)
    (names : List String) :
    fields? false names (record members) = some (names.map fun name => members.lookup name) :=
  members?_record h names

end Json

open Json (fields? fields?_record members?_record toList?_array toNat?_natural toText?)

/-! ### The records of results -/

theorem Position.ofJson?_toJson {position : Position} (h : position.InRange) :
    ofJson? position.toJson = some position := by
  have hfields : fields? false ["line", "column", "offset"] position.toJson =
      some [some (.natural position.line), some (.natural position.column),
        some (.natural position.offset)] :=
    fields?_record (by simp) _
  simp only [ofJson?, hfields, toNat?_natural h.line, toNat?_natural h.column,
    toNat?_natural h.offset, Option.bind_eq_bind, Option.bind_some, Option.pure_def]

theorem Match.ofJson?_toJson {found : Match} (hstart : found.start.InRange)
    (hstop : found.stop.InRange) : ofJson? found.toJson = some found := by
  have hfields : fields? false ["file_path", "start", "end", "code"] found.toJson =
      some [some (.text found.filePath), some found.start.toJson, some found.stop.toJson,
        some (.text found.code)] :=
    fields?_record (by simp) _
  simp only [ofJson?, hfields, Position.ofJson?_toJson hstart, Position.ofJson?_toJson hstop,
    Json.text, toText?, Option.bind_eq_bind, Option.bind_some, Option.pure_def]

theorem Hint.ofJson?_toJson (hint : Hint) : ofJson? hint.toJson = some hint := by
  have hfields : fields? false ["kind", "message"] hint.toJson =
      some [some (.text hint.kind.name), some (.text hint.message)] :=
    fields?_record (by simp) _
  simp only [ofJson?, hfields, Json.text, Json.toNamed?, HintKind.ofName?_name, toText?,
    Option.bind_eq_bind, Option.bind_some, Option.pure_def]

namespace ErrorRecord

/-- A line or a column comes back, and `null` stands for none. -/
theorem place?_placeJson {place : Option Nat} (h : ∀ n ∈ place, n ≤ positionLimit) :
    place? (placeJson place) = some place := by
  cases place with
  | none => rfl
  | some n =>
      have hn := toNat?_natural (h n rfl)
      simp [place?, placeJson, Json.toOption?, hn]

/-- An error record is held until its kind is known. -/
theorem isHeld_toJson (record : ErrorRecord) : record.toJson.isHeld levelLimit = true := by
  cases record with
  | file path message => rfl
  | query index message line column => cases line <;> cases column <;> rfl

/-- What is held is read by the kind that its members tell. -/
theorem ofJson?_object {kind : String} {members : List (Option String × Json)}
    (hheld : (Json.object members).isHeld levelLimit = true)
    (hkind : Json.members? false ["kind"] members = some [some (.text kind)]) :
    ofJson? (.object members) = ofMembers? kind members := by
  simp only [ofJson?, hheld, if_true, hkind, Json.text, Option.bind_eq_bind, Option.bind_some]

theorem ofJson?_toJson {record : ErrorRecord} (h : record.InRange) :
    ofJson? record.toJson = some record := by
  have hheld := record.isHeld_toJson
  cases record with
  | file path message =>
      have hmembers : Json.members? false ["path", "message"]
          ([("kind", .text "file"), ("path", .text path), ("message", .text message)].map
            fun (name, value) => (some name, value)) =
          some [some (.text path), some (.text message)] :=
        members?_record (by simp) _
      refine (ofJson?_object hheld (members?_record (by simp) _)).trans ?_
      rw [ofMembers?, hmembers]
      rfl
  | query index message line column =>
      obtain ⟨hindex, hline, hcolumn⟩ := h
      have hmembers : Json.members? false ["index", "message", "line", "column"]
          ([("kind", .text "query"), ("index", .natural index), ("message", .text message),
            ("line", placeJson line), ("column", placeJson column)].map
            fun (name, value) => (some name, value)) =
          some [some (.natural index), some (.text message), some (placeJson line),
            some (placeJson column)] :=
        members?_record (by simp) _
      refine (ofJson?_object hheld (members?_record (by simp) _)).trans ?_
      rw [ofMembers?, hmembers]
      simp only [query?, toNat?_natural hindex, place?_placeJson hline, place?_placeJson hcolumn,
        Json.text, toText?, Option.getD_some, Option.bind_eq_bind, Option.bind_some,
        Option.pure_def]

end ErrorRecord

namespace Results

/-- Results are read from what they are written as. -/
theorem ofJson?_toJson {results : Results} (h : results.InRange) :
    ofJson? results.toJson = some results := by
  have hfields : fields? false ["matches", "errors", "hints"] results.toJson =
      some [some (.array (results.found.map Match.toJson)),
        some (.array (results.errors.map ErrorRecord.toJson)),
        some (.array (results.hints.map fun hints => .array (hints.map Hint.toJson)))] :=
    fields?_record (by simp) _
  have hfound : Json.toList? Match.ofJson? (.array (results.found.map Match.toJson)) =
      some results.found :=
    toList?_array fun item hitem => Match.ofJson?_toJson (h.found item hitem).1 (h.found item hitem).2
  have herrors : Json.toList? ErrorRecord.ofJson? (.array (results.errors.map ErrorRecord.toJson)) =
      some results.errors :=
    toList?_array fun record hrecord => ErrorRecord.ofJson?_toJson (h.errors record hrecord)
  have hhints : Json.toList? (Json.toList? Hint.ofJson?)
      (.array (results.hints.map fun hints => .array (hints.map Hint.toJson))) =
      some results.hints :=
    toList?_array fun hints _ => toList?_array fun hint _ => hint.ofJson?_toJson
  simp only [ofJson?, hfields, hfound, herrors, hhints, Option.bind_eq_bind, Option.bind_some,
    Option.pure_def]

end Results

/-! ### The document -/

/-- Lines, columns and offsets are small enough to be written. -/
theorem writable_position {n : Nat} (h : n ≤ positionLimit) : Json.Writable (.natural n) :=
  .natural (h.trans (by decide))

theorem Position.writable_toJson {position : Position} (h : position.InRange) :
    Json.Writable position.toJson := by
  refine .record ?_
  simp only [List.forall_mem_cons]
  exact ⟨writable_position h.line, writable_position h.column, writable_position h.offset, nofun⟩

theorem Match.writable_toJson {found : Match} (hstart : found.start.InRange)
    (hstop : found.stop.InRange) : Json.Writable found.toJson := by
  refine .record ?_
  simp only [List.forall_mem_cons]
  exact ⟨.text _, Position.writable_toJson hstart, Position.writable_toJson hstop, .text _, nofun⟩

theorem Hint.writable_toJson (hint : Hint) : Json.Writable hint.toJson := by
  refine .record ?_
  simp only [List.forall_mem_cons]
  exact ⟨.text _, .text _, nofun⟩

namespace ErrorRecord

theorem writable_placeJson {place : Option Nat} (h : ∀ n ∈ place, n ≤ positionLimit) :
    Json.Writable (placeJson place) := by
  cases place with
  | none => exact .null
  | some n => exact writable_position (h n rfl)

theorem writable_toJson {record : ErrorRecord} (h : record.InRange) :
    Json.Writable record.toJson := by
  cases record with
  | file path message =>
      refine .record ?_
      simp only [List.forall_mem_cons]
      exact ⟨.text _, .text _, .text _, nofun⟩
  | query index message line column =>
      obtain ⟨hindex, hline, hcolumn⟩ := h
      refine .record ?_
      simp only [List.forall_mem_cons]
      exact ⟨.text _, .natural hindex, .text _, writable_placeJson hline,
        writable_placeJson hcolumn, nofun⟩

end ErrorRecord

namespace Results

/-- Results can be written without loss. -/
theorem writable_toJson {results : Results} (h : results.InRange) :
    Json.Writable results.toJson := by
  refine .record ?_
  simp only [List.forall_mem_cons]
  refine ⟨.array ?_, .array ?_, .array ?_, nofun⟩
  · intro json hjson
    obtain ⟨item, hitem, rfl⟩ := List.mem_map.mp hjson
    exact Match.writable_toJson (h.found item hitem).1 (h.found item hitem).2
  · intro json hjson
    obtain ⟨record, hrecord, rfl⟩ := List.mem_map.mp hjson
    exact ErrorRecord.writable_toJson (h.errors record hrecord)
  · intro json hjson
    obtain ⟨hints, -, rfl⟩ := List.mem_map.mp hjson
    refine .array fun inner hinner => ?_
    obtain ⟨hint, -, rfl⟩ := List.mem_map.mp hinner
    exact hint.writable_toJson

/-- **The JSON report loses nothing.**  The document that is written for results is the JSON value
of these results, and reading that value gives the results back, whatever texts stand in them. -/
theorem json_report_read_back {results : Results} (h : results.InRange) :
    Json.parse (CommandLine.Report.render .json results).stdout = some results.toJson ∧
    (Json.parse (CommandLine.Report.render .json results).stdout).bind ofJson? = some results := by
  have hnewLine : ∀ c ∈ "\n".toList, Json.isSpace c := by simp [Json.isSpace]
  have hdocument : Json.parse (CommandLine.Report.render .json results).stdout =
      some results.toJson :=
    Json.parse_pretty (writable_toJson h) hnewLine
  refine ⟨hdocument, ?_⟩
  rw [hdocument, Option.bind_some, ofJson?_toJson h]

/-- Quotes, control characters and characters beyond the basic plane come back, and so do errors with
and without a place. -/
theorem mixed_report_read_back :
    let results : Results :=
      { found := [⟨"a \"b\".ts", ⟨1, 1, 0⟩, ⟨2, 3, positionLimit⟩, "f(\"\\\",\n\t\x01😀)"⟩]
        errors := [.file "ü.py" "Parse error at 1:1",
          .query 0 "empty query" none none, .query Json.naturalLimit "no" (some 1) none]
        hints := [[], [.identifierWildcardOnly, .multipleStatements 2]] }
    results.InRange ∧
    Json.parse (CommandLine.Report.render .json results).stdout = some results.toJson ∧
    (Json.parse (CommandLine.Report.render .json results).stdout).bind ofJson? = some results := by
  intro results
  have hrange : results.InRange := by
    constructor
    · intro item hitem
      obtain rfl := List.mem_singleton.mp hitem
      exact ⟨⟨by decide, by decide, by decide⟩, ⟨by decide, by decide, by decide⟩⟩
    · simp only [results, List.forall_mem_cons]
      exact ⟨trivial, ⟨by decide, nofun, nofun⟩, ⟨by decide, by simp [positionLimit], nofun⟩, nofun⟩
  exact ⟨hrange, json_report_read_back hrange⟩

end Results

end StructuralSearch
