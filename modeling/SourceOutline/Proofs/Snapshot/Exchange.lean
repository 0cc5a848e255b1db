import SourceOutline.Command.Run
import SourceOutline.Proofs.Json.Writing

/-!
# Snapshots read back

A snapshot whose numbers are machine words is read back from its text in either layout. The report
for programs is the object of the snapshot with at most one member behind it, a member that no
field of a snapshot has the name of, so that the snapshot is read back from the report as well.
-/

namespace SourceOutline

open Json

/-! ## Records -/

namespace Json

/-- A written list is read back if each of its items is. -/
theorem listOf?_map {α : Type} {read : Json → Option α} {write : α → Json} {items : List α}
    (each : ∀ item ∈ items, read (write item) = some item) :
    (array (items.map write)).listOf? read = some items := by
  simp only [listOf?, Json.items, Option.bind_some]
  induction items with
  | nil => rfl
  | cons item items induction =>
    have later := induction fun item member => each item (List.mem_cons_of_mem _ member)
    rw [List.map_cons, List.mapM_cons, each item List.mem_cons_self, later]
    rfl

/-- A written list of texts is read back. -/
@[simp]
theorem listOf?_ofStrings (texts : List String) : (ofStrings texts).listOf? text? = some texts :=
  listOf?_map fun _ _ => rfl

/-- A written text or null is read back. -/
@[simp]
theorem optionalText?_ofOption (text : Option String) :
    (ofOption text).optionalText? = some text := by
  cases text <;> rfl

/-- Members of other names do not change a record. -/
theorem record?_append {keys : List String} {members others : List (String × Json)}
    (unknown : ∀ entry ∈ others, entry.1 ∉ keys) :
    (object (members ++ others)).record? keys = (object members).record? keys := by
  have same : ∀ key ∈ keys, valuesAt key (members ++ others) = valuesAt key members := by
    intro key isKey
    have none : others.filter (·.1 == key) = [] := List.filter_eq_nil_iff.mpr fun entry member =>
      fun equal => unknown entry member (beq_iff_eq.mp equal ▸ isKey)
    rw [valuesAt, List.filter_append, none, List.append_nil, valuesAt]
  simp only [record?, fieldsOfMembers?]
  induction keys with
  | nil => rfl
  | cons key keys induction =>
    have later := induction (fun entry member isKey => unknown entry member (.tail _ isKey))
      fun key isKey => same key (.tail _ isKey)
    rw [List.mapM_cons, List.mapM_cons, same key List.mem_cons_self, later]

/-- Texts are plain. -/
theorem plain_ofStrings (texts : List String) : Plain (ofStrings texts) := by
  refine .array fun item member => ?_
  obtain ⟨text, _, rfl⟩ := List.mem_map.mp member
  exact .string text

/-- A text or null is plain. -/
theorem plain_ofOption (text : Option String) : Plain (ofOption text) := by
  cases text with
  | none => exact .null
  | some text => exact .string text

/-- A natural number is plain. -/
theorem plain_ofNat (n : Nat) : Plain (ofNat n) := .number (isNumber_repr n)

end Json

/-- A language is found by its name, also the unknown one. -/
theorem Language.parse?_displayName (language : Language) :
    parse? language.displayName.toList = some language := by
  have table : ∀ language ∈ unknown :: known,
      parse? language.displayName.toList = some language := by
    decide +kernel
  exact table language (by cases language <;> decide)

/-- A language is read back by its name. -/
theorem Language.ofJson?_toJson (language : Language) :
    Language.ofJson? language.toJson = some language :=
  language.parse?_displayName

/-- A summary source is found by its tag. -/
theorem SummarySource.ofTag?_tag (source : SummarySource) :
    SummarySource.ofTag? source.tag = some source := by
  cases source <;> decide

/-- A kind is found by its tag. -/
theorem DeclarationKind.ofTag?_tag (kind : DeclarationKind) :
    DeclarationKind.ofTag? kind.tag = some kind := by
  cases kind <;> decide

namespace FunctionRecord

/-- The line numbers are machine words. -/
def InWords (record : FunctionRecord) : Prop :=
  record.startLine ≤ maxWord ∧ record.endLine ≤ maxWord

/-- A function record is read back. -/
theorem ofJson?_toJson {record : FunctionRecord} (inWords : record.InWords) :
    FunctionRecord.ofJson? record.toJson = some record := by
  obtain ⟨first, last⟩ := inWords
  simp [toJson, ofJson?, record?, fieldsOfMembers?, valuesAt, text?, choice?, word?_ofNat first,
    word?_ofNat last, SummarySource.ofTag?_tag]

/-- A function record is plain. -/
theorem plain_toJson (record : FunctionRecord) : Plain record.toJson := by
  refine .object ?_
  simp [Plain.string, plain_ofNat]

end FunctionRecord

namespace Declaration

/-- A declaration is read back. -/
theorem ofJson?_toJson (declaration : Declaration) :
    Declaration.ofJson? declaration.toJson = some declaration := by
  have level : declaration.level.toNat ≤ maxWord := Nat.le_pred_of_lt declaration.level.toNat_lt
  simp [toJson, ofJson?, record?, fieldsOfMembers?, valuesAt, text?, choice?, word?_ofNat level,
    DeclarationKind.ofTag?_tag]

/-- A declaration is plain. -/
theorem plain_toJson (declaration : Declaration) : Plain declaration.toJson := by
  refine .object ?_
  simp [Plain.string, plain_ofNat, plain_ofStrings]

end Declaration

namespace Snapshot

/-- The numbers of a snapshot are machine words. The levels of its declarations always are. -/
structure InWords (snapshot : Snapshot) : Prop where
  /-- The count of the lines. -/
  linesOfCode : snapshot.linesOfCode ≤ maxWord
  /-- The lines of each function. -/
  functions : ∀ record ∈ snapshot.functions, record.InWords

/-- A snapshot is read back from its object, whatever else stands behind its members. -/
theorem ofJson?_members_append {snapshot : Snapshot} (inWords : snapshot.InWords)
    {others : List (String × Json)}
    (unknown : ∀ entry ∈ others, entry.1 ∉ snapshot.members.map Prod.fst) :
    Snapshot.ofJson? (object (snapshot.members ++ others)) = some snapshot := by
  have keys : snapshot.members.map Prod.fst = ["language", "lines_of_code", "libraries",
    "functions", "declaration_tree", "tree_graph"] := rfl
  have functions := listOf?_map fun record member =>
    FunctionRecord.ofJson?_toJson (inWords.functions record member)
  have tree := @listOf?_map _ Declaration.ofJson? Declaration.toJson snapshot.tree
    fun declaration _ => declaration.ofJson?_toJson
  rw [keys] at unknown
  rw [ofJson?, record?_append unknown]
  simp [members, record?, fieldsOfMembers?, valuesAt, Language.ofJson?_toJson,
    word?_ofNat inWords.linesOfCode, functions, tree]

/-- A snapshot is plain, member by member. -/
theorem plain_members (snapshot : Snapshot) : ∀ entry ∈ snapshot.members, Plain entry.2 := by
  simp [members, Language.toJson, Plain.string, plain_ofNat, plain_ofStrings, plain_ofOption,
    plain_array_map FunctionRecord.plain_toJson, plain_array_map Declaration.plain_toJson]

/-- The snapshot in a text. -/
def ofText? (text : String) : Option Snapshot := (parse? text.toList).bind Snapshot.ofJson?

end Snapshot

/-! ## Reports -/

namespace Report

/-- The members of a report behind those of its snapshot. -/
def failureMembers (failures : List SummaryFailure) : List (String × Json) :=
  if failures.isEmpty then [] else [("ai_failures", array (failures.map failureJson))]

/-- A report is its snapshot with the failures behind it. -/
theorem json_eq (enhancement : Enhancement) :
    json enhancement =
      object (enhancement.snapshot.members ++ failureMembers enhancement.failures) := rfl

/-- The failures do not take the place of a field of the snapshot. -/
theorem failureMembers_unknown (snapshot : Snapshot) (failures : List SummaryFailure) :
    ∀ entry ∈ failureMembers failures, entry.1 ∉ snapshot.members.map Prod.fst := by
  intro entry member
  rw [failureMembers] at member
  split at member
  · simp at member
  · rw [List.mem_singleton.mp member]
    simp [Snapshot.members]

/-- A report is plain. -/
theorem plain_json (enhancement : Enhancement) : Plain (json enhancement) := by
  have failure (failure : SummaryFailure) : Plain (failureJson failure) := by
    refine .object ?_
    simp [Plain.string]
  rw [json_eq]
  refine .object fun entry member => ?_
  rcases List.mem_append.mp member with own | added
  · exact enhancement.snapshot.plain_members entry own
  · rw [failureMembers] at added
    split at added
    · simp at added
    · rw [List.mem_singleton.mp added]
      exact plain_array_map failure _

end Report

/-- The report for programs is read as one value, the line feed behind it included. -/
theorem Command.parse?_report {request : AnalyzeRequest} (format : request.format = .json)
    (enhancement : Enhancement) :
    parse? (report request enhancement).output.toList = some (Report.json enhancement) := by
  have output : (report request enhancement).output.toList =
      (Report.json enhancement).pretty.toList ++ ['\n'] := by
    simp [report, format, Outcome.result]
  rw [output]
  exact (Report.plain_json enhancement).parse?_pretty (.cons rfl (.refl _))

/-- A snapshot of machine words is read back from its text in either layout, and from the report
for programs, whatever failures that report tells of. The report is one object: the members of the
snapshot, and the failures behind them unless there are none. -/
theorem Snapshot.ofText?_written (snapshot : Snapshot) (inWords : snapshot.InWords) :
    ofText? snapshot.toJson.compact = some snapshot ∧
      ofText? snapshot.toJson.pretty = some snapshot ∧
      ∀ (request : AnalyzeRequest) (failures : List SummaryFailure), request.format = .json →
        ofText? (Command.report request ⟨snapshot, failures⟩).output = some snapshot ∧
        ∃ others,
          parse? (Command.report request ⟨snapshot, failures⟩).output.toList =
            some (object (snapshot.members ++ others)) ∧
          (failures = [] → others = []) ∧
          (failures ≠ [] →
            others = [("ai_failures", array (failures.map Report.failureJson))]) := by
  have readBack (failures : List SummaryFailure) :
      Snapshot.ofJson? (Report.json ⟨snapshot, failures⟩) = some snapshot :=
    ofJson?_members_append inWords (Report.failureMembers_unknown snapshot failures)
  -- A report without failures is the object of the snapshot.
  have alone : Report.json ⟨snapshot, []⟩ = snapshot.toJson := by
    rw [Report.json_eq, toJson]
    exact congrArg object (List.append_nil _)
  have plain : Plain snapshot.toJson := alone ▸ Report.plain_json ⟨snapshot, []⟩
  have own : Snapshot.ofJson? snapshot.toJson = some snapshot := alone ▸ readBack []
  have spread : parse? snapshot.toJson.pretty.toList = some snapshot.toJson := by
    simpa using plain.parse?_pretty (.refl [])
  refine ⟨?_, ?_, fun request failures format => ⟨?_, Report.failureMembers failures, ?_, ?_, ?_⟩⟩
  · rw [ofText?, plain.parse?_compact, Option.bind_some, own]
  · rw [ofText?, spread, Option.bind_some, own]
  · rw [ofText?, Command.parse?_report format, Option.bind_some, readBack failures]
  · rw [Command.parse?_report format, Report.json_eq]
  · rintro rfl
    rfl
  · intro nonempty
    rw [Report.failureMembers, if_neg (by simpa using nonempty)]

/-- A snapshot with the largest words, and with quotes, controls and characters beyond ASCII. -/
def Snapshot.largest : Snapshot where
  language := .unknown
  linesOfCode := maxWord
  libraries := ["", "\"\\/", "\x00\x1f\x7f\r\n\t", "\u2028"]
  functions := [⟨"λ", "\"\"\"", .docComment, "\tdef λ():\n", 0, maxWord⟩,
    ⟨"", "", .synthesized, "", maxWord, 0⟩]
  tree := [⟨.cls, "😀", "", UInt64.ofNat maxWord, []⟩, ⟨.function, "λ", "😀", 0, ["\x08", ","]⟩]
  graph := some "digraph \x7b\n\x7d"

/-- The largest words and every kind of text are read back, also from a report with failures. -/
theorem Snapshot.ofText?_largest :
    largest.InWords ∧ ofText? largest.toJson.compact = some largest ∧
      ofText? (Command.report ⟨"a.py", .json, none, true, none, false⟩
        ⟨largest, [⟨"λ", "\"language\": \"C\""⟩]⟩).output = some largest := by
  have inWords : largest.InWords := ⟨by decide, by simp [largest, FunctionRecord.InWords]⟩
  obtain ⟨compact, _, reports⟩ := ofText?_written largest inWords
  exact ⟨inWords, compact, (reports _ _ rfl).1⟩

end SourceOutline
