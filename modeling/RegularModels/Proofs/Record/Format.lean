import Mathlib.Data.List.Forall2
import RegularModels.Proofs.Record.Reading
import RegularModels.Proofs.Text.Cuts

/-!
# Written records

A record stands in a line as three fields between two colons: the code of the field
that it sets, the name of the model and the contents.  Lines that are all records are
applied as their records are, and a line that is no record is refused.
-/

namespace RegularModels

open Text (trim)

/-- The number that stands for a field at the front of a record. -/
def RecordField.code : RecordField → Int
  | .automaton .states => 1
  | .automaton .alphabet => 2
  | .automaton .initial => 3
  | .automaton .finals => 4
  | .automaton .transitions => 5
  | .grammar .nonTerminals => 6
  | .grammar .terminals => 7
  | .grammar .start => 8
  | .grammar .productions => 9

theorem RecordField.ofCode?_eq_some_iff {number : Int} {field : RecordField} :
    RecordField.ofCode? number = some field ↔ field.code = number := by
  constructor
  · intro found
    unfold RecordField.ofCode? at found
    split at found <;> cases found <;> rfl
  · rintro rfl
    cases field with
    | automaton field => cases field <;> rfl
    | grammar field => cases field <;> rfl

namespace Record

/--
The record is written in the line: three fields without colons, the first of them an
integer literal of its code, with blanks around the fields or not.
-/
def WrittenIn (record : Record) (line : String) : Prop :=
  ∃ code name payload : String,
    line = code ++ ":" ++ name ++ ":" ++ payload ∧
      (':' ∉ code.toList ∧ ':' ∉ name.toList ∧ ':' ∉ payload.toList) ∧
      Text.integer? (trim code) = some record.field.code ∧
      record.name = trim name ∧
      record.payload = trim payload

/-- A line has three parts exactly when two colons stand in it. -/
theorem pieces_eq_three_iff {line first second third : String} :
    Text.pieces ':' line = [first, second, third] ↔
      ∃ code name payload : String,
        line = code ++ ":" ++ name ++ ":" ++ payload ∧
          (':' ∉ code.toList ∧ ':' ∉ name.toList ∧ ':' ∉ payload.toList) ∧
          first = trim code ∧ second = trim name ∧ third = trim payload := by
  have colon : (":" : String).toList = [':'] := by decide
  have whole : ∀ code name payload : String,
      line = code ++ ":" ++ name ++ ":" ++ payload ↔
        line.toList = code.toList ++ ':' :: name.toList ++ ':' :: payload.toList := by
    intro code name payload
    rw [← String.toList_inj]
    simp [colon]
  constructor
  · intro shape
    rcases List.map_eq_cons_iff.mp shape with ⟨code, behindCode, cut, rfl, names⟩
    rcases List.map_eq_cons_iff.mp names with ⟨name, behindName, rfl, rfl, payloads⟩
    rcases List.map_eq_cons_iff.mp payloads with ⟨payload, none, rfl, rfl, nothing⟩
    rw [List.map_eq_nil_iff.mp nothing] at cut
    rcases Text.splitAtChar_eq_three_iff.mp cut with ⟨equal, unmarked⟩
    exact ⟨code, name, payload, (whole code name payload).mpr equal, unmarked, rfl, rfl, rfl⟩
  · rintro ⟨code, name, payload, equal, unmarked, rfl, rfl, rfl⟩
    have cut := Text.splitAtChar_eq_three_iff.mpr
      ⟨(whole code name payload).mp equal, unmarked⟩
    rw [Text.pieces, cut]
    simp only [List.map_cons, List.map_nil]

theorem ofLine_eq_ok_iff {line : String} {record : Record} :
    Record.ofLine line = .ok record ↔ record.WrittenIn line := by
  constructor
  · intro found
    unfold Record.ofLine at found
    split at found
    · rename_i code name payload shape
      rcases pieces_eq_three_iff.mp shape with
        ⟨code, name, payload, equal, unmarked, rfl, rfl, rfl⟩
      split at found
      · cases found
      · rename_i number literal
        split at found
        · rename_i field known
          cases found
          rw [← RecordField.ofCode?_eq_some_iff.mp known] at literal
          exact ⟨code, name, payload, equal, unmarked, literal, rfl, rfl⟩
        · cases found
    · cases found
  · rintro ⟨code, name, payload, equal, unmarked, literal, nameEq, payloadEq⟩
    have shape := pieces_eq_three_iff.mpr
      ⟨code, name, payload, equal, unmarked, rfl, nameEq, payloadEq⟩
    have known : RecordField.ofCode? record.field.code = some record.field :=
      RecordField.ofCode?_eq_some_iff.mpr rfl
    simp only [Record.ofLine, shape, literal, known]

/-- The records are written in the lines of a description, one in each. -/
def AllWrittenIn (records : List Record) (lines : List String) : Prop :=
  List.Forall₂ (fun line record => record.WrittenIn (trim line)) lines records

theorem exists_allWrittenIn
    {lines : List String}
    (readable : ∀ line ∈ lines, ∃ record : Record, record.WrittenIn (trim line)) :
    ∃ records, AllWrittenIn records lines := by
  induction lines with
  | nil => exact ⟨[], .nil⟩
  | cons line rest ih =>
      rw [List.forall_mem_cons] at readable
      rcases readable.1 with ⟨record, written⟩
      rcases ih readable.2 with ⟨records, allWritten⟩
      exact ⟨record :: records, .cons written allWritten⟩

end Record

/-! ## Applying records -/

namespace Catalog

variable {catalog : Catalog} {lines : List String} {records : List Record}

/-- Apply records one after the other, up to the first that is refused. -/
def applyRecords (catalog : Catalog) (records : List Record) : Outcome Catalog :=
  .each applyRecord catalog records

theorem applyLine_of_writtenIn
    {line : String} {record : Record}
    (written : record.WrittenIn line)
    (catalog : Catalog) :
    catalog.applyLine line = catalog.applyRecord record := by
  rw [applyLine, Record.ofLine_eq_ok_iff.mpr written]

theorem exists_writtenIn_of_succeeds
    {line : String}
    (went : (catalog.applyLine line).Succeeds) :
    ∃ record : Record, record.WrittenIn line := by
  unfold applyLine at went
  cases found : Record.ofLine line with
  | ok record => exact ⟨record, Record.ofLine_eq_ok_iff.mp found⟩
  | error cause =>
      rw [found] at went
      exact absurd went (Outcome.not_succeeds_refuse catalog cause)

/-- Applying lines is applying the records that are written in them. -/
theorem applyEach_eq_applyRecords
    (written : Record.AllWrittenIn records lines)
    (catalog : Catalog) :
    catalog.applyEach lines = catalog.applyRecords records := by
  induction written generalizing catalog with
  | nil => rfl
  | cons first _ ih =>
      rw [applyEach_cons, applyLine_of_writtenIn first, funext ih]
      rfl

theorem readable_of_succeeds
    (went : (catalog.applyEach lines).Succeeds) :
    ∀ line ∈ lines, ∃ record : Record, record.WrittenIn (trim line) := by
  induction lines generalizing catalog with
  | nil => exact fun _ member => absurd member List.not_mem_nil
  | cons line rest ih =>
      rw [applyEach_cons, Outcome.succeeds_andThen_iff] at went
      rw [List.forall_mem_cons]
      exact ⟨exists_writtenIn_of_succeeds went.1, ih went.2⟩

/-- Lines are accepted when they are records that are accepted. -/
theorem succeeds_applyEach_iff :
    (catalog.applyEach lines).Succeeds ↔
      ∃ records, Record.AllWrittenIn records lines ∧
        (catalog.applyRecords records).Succeeds := by
  constructor
  · intro went
    rcases Record.exists_allWrittenIn (readable_of_succeeds went) with ⟨records, written⟩
    exact ⟨records, written, applyEach_eq_applyRecords written catalog ▸ went⟩
  · rintro ⟨records, written, went⟩
    exact applyEach_eq_applyRecords written catalog ▸ went

section Read

variable {content : String} (written : Record.AllWrittenIn records (contentLines content))
include written

/-- A text of records is accepted exactly when the records are. -/
theorem failure_read_of_allWrittenIn :
    (catalog.read content).failure = none ↔ (catalog.applyRecords records).Succeeds := by
  rw [failure_read_eq_none_iff, applyEach_eq_applyRecords written]

theorem catalog_read_of_allWrittenIn (went : (catalog.applyRecords records).Succeeds) :
    (catalog.read content).catalog = (catalog.applyRecords records).model := by
  rw [read_of_succeeds (applyEach_eq_applyRecords written catalog ▸ went),
    applyEach_eq_applyRecords written]

end Read

end Catalog

end RegularModels
