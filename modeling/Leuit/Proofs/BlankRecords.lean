import Leuit.Proofs.LockSets

/-! Blank records count for nothing. They stand for no row, and no text that is looked for among the records
of a table is theirs, since a text that stands for no value is not looked for (`Definite`). So a plan is the
same when blank records are left out of what a snapshot shows (`Command.planned_tidied`), and in two
snapshots that show the same but for blank records (`Command.planned_alike`). -/
namespace Leuit
open Outcome

/-! ### Texts in a column -/

theorem fieldIs_eq_true {i : Nat} {value : String} {fields : List String} :
    fieldIs i value fields = true ↔ ∃ f, fields[i]? = some f ∧ Text.trim f = value := by
  unfold fieldIs
  cases fields[i]? <;> simp

/-- A text that no null field has. -/
def Definite (value : String) : Prop := ∀ field, Text.trim field = value → isNullField field = false

theorem definite_trim {field : String} (h : isNullField field = false) : Definite (Text.trim field) :=
  fun _ hother => (isNullField_congr hother).trans h

namespace Record
variable {i : Nat} {value record : String} {records : List String}

@[simp] theorem rows_rows (records : List String) : rows (rows records) = rows records := by
  simp [rows, List.filter_filter]

/-- A record with a text that is not null is a row. -/
theorem mem_rows_of_fieldIs (hvalue : Definite value) (hmem : record ∈ records)
    (h : fieldIs i value (fields record) = true) : record ∈ rows records := by
  refine List.mem_filter.mpr ⟨hmem, ?_⟩
  cases hb : Text.allBlank record with
  | false => rfl
  | true =>
    obtain ⟨f, hf, htrim⟩ := fieldIs_eq_true.mp h
    rw [fields_of_allBlank hb] at hf
    have hnull := hvalue f htrim
    rw [List.mem_singleton.mp (List.mem_of_getElem? hf), isNullField_of_allBlank hb] at hnull
    cases hnull

/-- A text that is not null occurs among the records if it does among the rows. -/
theorem any_fieldIs_rows (hvalue : Definite value) :
    ((rows records).any fun record => fieldIs i value (fields record)) =
      records.any fun record => fieldIs i value (fields record) := by
  rw [Bool.eq_iff_iff, List.any_eq_true, List.any_eq_true]
  constructor
  · rintro ⟨record, hmem, h⟩
    exact ⟨record, List.mem_of_mem_filter hmem, h⟩
  · rintro ⟨record, hmem, h⟩
    exact ⟨record, mem_rows_of_fieldIs hvalue hmem h, h⟩

end Record

/-! ### Snapshots without blank records -/

/-- What a snapshot shows, without the blank records. -/
def Snapshot.tidied (view : Snapshot) : Snapshot :=
  ⟨view.schema, fun table => (view.records table).map Record.rows⟩

section
variable {view view' : Snapshot}

namespace Snapshot

@[simp] theorem load_tidied (table : String) : view.tidied.load table = view.load table := rfl

@[simp] theorem open_tidied (table role : String) (action : Action) :
    view.tidied.open table role action = view.open table role action := rfl

theorem records_tidied (table : String) :
    view.tidied.records table = (view.records table).map Record.rows := rfl

end Snapshot

theorem Column.checkField_tidied {c : Column} {i : Nat} {field : String} {others : List (List String)} :
    c.checkField view.tidied i field others = c.checkField view i field others := by
  unfold checkField
  cases hnull : isNullField field with
  | true => rfl
  | false =>
    have hreference : ∀ key, c.checkReference view.tidied key (Text.trim field) =
        c.checkReference view key (Text.trim field) := by
      intro key
      unfold checkReference
      rw [Snapshot.load_tidied, Snapshot.records_tidied]
      cases view.records key.table with
      | error e => rfl
      | ok records => simp only [Except.map, Record.any_fieldIs_rows (definite_trim hnull)]
    simp only [hreference]

namespace Definition
variable {d : Definition} {others : List (List String)} {fields : List String}

theorem checkFieldsFrom_tidied {i : Nat} {pairs : List (Column × String)} :
    checkFieldsFrom view.tidied others i pairs = checkFieldsFrom view others i pairs := by
  induction pairs generalizing i with
  | nil => rfl
  | cons pair rest ih => rw [checkFieldsFrom, checkFieldsFrom, Column.checkField_tidied, ih]

theorem checkNew_tidied : d.checkNew view.tidied fields = d.checkNew view fields := by
  unfold checkNew
  rw [Snapshot.records_tidied]
  cases view.records d.name with
  | error e => rfl
  | ok records =>
    simp only [Except.map, Record.rows_rows]
    exact checkFieldsFrom_tidied

end Definition

theorem UpdateRows.checkChanged_tidied {d : Definition} {before : List (List String)}
    {rows : List UpdatedRecord} :
    checkChanged d view.tidied before rows = checkChanged d view before rows := by
  induction rows generalizing before with
  | nil => rfl
  | cons r rest ih =>
    simp only [checkChanged, Definition.checkAgainst, Definition.checkFieldsFrom_tidied, ih]

theorem Relation.ofTable_rows (d : Definition) (records : List String) :
    ofTable d (Record.rows records) = ofTable d records := by
  rw [ofTable, ofTable, Record.rows_rows]

theorem SelectRows.readTable_tidied {role table : String} :
    readTable view.tidied role table = readTable view role table := by
  unfold readTable
  rw [Snapshot.open_tidied, Snapshot.records_tidied]
  cases view.records table with
  | error e => rfl
  | ok records => simp only [Except.map, Relation.ofTable_rows]

namespace Command
variable {caller : Caller} {command : Command}

/-- Plans are made without regard to blank records. -/
theorem planned_tidied : command.planned view.tidied caller = command.planned view caller := by
  cases command with
  | create q => rfl
  | insert q =>
    simp only [planned, task, InsertRow.task, Snapshot.open_tidied, InsertRow.plan,
      Definition.checkNew_tidied]
  | select q =>
    exact planned_select_congr SelectRows.readTable_tidied fun _ _ => SelectRows.readTable_tidied
  | update q =>
    simp only [planned, task, UpdateRows.task, Snapshot.open_tidied, UpdateRows.plan,
      UpdateRows.checkChanged_tidied, Snapshot.records_tidied]
    cases view.records q.table with
    | error e => rfl
    | ok records => simp only [Except.map, Record.rows_rows]
  | delete q =>
    simp only [planned, task, DeleteRows.task, Snapshot.open_tidied, DeleteRows.plan,
      Snapshot.records_tidied]
    cases view.records q.table with
    | error e => rfl
    | ok records => simp only [Except.map, Record.rows_rows]

/-- **Where the locked tables are the same but for blank records, so is the plan.** -/
theorem planned_alike
    (h : ∀ request ∈ command.lockSet view, view.tidied.SameAt view'.tidied request.table) :
    command.planned view caller = command.planned view' caller := by
  rw [← planned_tidied, planned_congr h, planned_tidied]

end Command

end

end Leuit
