import Leuit.Proofs.Atomicity

/-! What a command reads and what it edits. A plan is the same in two snapshots that agree on the tables
it is made from: for a selection the rows of its tables that the role may read
(`Command.planned_select_congr`), for the other commands their own table and, if rows are added or
changed, the tables its foreign keys refer to. Its edits are of its own table, which the role may write
or which is not there yet (`Command.planned_target`), and in memory they neither change nor look at
another (`Memory.plan_changes`, `Memory.commit_congr`). -/
namespace Leuit
open Outcome

/-! ### Snapshots that agree -/

namespace Snapshot
variable {view view' : Snapshot} {table role : String}

/-- Two snapshots show the same of a table. -/
structure SameAt (view view' : Snapshot) (table : String) : Prop where
  schema : view.schema table = view'.schema table
  records : view.records table = view'.records table

theorem load_congr (h : view.schema table = view'.schema table) : view.load table = view'.load table := by
  unfold load
  rw [h]

theorem open_congr (h : view.schema table = view'.schema table) (action : Action) :
    view.open table role action = view'.open table role action := by
  unfold Snapshot.open
  rw [load_congr h]

end Snapshot

/-! ### Checks -/

section
variable {view view' : Snapshot}
open Snapshot

theorem Column.checkField_congr {c : Column} {i : Nat} {field : String} {others : List (List String)}
    (h : ∀ key, c.foreignKey = some key → SameAt view view' key.table) :
    c.checkField view i field others = c.checkField view' i field others := by
  unfold checkField
  cases hkey : c.foreignKey with
  | none => rfl
  | some key =>
    have hreference : ∀ value, c.checkReference view key value = c.checkReference view' key value := by
      intro value
      unfold checkReference
      rw [load_congr (h key hkey).schema, (h key hkey).records]
    simp only [hreference]

namespace Definition
variable {d : Definition} {others : List (List String)} {fields : List String}

theorem mem_parents {table : String} :
    table ∈ d.parents ↔ ∃ c ∈ d.columns, ∃ key, c.foreignKey = some key ∧ key.table = table := by
  rw [parents, NameSet.mem_ofList, List.mem_filterMap]
  simp only [Option.map_eq_some_iff]

theorem checkFieldsFrom_congr {i : Nat} {pairs : List (Column × String)}
    (h : ∀ pair ∈ pairs, ∀ key, pair.1.foreignKey = some key → SameAt view view' key.table) :
    checkFieldsFrom view others i pairs = checkFieldsFrom view' others i pairs := by
  induction pairs generalizing i with
  | nil => rfl
  | cons pair rest ih =>
    obtain ⟨column, field⟩ := pair
    rw [checkFieldsFrom, checkFieldsFrom, Column.checkField_congr (h (column, field) List.mem_cons_self),
      ih fun p hp => h p (List.mem_cons_of_mem _ hp)]

/-- A row is checked by what its foreign keys refer to. -/
theorem checkAgainst_congr (h : ∀ table ∈ d.parents, SameAt view view' table) :
    d.checkAgainst view fields others = d.checkAgainst view' fields others := by
  refine checkFieldsFrom_congr fun pair hp key hk => h key.table ?_
  exact mem_parents.mpr ⟨pair.1, (List.of_mem_zip hp).1, key, hk, rfl⟩

theorem checkNew_congr (hself : view.records d.name = view'.records d.name)
    (h : ∀ table ∈ d.parents, SameAt view view' table) :
    d.checkNew view fields = d.checkNew view' fields := by
  unfold checkNew
  rw [hself]
  cases view'.records d.name with
  | error e => rfl
  | ok records => exact checkAgainst_congr h

end Definition

theorem UpdateRows.checkChanged_congr {d : Definition} {before : List (List String)}
    {rows : List UpdatedRecord} (h : ∀ table ∈ d.parents, SameAt view view' table) :
    checkChanged d view before rows = checkChanged d view' before rows := by
  induction rows generalizing before with
  | nil => rfl
  | cons r rest ih =>
    simp only [checkChanged, Definition.checkAgainst_congr h, ih]

/-! ### Plans -/

theorem InsertRow.plan_congr {q : InsertRow} {d : Definition} (hname : d.name = q.table)
    (hself : SameAt view view' q.table) (h : ∀ table ∈ d.parents, SameAt view view' table) :
    q.plan view d = q.plan view' d := by
  unfold plan
  cases d.checkRecord q.record with
  | error e => rfl
  | ok fields =>
    have hnew : d.checkNew view fields = d.checkNew view' fields :=
      Definition.checkNew_congr (by rw [hname, hself.records]) h
    simp only [hnew]

theorem UpdateRows.plan_congr {q : UpdateRows} {d : Definition} {assigned : List (Nat × String)}
    (hself : SameAt view view' q.table) (h : ∀ table ∈ d.parents, SameAt view view' table) :
    q.plan view d assigned = q.plan view' d assigned := by
  unfold plan
  rw [hself.records]
  simp only [checkChanged_congr h]

theorem DeleteRows.plan_congr {q : DeleteRows} {d : Definition} (hself : SameAt view view' q.table) :
    q.plan view d = q.plan view' d := by
  unfold plan
  rw [hself.records]

theorem CreateTable.plan_congr {q : CreateTable} {columns : List Column}
    (h : view.schema q.table = view'.schema q.table) : q.plan view columns = q.plan view' columns := by
  unfold plan
  rw [h]

namespace SelectRows
variable {role : String} {current : Relation} {joins : List Join}

theorem readTable_congr {table : String} (h : SameAt view view' table) :
    readTable view role table = readTable view' role table := by
  unfold readTable
  rw [open_congr h.schema, h.records]

theorem joinAll_congr
    (h : ∀ j ∈ joins, readTable view role j.table = readTable view' role j.table) :
    joinAll view role current joins = joinAll view' role current joins := by
  induction joins generalizing current with
  | nil => rfl
  | cons j rest ih =>
    rw [joinAll, joinAll, h j List.mem_cons_self]
    cases readTable view' role j.table with
    | error e => rfl
    | ok target => exact ih fun j' hj' => h j' (List.mem_cons_of_mem j hj')

end SelectRows

namespace Command
variable {caller : Caller} {plan : Plan}

/-- A selection reads its tables from left to right, and of each only what the role may read. -/
theorem planned_select_eq (q : SelectRows) :
    (select q).planned view caller =
      match SelectRows.readTable view caller.role q.table with
      | .error e => .error e
      | .ok rows =>
        match SelectRows.joinAll view caller.role rows q.joins with
        | .error e => .error e
        | .ok joined => (q.result joined).map fun result => ⟨[], .rows result⟩ := by
  simp only [planned, task, SelectRows.task, SelectRows.readTable]
  cases view.open q.table caller.role .read with
  | error e => rfl
  | ok d =>
    simp only [SelectRows.plan]
    cases view.records q.table with
    | error e => rfl
    | ok records => cases Relation.ofTable d records <;> rfl

theorem planned_select_congr {q : SelectRows}
    (hself : SelectRows.readTable view caller.role q.table = SelectRows.readTable view' caller.role q.table)
    (hjoins : ∀ j ∈ q.joins,
      SelectRows.readTable view caller.role j.table = SelectRows.readTable view' caller.role j.table) :
    (select q).planned view caller = (select q).planned view' caller := by
  rw [planned_select_eq, planned_select_eq, hself]
  cases SelectRows.readTable view' caller.role q.table with
  | error e => rfl
  | ok rows => simp only [SelectRows.joinAll_congr hjoins]

/-- Every edit is of the table of the command. That table has no definition yet, or the role may write
it. -/
theorem planned_target {command : Command} (h : command.planned view caller = .ok plan) {edit : Edit}
    (hedit : edit ∈ plan.edits) :
    edit.table = command.table ∧ command.verb ≠ "SELECT" ∧
      (view.schema command.table = .ok none ∨ ∃ d, view.open command.table caller.role .write = .ok d) := by
  cases command with
  | create q =>
    obtain ⟨columns, -, -, hschema, rfl⟩ := planned_create.mp h
    refine ⟨?_, show "CREATE" ≠ "SELECT" by decide, .inl hschema⟩
    simp only [List.mem_cons, List.not_mem_nil, or_false] at hedit
    rcases hedit with rfl | rfl <;> rfl
  | insert q =>
    obtain ⟨d, fields, hopen, -, -, rfl⟩ := planned_insert.mp h
    refine ⟨?_, show "INSERT" ≠ "SELECT" by decide, .inr ⟨d, hopen⟩⟩
    rw [List.mem_singleton.mp hedit]
    rfl
  | select q =>
    obtain ⟨d, records, rows, joined, result, -, -, -, -, -, rfl⟩ := planned_select.mp h
    cases hedit
  | update q =>
    obtain ⟨d, assigned, records, updated, hopen, -, -, -, -, rfl⟩ := planned_update.mp h
    refine ⟨?_, show "UPDATE" ≠ "SELECT" by decide, .inr ⟨d, hopen⟩⟩
    dsimp only at hedit
    split at hedit
    · cases hedit
    · rw [List.mem_singleton.mp hedit]
      rfl
  | delete q =>
    obtain ⟨d, records, hopen, -, -, rfl⟩ := planned_delete.mp h
    refine ⟨?_, show "DELETE" ≠ "SELECT" by decide, .inr ⟨d, hopen⟩⟩
    dsimp only at hedit
    split at hedit
    · cases hedit
    · rw [List.mem_singleton.mp hedit]
      rfl

end Command

end

/-! ### Edits in memory -/

namespace Memory
variable {m m' : Memory} {database table : String} {key : String × String} {edits : List Edit}

/-- What a store holds for a table of a database: its definition and its records. -/
def stored (m : Memory) (key : String × String) : Option String × Option (List String) :=
  (m.schemas.get? key, m.records.get? key)

theorem stored_edit (edit : Edit) :
    (Storage.edit m database edit).2.stored key =
      if key = (database, edit.table) then
        (edit.schemaAfter (m.schemas.get? key), edit.recordsAfter (m.records.get? key))
      else m.stored key := by
  rw [stored, schemas_edit, records_edit]
  split <;> rfl

theorem edit_congr {edit : Edit} (h : m.stored (database, edit.table) = m'.stored (database, edit.table)) :
    (Storage.edit m database edit).1 = (Storage.edit m' database edit).1 ∧
      (Storage.edit m database edit).2.stored (database, edit.table) =
        (Storage.edit m' database edit).2.stored (database, edit.table) := by
  obtain ⟨hschemas, hrecords⟩ := Prod.mk.inj h
  constructor
  · show (m.edit database edit).1 = (m'.edit database edit).1
    cases edit with
    | define table document => rfl
    | provision table =>
      rw [Edit.table] at hrecords
      simp only [Memory.edit, hrecords]
      cases m'.records.get? (database, table) <;> rfl
    | append table record =>
      rw [Edit.table] at hrecords
      simp only [Memory.edit, hrecords]
      cases m'.records.get? (database, table) <;> rfl
    | replace table records => rfl
  · rw [stored_edit, stored_edit, if_pos rfl, if_pos rfl, hschemas, hrecords]

/-- Edits of one table leave the others as they are. -/
theorem commit_frame (h : ∀ edit ∈ edits, edit.table = table) (hkey : key ≠ (database, table)) :
    (Storage.commit m database edits).2.stored key = m.stored key := by
  induction edits generalizing m with
  | nil => rfl
  | cons edit rest ih =>
    have hstep : (Storage.edit m database edit).2.stored key = m.stored key := by
      rw [stored_edit, if_neg]
      rwa [h edit List.mem_cons_self]
    rw [Storage.commit_cons_eq]
    cases (Storage.edit m database edit).1 with
    | error fault => exact hstep
    | ok u => exact (ih fun e he => h e (List.mem_cons_of_mem edit he)).trans hstep

/-- What edits of one table do depends on that table alone. -/
theorem commit_congr (h : ∀ edit ∈ edits, edit.table = table)
    (hsame : m.stored (database, table) = m'.stored (database, table)) :
    (Storage.commit m database edits).1 = (Storage.commit m' database edits).1 ∧
      (Storage.commit m database edits).2.stored (database, table) =
        (Storage.commit m' database edits).2.stored (database, table) := by
  induction edits generalizing m m' with
  | nil => exact ⟨rfl, hsame⟩
  | cons edit rest ih =>
    have htable := h edit List.mem_cons_self
    rw [← htable] at hsame
    obtain ⟨houtcome, hstored⟩ := edit_congr hsame
    rw [htable] at hstored
    rw [Storage.commit_cons_eq, Storage.commit_cons_eq, houtcome]
    cases (Storage.edit m' database edit).1 with
    | error fault => exact ⟨rfl, hstored⟩
    | ok u => exact ih (fun e he => h e (List.mem_cons_of_mem edit he)) hstored

/-- Edits of records leave all definitions as they are. -/
theorem commit_schemas (h : ∀ edit ∈ edits, edit.changesRecords = true) (key : String × String) :
    (Storage.commit m database edits).2.schemas.get? key = m.schemas.get? key := by
  induction edits generalizing m with
  | nil => rfl
  | cons edit rest ih =>
    have hstep : (Storage.edit m database edit).2.schemas.get? key = m.schemas.get? key := by
      rw [schemas_edit]
      cases edit with
      | define table document => exact absurd (h _ List.mem_cons_self) (by simp [Edit.changesRecords])
      | _ => simp [Edit.schemaAfter]
    rw [Storage.commit_cons_eq]
    cases (Storage.edit m database edit).1 with
    | error fault => exact hstep
    | ok u => exact (ih fun e he => h e (List.mem_cons_of_mem edit he)).trans hstep

theorem snapshot_records_congr (h : m.records.get? (database, table) = m'.records.get? (database, table)) :
    (Storage.snapshot m database).records table = (Storage.snapshot m' database).records table := by
  show (m.snapshot database).records table = (m'.snapshot database).records table
  simp only [snapshot, h]

theorem sameAt_of_stored (h : m.stored (database, table) = m'.stored (database, table)) :
    (Storage.snapshot m database).SameAt (Storage.snapshot m' database) table := by
  obtain ⟨hschemas, hrecords⟩ := Prod.mk.inj h
  exact ⟨by rw [snapshot_schema, snapshot_schema, hschemas], snapshot_records_congr hrecords⟩

/-- What a plan changes is the table of its command. That table had no definition, or the role may write
it. -/
theorem plan_changes {caller : Caller} {command : Command} {plan : Plan}
    (hplan : command.planned (Storage.snapshot m caller.database) caller = .ok plan)
    (h : (Storage.commit m caller.database plan.edits).2.stored key ≠ m.stored key) :
    key = (caller.database, command.table) ∧ command.verb ≠ "SELECT" ∧
      ((Storage.snapshot m caller.database).schema command.table = .ok none ∨
        ∃ d, (Storage.snapshot m caller.database).open command.table caller.role .write = .ok d) := by
  have hkey : key = (caller.database, command.table) := by
    by_contra hother
    exact h (commit_frame (fun edit hedit => (Command.planned_target hplan hedit).1) hother)
  refine ⟨hkey, ?_⟩
  cases hedits : plan.edits with
  | nil =>
    rw [hedits] at h
    exact absurd rfl h
  | cons edit rest =>
    have hedit : edit ∈ plan.edits := by simp [hedits]
    exact (Command.planned_target hplan hedit).2

end Memory

end Leuit
