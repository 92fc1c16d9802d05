import Leuit.Engine.Basic
import Leuit.Proofs.Columns
import Leuit.Proofs.Constraints

/-! What each command plans. A command either fails while it is planned, and then the store stays as it
is, or its plan is carried out on the store as it was seen (`Engine.run_of_refused`,
`Engine.run_of_planned`). For each command one lemma says all that holds of it once it has a plan, so
that no later proof opens a task again. -/
namespace Leuit
open Outcome

/-! ### Opening a table -/

namespace Snapshot
variable {view : Snapshot} {table role : String} {action : Action} {d : Definition}

theorem load_eq_ok :
    view.load table = .ok d ↔
      ∃ document, view.schema table = .ok (some document) ∧ Definition.decode table document = .ok d := by
  unfold load
  split <;> simp_all

theorem load_name (h : view.load table = .ok d) : d.name = table := by
  obtain ⟨document, _, hd⟩ := load_eq_ok.mp h
  exact Definition.decode_name hd

theorem open_eq_ok :
    view.open table role action = .ok d ↔
      view.load table = .ok d ∧ d.permissions.allows role action = true := by
  unfold Snapshot.open
  split
  · next e he => simp [he]
  · next d' hd' =>
    unfold Definition.require
    by_cases ha : d'.permissions.allows role action = true
    · simp only [ha, if_true, Except.map, hd', Except.ok.injEq]
      exact ⟨fun h => ⟨h, h ▸ ha⟩, fun h => h.1⟩
    · constructor
      · intro h
        simp [ha, Except.map] at h
      · rintro ⟨h, hd⟩
        cases hd'.symm.trans h
        exact absurd hd ha

end Snapshot

/-! ### Picking rows -/

/-- Whether a chain of conditions holds for a stored record. -/
def Definition.picks (d : Definition) (conditions : List Condition) (record : String) : Bool :=
  d.matchesAll (Record.fields record) conditions

theorem DeleteRows.mapM_deletes_eq_ok {q : DeleteRows} {d : Definition} {rows : List String}
    {marks : List Bool} :
    rows.mapM (q.deletes d) = .ok marks ↔
      (∀ r ∈ rows, (Record.fields r).length = d.columns.length) ∧
        marks = rows.map (d.picks q.conditions) := by
  unfold deletes
  rw [mapM_map_each, map_eq_ok]
  constructor
  · rintro ⟨read, hread, rfl⟩
    obtain ⟨harity, rfl⟩ := Definition.mapM_fieldsOf_eq_ok.mp hread
    exact ⟨harity, List.map_map⟩
  · rintro ⟨harity, rfl⟩
    exact ⟨_, Definition.mapM_fieldsOf_eq_ok.mpr ⟨harity, rfl⟩, List.map_map⟩

/-- The rows that are not marked, when each is marked by a test. -/
theorem DeleteRows.kept_eq {α : Type} (p : α → Bool) (rows : List α) :
    (((rows.zip (rows.map p)).filter (!·.2)).map (·.1)) = rows.filter (!p ·) := by
  induction rows with
  | nil => rfl
  | cons r rows ih => cases hp : p r <;> simp [hp, ih]

/-! ### Plans -/

namespace Command
variable {view : Snapshot} {caller : Caller} {plan : Plan}

/-- The plan of a command, or why it has none. -/
def planned (c : Command) (view : Snapshot) (caller : Caller) : Except QueryError Plan :=
  match c.task view caller with
  | .error e => .error e
  | .ok task => task.plan

theorem planned_create {q : CreateTable} :
    (create q).planned view caller = .ok plan ↔
      ∃ columns, Definition.checkName "table" q.table = .ok () ∧
        Column.listOfText q.columns = .ok columns ∧ view.schema q.table = .ok none ∧
        plan = ⟨[.define q.table (Definition.encode ⟨q.table, columns, q.permissions.getD .standard⟩),
          .provision q.table], .created q.table⟩ := by
  simp only [planned, task, CreateTable.task]
  cases Definition.checkName "table" q.table with
  | error e => simp
  | ok u =>
    cases Column.listOfText q.columns with
    | error e => simp [Except.map]
    | ok columns =>
      simp only [Except.map, CreateTable.plan]
      rcases view.schema q.table with e | _ | document <;> simp [eq_comm]

theorem planned_insert {q : InsertRow} :
    (insert q).planned view caller = .ok plan ↔
      ∃ d fields, view.open q.table caller.role .write = .ok d ∧ d.checkRecord q.record = .ok fields ∧
        d.checkNew view fields = .ok () ∧ plan = ⟨[.append q.table q.record], .inserted q.table⟩ := by
  simp only [planned, task, InsertRow.task]
  cases view.open q.table caller.role .write with
  | error e => simp [Except.map]
  | ok d =>
    simp only [Except.map, InsertRow.plan]
    cases hr : d.checkRecord q.record with
    | error e => simp [hr]
    | ok fields => cases hn : d.checkNew view fields <;> simp [hr, hn, eq_comm]

theorem planned_select {q : SelectRows} :
    (select q).planned view caller = .ok plan ↔
      ∃ d records rows joined result, view.open q.table caller.role .read = .ok d ∧
        view.records q.table = .ok records ∧ Relation.ofTable d records = .ok rows ∧
        SelectRows.joinAll view caller.role rows q.joins = .ok joined ∧ q.result joined = .ok result ∧
        plan = ⟨[], .rows result⟩ := by
  simp only [planned, task, SelectRows.task]
  cases view.open q.table caller.role .read with
  | error e => simp
  | ok d =>
    simp only [SelectRows.plan]
    cases view.records q.table with
    | error e => simp
    | ok records =>
      cases ht : Relation.ofTable d records with
      | error e => simp [ht]
      | ok rows =>
        cases hj : SelectRows.joinAll view caller.role rows q.joins with
        | error e => simp [ht, hj]
        | ok joined => cases hr : q.result joined <;> simp [Except.map, ht, hj, hr, eq_comm]

theorem planned_update {q : UpdateRows} :
    (update q).planned view caller = .ok plan ↔
      ∃ d assigned records updated, view.open q.table caller.role .write = .ok d ∧
        q.positions d q.assignments = .ok assigned ∧ view.records q.table = .ok records ∧
        (Record.rows records).mapM (q.update d assigned) = .ok updated ∧
        UpdateRows.checkChanged d view [] updated = .ok () ∧
        plan = ⟨if updated.countP (·.changed) = 0 then [] else
          [.replace q.table (updated.map (·.record))], .updated (updated.countP (·.changed))⟩ := by
  simp only [planned, task, UpdateRows.task]
  cases view.open q.table caller.role .write with
  | error e => simp
  | ok d =>
    cases ha : q.positions d q.assignments with
    | error e => simp [ha, Except.map]
    | ok assigned =>
      simp only [ha, Except.map, UpdateRows.plan]
      cases view.records q.table with
      | error e => simp
      | ok records =>
        cases hu : (Record.rows records).mapM (q.update d assigned) with
        | error e => simp [ha, hu]
        | ok updated =>
          cases hc : UpdateRows.checkChanged d view [] updated <;> simp [ha, hu, hc, eq_comm]

theorem planned_delete {q : DeleteRows} :
    (delete q).planned view caller = .ok plan ↔
      ∃ d records, view.open q.table caller.role .write = .ok d ∧
        view.records q.table = .ok records ∧
        (∀ r ∈ Record.rows records, (Record.fields r).length = d.columns.length) ∧
        plan = ⟨if (Record.rows records).countP (d.picks q.conditions) = 0 then [] else
          [.replace q.table ((Record.rows records).filter (!d.picks q.conditions ·))],
          .deleted ((Record.rows records).countP (d.picks q.conditions))⟩ := by
  simp only [planned, task, DeleteRows.task]
  cases view.open q.table caller.role .write with
  | error e => simp [Except.map]
  | ok d =>
    simp only [Except.map, DeleteRows.plan]
    cases view.records q.table with
    | error e => simp
    | ok records =>
      cases hm : (Record.rows records).mapM (q.deletes d) with
      | error e =>
        simp only [Except.ok.injEq, exists_and_left, exists_eq_left', hm, reduceCtorEq, false_iff]
        rintro ⟨harity, _⟩
        rw [DeleteRows.mapM_deletes_eq_ok.mpr ⟨harity, rfl⟩] at hm
        cases hm
      | ok marks =>
        obtain ⟨harity, rfl⟩ := DeleteRows.mapM_deletes_eq_ok.mp hm
        have hkept := DeleteRows.kept_eq (d.picks q.conditions) (Record.rows records)
        have hcount : ((Record.rows records).map (d.picks q.conditions)).countP id =
            (Record.rows records).countP (d.picks q.conditions) := List.countP_map ..
        simp only [Except.ok.injEq, exists_and_left, exists_eq_left', hm, hkept, hcount]
        exact ⟨fun h => ⟨harity, h.symm⟩, fun h => h.2.symm⟩

end Command

/-! ### Running -/

namespace Engine
variable {σ : Type} [Storage σ] {e : Engine σ} {caller : Caller} {command : Command}

/-- A command without plan fails and leaves the store alone. -/
theorem run_of_refused {fault : QueryError}
    (h : command.planned (Storage.snapshot e.store caller.database) caller = .error fault) :
    (e.run caller command).1 = .error fault ∧ (e.run caller command).2.store = e.store := by
  unfold Command.planned at h
  unfold run
  cases ht : command.task (Storage.snapshot e.store caller.database) caller with
  | error refused =>
    rw [ht] at h
    cases h
    exact ⟨rfl, rfl⟩
  | ok task =>
    rw [ht] at h
    dsimp only at h ⊢
    rw [h]
    exact ⟨rfl, rfl⟩

/-- A command with a plan gives its answer if the edits succeed, and the store is what they leave. -/
theorem run_of_planned {plan : Plan}
    (h : command.planned (Storage.snapshot e.store caller.database) caller = .ok plan) :
    (e.run caller command).1 =
        (Storage.commit e.store caller.database plan.edits).1.map (fun _ => plan.answer) ∧
      (e.run caller command).2.store = (Storage.commit e.store caller.database plan.edits).2 := by
  unfold Command.planned at h
  unfold run
  cases ht : command.task (Storage.snapshot e.store caller.database) caller with
  | error refused =>
    rw [ht] at h
    cases h
  | ok task =>
    rw [ht] at h
    dsimp only at h ⊢
    rw [h]
    exact ⟨rfl, rfl⟩

/-- A command that succeeds had a plan, which was carried out. -/
theorem run_eq_ok {answer : Answer} (h : (e.run caller command).1 = .ok answer) :
    ∃ plan, command.planned (Storage.snapshot e.store caller.database) caller = .ok plan ∧
      Storage.commit e.store caller.database plan.edits = (.ok (), (e.run caller command).2.store) ∧
      answer = plan.answer := by
  cases hp : command.planned (Storage.snapshot e.store caller.database) caller with
  | error fault =>
    rw [(run_of_refused hp).1] at h
    cases h
  | ok plan =>
    obtain ⟨hanswer, hstore⟩ := run_of_planned hp
    rw [h] at hanswer
    obtain ⟨u, hu, ha⟩ := map_eq_ok.mp hanswer.symm
    exact ⟨plan, rfl, Prod.ext hu hstore.symm, ha.symm⟩

theorem execute_of_ofText {query : String} {command : Command} (h : Command.ofText query = .ok command) :
    e.execute caller query = e.run caller command := by
  unfold execute
  rw [h]

/-- A query that succeeds spells a command that does. -/
theorem execute_eq_ok {query : String} {answer : Answer} (h : (e.execute caller query).1 = .ok answer) :
    ∃ command, Command.ofText query = .ok command ∧ e.execute caller query = e.run caller command := by
  unfold execute at h ⊢
  split at h
  · cases h
  · next command hc => exact ⟨command, hc, rfl⟩

end Engine

end Leuit
