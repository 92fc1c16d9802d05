import Leuit.Proofs.Commands
import Leuit.Store.Memory

/-! Runs of the engine, and what edits do to a store in memory. A run executes queries of any callers one
after the other, whether they succeed or not; what every plan keeps, every run keeps
(`Engine.executeAll_keeps`). An edit is known by what it makes of the definition and of the records of
its table; no other table is touched (`Memory.schemas_edit`, `Memory.records_edit`). -/
namespace Leuit

/-! ### Runs -/

namespace Engine
variable {σ : Type} [Storage σ]

/-- The engine after a list of queries, each with its caller. -/
def executeAll (e : Engine σ) (inputs : List (Caller × String)) : Engine σ :=
  inputs.foldl (fun e input => (e.execute input.1 input.2).2) e

theorem executeAll_cons (e : Engine σ) (input : Caller × String) (rest : List (Caller × String)) :
    e.executeAll (input :: rest) = (e.execute input.1 input.2).2.executeAll rest := by
  simp only [executeAll, List.foldl_cons]

theorem executeAll_append (e : Engine σ) (a b : List (Caller × String)) :
    e.executeAll (a ++ b) = (e.executeAll a).executeAll b := by
  simp only [executeAll, List.foldl_append]

/-- What a command does to the store is nothing, or what the edits of its plan do. -/
theorem run_store (e : Engine σ) (caller : Caller) (command : Command) :
    (e.run caller command).2.store = e.store ∨
      ∃ plan, command.planned (Storage.snapshot e.store caller.database) caller = .ok plan ∧
        (e.run caller command).2.store = (Storage.commit e.store caller.database plan.edits).2 := by
  cases hp : command.planned (Storage.snapshot e.store caller.database) caller with
  | error fault => exact .inl (run_of_refused hp).2
  | ok plan => exact .inr ⟨plan, rfl, (run_of_planned hp).2⟩

/-- What a query does to the store is nothing, or what the edits of a plan do. -/
theorem execute_store (e : Engine σ) (caller : Caller) (query : String) :
    (e.execute caller query).2.store = e.store ∨
      ∃ (command : Command) (plan : Plan),
        command.planned (Storage.snapshot e.store caller.database) caller = .ok plan ∧
        (e.execute caller query).2.store =
          (Storage.commit e.store caller.database plan.edits).2 := by
  unfold execute
  split
  · exact .inl rfl
  · next command _ =>
    obtain hstore | ⟨plan, hplan, hstore⟩ := e.run_store caller command
    · exact .inl hstore
    · exact .inr ⟨command, plan, hplan, hstore⟩

/-- A property of stores that every plan keeps holds along every run. -/
theorem executeAll_keeps {P : σ → Prop}
    (hplan : ∀ (store : σ) (caller : Caller) (command : Command) (plan : Plan), P store →
      command.planned (Storage.snapshot store caller.database) caller = .ok plan →
      P (Storage.commit store caller.database plan.edits).2)
    {e : Engine σ} (h : P e.store) (inputs : List (Caller × String)) :
    P (e.executeAll inputs).store := by
  induction inputs generalizing e with
  | nil => exact h
  | cons input rest ih =>
    rw [executeAll_cons]
    apply ih
    obtain hstore | ⟨command, plan, hp, hstore⟩ := e.execute_store input.1 input.2
    · rw [hstore]
      exact h
    · rw [hstore]
      exact hplan e.store input.1 command plan h hp

end Engine

/-! ### Committing -/

namespace Storage
variable {σ : Type} [Storage σ] (store : σ) (database : String)

/-- The first edit decides whether the others follow. -/
theorem commit_cons_eq (edit : Edit) (rest : List Edit) :
    commit store database (edit :: rest) =
      match (Storage.edit store database edit).1 with
      | .ok () => commit (Storage.edit store database edit).2 database rest
      | .error fault => (.error fault, (Storage.edit store database edit).2) := by
  rw [commit]
  rcases Storage.edit store database edit with ⟨fault | _, after⟩ <;> rfl

/-- After an edit that succeeds the others follow. -/
theorem commit_cons {edit : Edit} (rest : List Edit)
    (h : (Storage.edit store database edit).1 = .ok ()) :
    commit store database (edit :: rest) = commit (Storage.edit store database edit).2 database rest := by
  rw [commit_cons_eq, h]

theorem commit_cons_eq_ok {edit : Edit} {rest : List Edit}
    (h : (commit store database (edit :: rest)).1 = .ok ()) :
    (Storage.edit store database edit).1 = .ok () ∧
      (commit (Storage.edit store database edit).2 database rest).1 = .ok () := by
  rw [commit_cons_eq] at h
  cases hedit : (Storage.edit store database edit).1 with
  | ok u => exact ⟨rfl, by rwa [hedit] at h⟩
  | error fault =>
    rw [hedit] at h
    cases h

@[simp] theorem commit_single (edit : Edit) :
    commit store database [edit] = Storage.edit store database edit := by
  rw [commit_cons_eq]
  rcases Storage.edit store database edit with ⟨fault | _, after⟩ <;> rfl

end Storage

/-! ### Edits of a store in memory -/

/-- What an edit makes of the definition of its table. -/
def Edit.schemaAfter : Edit → Option String → Option String
  | define _ document, _ => some document
  | _, old => old

/-- What an edit makes of the records of its table. -/
def Edit.recordsAfter : Edit → Option (List String) → Option (List String)
  | define _ _, old => old
  | provision _, old => some (old.getD [])
  | append _ record, old => old.map (· ++ [record])
  | replace _ records, _ => some records

namespace Memory
variable (m : Memory) (database : String) (edit : Edit)

theorem schemas_edit (key : String × String) :
    (Storage.edit m database edit).2.schemas.get? key =
      if key = (database, edit.table) then edit.schemaAfter (m.schemas.get? key)
      else m.schemas.get? key := by
  show (m.edit database edit).2.schemas.get? key = _
  cases edit with
  | define table document => exact Keyed.get?_insert ..
  | provision table =>
    cases hr : m.records.get? (database, table) <;> simp [Memory.edit, hr, Edit.schemaAfter]
  | append table record =>
    cases hr : m.records.get? (database, table) <;> simp [Memory.edit, hr, Edit.schemaAfter]
  | replace table records => simp [Memory.edit, Edit.schemaAfter]

theorem records_edit (key : String × String) :
    (Storage.edit m database edit).2.records.get? key =
      if key = (database, edit.table) then edit.recordsAfter (m.records.get? key)
      else m.records.get? key := by
  show (m.edit database edit).2.records.get? key = _
  cases edit with
  | define table document => simp [Memory.edit, Edit.recordsAfter]
  | provision table =>
    by_cases hk : key = (database, table)
    · subst hk
      cases hr : m.records.get? (database, table) <;>
        simp [Memory.edit, hr, Edit.recordsAfter, Edit.table, Keyed.get?_insert]
    · cases hr : m.records.get? (database, table) <;>
        simp [Memory.edit, hr, Edit.table, Keyed.get?_insert, hk]
  | append table record =>
    by_cases hk : key = (database, table)
    · subst hk
      cases hr : m.records.get? (database, table) <;>
        simp [Memory.edit, hr, Edit.recordsAfter, Edit.table, Keyed.get?_insert]
    · cases hr : m.records.get? (database, table) <;>
        simp [Memory.edit, hr, Edit.table, Keyed.get?_insert, hk]
  | replace table records => exact Keyed.get?_insert ..

theorem snapshot_schema (table : String) :
    (Storage.snapshot m database).schema table = .ok (m.schemas.get? (database, table)) := rfl

theorem snapshot_records {table : String} {records : List String} :
    (Storage.snapshot m database).records table = .ok records ↔
      m.records.get? (database, table) = some records := by
  show (m.snapshot database).records table = .ok records ↔ _
  cases hr : m.records.get? (database, table) <;> simp [snapshot, hr]

end Memory

end Leuit
