import Leuit.Proofs.Files
import Leuit.Proofs.Runs
import Leuit.Store.Directory

/-! A command on the records of a table either succeeds or leaves no trace. All its checks precede its
one edit (`Command.planned_edits`), and that edit is of a table whose records could be read, where both
kinds of store fail without changing anything (`AtomicStorage`). -/
namespace Leuit
open Outcome

/-! ### Edits of records -/

/-- Whether an edit changes records that are there. -/
def Edit.changesRecords : Edit → Bool
  | define _ _ | provision _ => false
  | append _ _ | replace _ _ => true

/-- A store in which an edit of records that could be read succeeds or changes nothing. -/
class AtomicStorage (σ : Type) [Storage σ] : Prop where
  keeps : ∀ (store : σ) (database : String) (edit : Edit) (records : List String) (fault : QueryError),
    edit.changesRecords = true → (Storage.snapshot store database).records edit.table = .ok records →
    (Storage.edit store database edit).1 = .error fault → (Storage.edit store database edit).2 = store

/-- In memory such an edit does not fail. -/
instance : AtomicStorage Memory where
  keeps store database edit records fault hedit hrecords hfault := by
    rw [Memory.snapshot_records] at hrecords
    change (store.edit database edit).1 = _ at hfault
    cases edit with
    | define table document => cases hedit
    | provision table => cases hedit
    | append table record =>
      rw [Edit.table] at hrecords
      simp [Memory.edit, hrecords] at hfault
    | replace table records => cases hfault

namespace Directory
variable {d : Directory} {database table : String}

theorem readRecords_eq_ok {records : List String} :
    d.readRecords database table = .ok records ↔
      d.checkTable database table = .ok () ∧
        ∃ text, d.tree.read (d.file database table recordExtension) = .ok text ∧
          Text.lines text = records := by
  unfold readRecords
  cases d.checkTable database table with
  | error e => simp
  | ok u =>
    rcases d.tree.read (d.file database table recordExtension) with e | text
    · cases e <;> simp
    · simp

/-- Where the names are right, an edit is one of the tree of files. -/
theorem edit_of_checked {e : Edit} (h : d.checkTable database e.table = .ok ()) :
    d.edit database e = ((d.editFiles database e).1.mapError (editFault e),
      { d with tree := (d.editFiles database e).2 }) := by
  unfold edit
  rw [h]

/-- The files of a table whose records can be read are changed or left alone with all others. -/
theorem editFiles_of_read {e : Edit} {text : String} (he : e.changesRecords = true)
    (hread : d.tree.read (d.file database e.table recordExtension) = .ok text) :
    (∃ fault, d.editFiles database e = (.error fault, d.tree)) ∨ (d.editFiles database e).1 = .ok () := by
  cases e with
  | define table document => cases he
  | provision table => cases he
  | append table record =>
    rcases d.tree.append_cases (d.file database table recordExtension) (record ++ "\n") with
      ⟨fault, h⟩ | ⟨place, old, new, -, -, -, h⟩
    · exact .inl ⟨fault, h⟩
    · right
      rw [editFiles, h]
  | replace table records => exact FileTree.replace_of_read hread

end Directory

instance : AtomicStorage Directory where
  keeps store database edit records fault hedit hrecords hfault := by
    obtain ⟨hcheck, text, hread, -⟩ := Directory.readRecords_eq_ok.mp hrecords
    have hstep := Directory.edit_of_checked hcheck
    change (store.edit database edit).1 = _ at hfault
    show (store.edit database edit).2 = store
    rw [hstep] at hfault ⊢
    rcases Directory.editFiles_of_read hedit hread with ⟨cause, h⟩ | h
    · rw [h]
    · rw [h] at hfault
      cases hfault

/-! ### Commands -/

/-- What a command that creates nothing does to the store: at most one edit of the records it read. -/
theorem Command.planned_edits {command : Command} {view : Snapshot} {caller : Caller} {plan : Plan}
    (hcommand : command.verb ≠ "CREATE") (h : command.planned view caller = .ok plan) :
    plan.edits = [] ∨ ∃ edit records, plan.edits = [edit] ∧ edit.changesRecords = true ∧
      view.records edit.table = .ok records := by
  cases command with
  | create q => exact absurd rfl hcommand
  | insert q =>
    obtain ⟨d, fields, hopen, -, hnew, rfl⟩ := planned_insert.mp h
    obtain ⟨records, hrecords, -⟩ := Definition.checkNew_eq_ok.mp hnew
    rw [Snapshot.load_name (Snapshot.open_eq_ok.mp hopen).1] at hrecords
    exact .inr ⟨_, records, rfl, rfl, hrecords⟩
  | select q =>
    obtain ⟨d, records, rows, joined, result, -, -, -, -, -, rfl⟩ := planned_select.mp h
    exact .inl rfl
  | update q =>
    obtain ⟨d, assigned, records, updated, -, -, hrecords, -, -, rfl⟩ := planned_update.mp h
    by_cases hcount : updated.countP (·.changed) = 0
    · exact .inl (if_pos hcount)
    · exact .inr ⟨_, records, if_neg hcount, rfl, hrecords⟩
  | delete q =>
    obtain ⟨d, records, -, hrecords, -, rfl⟩ := planned_delete.mp h
    by_cases hcount : (Record.rows records).countP (d.picks q.conditions) = 0
    · exact .inl (if_pos hcount)
    · exact .inr ⟨_, records, if_neg hcount, rfl, hrecords⟩

namespace Engine
variable {σ : Type} [Storage σ]

/-- What a query that creates nothing does to the store: nothing at all if it fails or selects. -/
structure Atomic (e : Engine σ) (caller : Caller) (query : String) : Prop where
  failed : ∀ command fault, Command.ofText query = .ok command → command.verb ≠ "CREATE" →
    (e.execute caller query).1 = .error fault → (e.execute caller query).2.store = e.store
  selected : ∀ q, Command.ofText query = .ok (.select q) → (e.execute caller query).2.store = e.store

theorem run_failed [AtomicStorage σ] {e : Engine σ} {caller : Caller} {command : Command}
    {fault : QueryError} (hcommand : command.verb ≠ "CREATE")
    (h : (e.run caller command).1 = .error fault) : (e.run caller command).2.store = e.store := by
  cases hp : command.planned (Storage.snapshot e.store caller.database) caller with
  | error refusal => exact (run_of_refused hp).2
  | ok plan =>
    obtain ⟨hanswer, hstore⟩ := run_of_planned hp
    rw [h, eq_comm, map_eq_error] at hanswer
    rw [hstore]
    rcases Command.planned_edits hcommand hp with hnone | ⟨edit, records, hone, hedit, hrecords⟩
    · rw [hnone] at hanswer ⊢
      cases hanswer
    · rw [hone, Storage.commit_single] at hanswer ⊢
      exact AtomicStorage.keeps _ _ _ _ _ hedit hrecords hanswer

theorem run_select {e : Engine σ} {caller : Caller} {q : SelectRows} :
    (e.run caller (.select q)).2.store = e.store := by
  cases hp : (Command.select q).planned (Storage.snapshot e.store caller.database) caller with
  | error refusal => exact (run_of_refused hp).2
  | ok plan =>
    rw [(run_of_planned hp).2]
    obtain ⟨d, records, rows, joined, result, -, -, -, -, -, rfl⟩ := Command.planned_select.mp hp
    rfl

theorem atomic_of_storage [AtomicStorage σ] (e : Engine σ) (caller : Caller) (query : String) :
    e.Atomic caller query := by
  constructor
  · intro command fault hc hcommand h
    rw [execute_of_ofText hc] at h ⊢
    exact run_failed hcommand h
  · intro q hc
    rw [execute_of_ofText hc]
    exact run_select

/-- **Commands on records leave no trace when they fail, and selections never do.** This holds of a
store in memory whatever it holds, and of a folder whatever is in it: folders in place of files and files that
hold no text or may not be opened too. -/
theorem failed_command_keeps_store :
    (∀ (e : Engine Memory) caller query, e.Atomic caller query) ∧
      ∀ (e : Engine Directory) caller query, e.Atomic caller query :=
  ⟨fun e caller query => e.atomic_of_storage caller query,
    fun e caller query => e.atomic_of_storage caller query⟩

/-- Bytes that no text starts with. -/
def strayBytes : Content := .foreign ⟨#[255, 254]⟩ (by decide +kernel)

/-- A data folder in which someone put a folder where the temporary file of a table is written, and wrote
something else than text in place of the records of another. -/
def blockedTable : Directory where
  root := ⟨"data"⟩
  tree := FileTree.empty
    |>.put ["data"] .folder
    |>.put ["data", "db_kantor"] .folder
    |>.put ["data", "db_kantor", "t.schema"] (.file "id:INT\nuser=read,write\n")
    |>.put ["data", "db_kantor", "t.mg"] (.file "1\n2\n")
    |>.put ["data", "db_kantor", "t.tmp"] .folder
    |>.put ["data", "db_kantor", "u.schema"] (.file "id:INT\nuser=read,write\n")
    |>.put ["data", "db_kantor", "u.mg"] (.file strayBytes)

theorem failed_command_keeps_store_blocked :
    let caller : Caller := ⟨"asep", "user", "kantor"⟩
    (((ofStore blockedTable).execute caller "MICEUN TI t").1 = .error (Directory.faultOf .isFolder) ∧
        ((ofStore blockedTable).execute caller "MICEUN TI t").2.store = blockedTable) ∧
      ((ofStore blockedTable).execute caller "SIMPEN u 1").1 = .error (Directory.faultOf .noText) ∧
        ((ofStore blockedTable).execute caller "SIMPEN u 1").2.store = blockedTable := by
  intro caller
  have hdeletes : Command.ofText "MICEUN TI t" = .ok (.delete ⟨"t", []⟩) := by decide +kernel
  have hinserts : Command.ofText "SIMPEN u 1" = .ok (.insert ⟨"u", "1"⟩) := by decide +kernel
  have hfolder : ((ofStore blockedTable).execute caller "MICEUN TI t").1 =
      .error (Directory.faultOf .isFolder) := by
    decide +kernel
  have hbytes : ((ofStore blockedTable).execute caller "SIMPEN u 1").1 =
      .error (Directory.faultOf .noText) := by
    decide +kernel
  exact ⟨⟨hfolder, (failed_command_keeps_store.2 (ofStore blockedTable) _ _).failed _ _ hdeletes
      (by decide) hfolder⟩,
    hbytes, (failed_command_keeps_store.2 (ofStore blockedTable) _ _).failed _ _ hinserts (by decide) hbytes⟩

end Engine

end Leuit
