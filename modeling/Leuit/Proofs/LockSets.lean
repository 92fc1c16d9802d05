import Leuit.Proofs.Footprints

/-! The locks of a command cover all it depends on and all it changes. A command locks its own table, for
writing unless it selects, and for reading the tables it joins or the tables its foreign keys refer to
(`Command.lockSet`). Its plan is the same wherever these tables are the same (`Command.planned_congr`), and
carrying it out touches its own table only (`Engine.run_changes`). So commands that share only tables
which both lock for reading may run in either order (`Engine.run_comm`). -/
namespace Leuit
open Outcome

/-! ### Lock sets -/

/-- The locks for reading that adding or changing rows of a table takes: one for each table that a foreign
key of its definition refers to. -/
def Snapshot.parentLocks (view : Snapshot) (table : String) : List LockRequest :=
  match view.load table with
  | .ok d => d.parents.names.map (⟨·, .read⟩)
  | .error _ => []

namespace Command
variable {view view' : Snapshot} {caller : Caller}

/-- The locks of a command, in its database. -/
def lockSet (view : Snapshot) : Command → List LockRequest
  | create q => [⟨q.table, .write⟩]
  | insert q => ⟨q.table, .write⟩ :: view.parentLocks q.table
  | select q => ⟨q.table, .read⟩ :: q.joins.map (⟨·.table, .read⟩)
  | update q => ⟨q.table, .write⟩ :: view.parentLocks q.table
  | delete q => [⟨q.table, .write⟩]

theorem writeLocks_of_open {table : String} {d : Definition}
    (h : view.open table caller.role .write = .ok d) :
    d.writeLocks = ⟨table, .write⟩ :: view.parentLocks table := by
  have hload := (Snapshot.open_eq_ok.mp h).1
  rw [Definition.writeLocks, Snapshot.parentLocks, hload, Snapshot.load_name hload]

/-- These are the locks of the task of a command. -/
theorem task_locks {command : Command} {task : Task} (h : command.task view caller = .ok task) :
    task.locks = command.lockSet view := by
  cases command with
  | create q =>
    simp only [Command.task, CreateTable.task] at h
    split at h
    · cases h
    · obtain ⟨columns, -, rfl⟩ := map_eq_ok.mp h
      rfl
  | insert q =>
    obtain ⟨d, hopen, rfl⟩ := map_eq_ok.mp h
    exact writeLocks_of_open hopen
  | select q =>
    simp only [Command.task, SelectRows.task] at h
    split at h
    · cases h
    · cases h
      rfl
  | update q =>
    simp only [Command.task, UpdateRows.task] at h
    split at h
    · cases h
    · next d hopen =>
      obtain ⟨assigned, -, rfl⟩ := map_eq_ok.mp h
      exact writeLocks_of_open hopen
  | delete q =>
    obtain ⟨d, hopen, rfl⟩ := map_eq_ok.mp h
    rfl

theorem target_mem_lockSet (command : Command) (view : Snapshot) :
    ∃ request ∈ command.lockSet view, request.table = command.table := by
  cases command <;> exact ⟨_, List.mem_cons_self, rfl⟩

theorem write_mem_lockSet {command : Command} (h : command.verb ≠ "SELECT") (view : Snapshot) :
    ⟨command.table, .write⟩ ∈ command.lockSet view := by
  cases command with
  | select q => exact absurd rfl h
  | _ => exact List.mem_cons_self

/-- **Where the locked tables are the same, so is the plan.** -/
theorem planned_congr {command : Command}
    (h : ∀ request ∈ command.lockSet view, view.SameAt view' request.table) :
    command.planned view caller = command.planned view' caller := by
  have hparents : ∀ {table : String} {d : Definition}, view.open table caller.role .write = .ok d →
      (∀ request ∈ view.parentLocks table, view.SameAt view' request.table) →
      ∀ parent ∈ d.parents, view.SameAt view' parent := by
    intro table d hopen hlocks parent hparent
    refine hlocks ⟨parent, .read⟩ ?_
    rw [Snapshot.parentLocks, (Snapshot.open_eq_ok.mp hopen).1]
    exact List.mem_map_of_mem hparent
  cases command with
  | create q =>
    have hself := h _ List.mem_cons_self
    simp only [planned, task, CreateTable.task, CreateTable.plan_congr hself.schema]
  | insert q =>
    obtain ⟨hself, hlocks⟩ := List.forall_mem_cons.mp h
    simp only [planned, task, InsertRow.task, ← Snapshot.open_congr hself.schema]
    cases hopen : view.open q.table caller.role .write with
    | error e => rfl
    | ok d =>
      have hname := Snapshot.load_name (Snapshot.open_eq_ok.mp hopen).1
      exact InsertRow.plan_congr hname hself (hparents hopen hlocks)
  | select q =>
    obtain ⟨hself, hlocks⟩ := List.forall_mem_cons.mp h
    refine planned_select_congr (SelectRows.readTable_congr hself) fun j hj => ?_
    exact SelectRows.readTable_congr (hlocks _ (List.mem_map_of_mem hj))
  | update q =>
    obtain ⟨hself, hlocks⟩ := List.forall_mem_cons.mp h
    simp only [planned, task, UpdateRows.task, ← Snapshot.open_congr hself.schema]
    cases hopen : view.open q.table caller.role .write with
    | error e => rfl
    | ok d => simp only [UpdateRows.plan_congr hself (hparents hopen hlocks)]
  | delete q =>
    have hself := h _ List.mem_cons_self
    simp only [planned, task, DeleteRows.task, ← Snapshot.open_congr hself.schema]
    cases view.open q.table caller.role .write with
    | error e => rfl
    | ok d => exact DeleteRows.plan_congr hself

end Command

/-! ### Running -/

namespace Engine
variable {e e' : Engine Memory} {caller caller' : Caller} {command command' : Command}
  {key : String × String}

/-- The locks of a command on the store as it is. -/
def lockSet (e : Engine Memory) (caller : Caller) (command : Command) : List LockRequest :=
  command.lockSet (Storage.snapshot e.store caller.database)

/-- Whether a command locks a table of some database. -/
def Locks (e : Engine Memory) (caller : Caller) (command : Command) (key : String × String) : Prop :=
  ∃ request ∈ e.lockSet caller command, key = (caller.database, request.table)

def WriteLocks (e : Engine Memory) (caller : Caller) (command : Command) (key : String × String) : Prop :=
  ∃ request ∈ e.lockSet caller command, request.mode = .write ∧ key = (caller.database, request.table)

theorem WriteLocks.locks (h : e.WriteLocks caller command key) : e.Locks caller command key := by
  obtain ⟨request, hrequest, -, hkey⟩ := h
  exact ⟨request, hrequest, hkey⟩

theorem writeLocks_target (e : Engine Memory) (caller : Caller) (h : command.verb ≠ "SELECT") :
    e.WriteLocks caller command (caller.database, command.table) :=
  ⟨_, Command.write_mem_lockSet h _, rfl, rfl⟩

theorem run_locks {task : Task}
    (h : command.task (Storage.snapshot e.store caller.database) caller = .ok task) :
    (e.run caller command).2.locks = e.locks.acquire caller.database (e.lockSet caller command) := by
  have hlocks : task.locks = e.lockSet caller command := Command.task_locks h
  unfold run
  rw [h, ← hlocks]
  dsimp only
  cases task.plan <;> rfl

/-- A command changes its own table only, and not even that if it selects. -/
theorem run_changes (h : (e.run caller command).2.store.stored key ≠ e.store.stored key) :
    key = (caller.database, command.table) ∧ command.verb ≠ "SELECT" := by
  obtain hstore | ⟨plan, hplan, hstore⟩ := e.run_store caller command
  · rw [hstore] at h
    exact absurd rfl h
  · rw [hstore] at h
    obtain ⟨hkey, hverb, -⟩ := Memory.plan_changes hplan h
    exact ⟨hkey, hverb⟩

theorem run_unchanged (e e' : Engine Memory) (h : ¬e'.WriteLocks caller command key) :
    (e.run caller command).2.store.stored key = e.store.stored key := by
  by_contra hchanged
  obtain ⟨rfl, hverb⟩ := run_changes hchanged
  exact h (writeLocks_target e' caller hverb)

theorem run_schemas (h : command.verb ≠ "CREATE") (key : String × String) :
    (e.run caller command).2.store.schemas.get? key = e.store.schemas.get? key := by
  obtain hstore | ⟨plan, hplan, hstore⟩ := e.run_store caller command
  · rw [hstore]
  · rw [hstore]
    refine Memory.commit_schemas (fun edit hedit => ?_) key
    rcases Command.planned_edits h hplan with hnone | ⟨found, records, hone, hchanges, -⟩
    · rw [hnone] at hedit
      cases hedit
    · rw [hone] at hedit
      rwa [List.mem_singleton.mp hedit]

/-- A command that creates nothing leaves every definition as it is read. -/
theorem run_load (h : command.verb ≠ "CREATE") (database table : String) :
    (Storage.snapshot (e.run caller command).2.store database).load table =
      (Storage.snapshot e.store database).load table := by
  apply Snapshot.load_congr
  rw [Memory.snapshot_schema, Memory.snapshot_schema, run_schemas h]

/-- What a command answers and does to the locked tables depends on them alone. -/
theorem run_congr (h : ∀ key, e.Locks caller command key → e.store.stored key = e'.store.stored key) :
    (e.run caller command).1 = (e'.run caller command).1 ∧
      ∀ key, e.Locks caller command key →
        (e.run caller command).2.store.stored key = (e'.run caller command).2.store.stored key := by
  have hplanned : command.planned (Storage.snapshot e.store caller.database) caller =
      command.planned (Storage.snapshot e'.store caller.database) caller :=
    Command.planned_congr fun request hrequest =>
      Memory.sameAt_of_stored (h _ ⟨request, hrequest, rfl⟩)
  cases hp : command.planned (Storage.snapshot e.store caller.database) caller with
  | error fault =>
    obtain ⟨hanswer, hstore⟩ := run_of_refused hp
    obtain ⟨hanswer', hstore'⟩ := run_of_refused (hplanned ▸ hp)
    refine ⟨hanswer.trans hanswer'.symm, fun key hkey => ?_⟩
    rw [hstore, hstore', h key hkey]
  | ok plan =>
    obtain ⟨hanswer, hstore⟩ := run_of_planned hp
    obtain ⟨hanswer', hstore'⟩ := run_of_planned (hplanned ▸ hp)
    have htarget : ∀ edit ∈ plan.edits, edit.table = command.table :=
      fun edit hedit => (Command.planned_target hp hedit).1
    have hself : e.Locks caller command (caller.database, command.table) := by
      obtain ⟨request, hrequest, htable⟩ :=
        command.target_mem_lockSet (Storage.snapshot e.store caller.database)
      exact ⟨request, hrequest, by rw [htable]⟩
    obtain ⟨houtcome, hstored⟩ := Memory.commit_congr htarget (h _ hself)
    rw [hanswer, hanswer', hstore, hstore', houtcome]
    refine ⟨rfl, fun key hkey => ?_⟩
    by_cases htable : key = (caller.database, command.table)
    · rw [htable]
      exact hstored
    · rw [Memory.commit_frame htarget htable, Memory.commit_frame htarget htable, h key hkey]

/-! ### Two commands -/

/-- Neither of two commands locks for writing what the other locks. -/
structure Independent (e : Engine Memory) (caller : Caller) (command : Command) (caller' : Caller)
    (command' : Command) : Prop where
  left : ∀ key, e.WriteLocks caller command key → ¬e.Locks caller' command' key
  right : ∀ key, e.WriteLocks caller' command' key → ¬e.Locks caller command key

theorem Independent.symm (h : e.Independent caller command caller' command') :
    e.Independent caller' command' caller command := ⟨h.right, h.left⟩

/-- Commands are independent if what both lock they lock for reading. -/
theorem independent_iff :
    e.Independent caller command caller' command' ↔
      ∀ request ∈ e.lockSet caller command, ∀ request' ∈ e.lockSet caller' command',
        (caller.database, request.table) = (caller'.database, request'.table) →
          request.mode = .read ∧ request'.mode = .read := by
  constructor
  · intro h request hrequest request' hrequest' hkey
    constructor
    · cases hmode : request.mode with
      | read => rfl
      | write => exact absurd ⟨request', hrequest', hkey⟩ (h.left _ ⟨request, hrequest, hmode, rfl⟩)
    · cases hmode : request'.mode with
      | read => rfl
      | write => exact absurd ⟨request, hrequest, hkey.symm⟩ (h.right _ ⟨request', hrequest', hmode, rfl⟩)
  · intro h
    constructor
    · rintro key ⟨request, hrequest, hmode, rfl⟩ ⟨request', hrequest', hkey⟩
      rw [(h request hrequest request' hrequest' hkey).1] at hmode
      cases hmode
    · rintro key ⟨request', hrequest', hmode, rfl⟩ ⟨request, hrequest, hkey⟩
      rw [(h request hrequest request' hrequest' hkey.symm).2] at hmode
      cases hmode

instance : Decidable (e.Independent caller command caller' command') :=
  decidable_of_iff _ independent_iff.symm

/-- A command answers as before after another that is independent of it, and does the same. -/
theorem run_after (h : e.Independent caller command caller' command') :
    ((e.run caller command).2.run caller' command').1 = (e.run caller' command').1 ∧
      ∀ key, e.Locks caller' command' key →
        ((e.run caller command).2.run caller' command').2.store.stored key =
          (e.run caller' command').2.store.stored key := by
  have hsame : ∀ key, e.Locks caller' command' key →
      e.store.stored key = (e.run caller command).2.store.stored key :=
    fun key hkey => (run_unchanged e e fun hwrite => h.left key hwrite hkey).symm
  obtain ⟨hanswer, hstored⟩ := run_congr hsame
  exact ⟨hanswer.symm, fun key hkey => (hstored key hkey).symm⟩

/-- Independent commands leave the same store in either order. -/
theorem run_comm (h : e.Independent caller command caller' command') (key : String × String) :
    ((e.run caller command).2.run caller' command').2.store.stored key =
      ((e.run caller' command').2.run caller command).2.store.stored key := by
  by_cases hfirst : e.Locks caller command key
  · -- the second command does not change a table that the first one locks
    rw [(run_after h.symm).2 key hfirst]
    exact run_unchanged _ e fun hwrite => h.right key hwrite hfirst
  · rw [run_unchanged (e.run caller' command').2 e fun hwrite => hfirst hwrite.locks]
    by_cases hsecond : e.Locks caller' command' key
    · exact (run_after h).2 key hsecond
    · rw [run_unchanged (e.run caller command).2 e fun hwrite => hsecond hwrite.locks,
        run_unchanged e e fun hwrite => hfirst hwrite.locks,
        run_unchanged e e fun hwrite => hsecond hwrite.locks]

/-! ### Covering -/

/-- The locks of a command cover it: the engine takes them, what the command does is decided by the locked
tables, and it changes at most the one it locks for writing. -/
structure Covered (caller : Caller) (command : Command) : Prop where
  taken : ∀ (e : Engine Memory) (task : Task),
    command.task (Storage.snapshot e.store caller.database) caller = .ok task →
    (e.run caller command).2.locks = e.locks.acquire caller.database (e.lockSet caller command)
  decides : ∀ e e' : Engine Memory,
    (∀ key, e.Locks caller command key → e.store.stored key = e'.store.stored key) →
    (e.run caller command).1 = (e'.run caller command).1 ∧
      ∀ key, e.Locks caller command key →
        (e.run caller command).2.store.stored key = (e'.run caller command).2.store.stored key
  confined : ∀ (e : Engine Memory) (key : String × String),
    (e.run caller command).2.store.stored key ≠ e.store.stored key →
    key = (caller.database, command.table) ∧ e.WriteLocks caller command key
  recordsOnly : command.verb ≠ "CREATE" → ∀ (e : Engine Memory) (key : String × String),
    (e.run caller command).2.store.schemas.get? key = e.store.schemas.get? key
  selection : command.verb = "SELECT" → ∀ e : Engine Memory, (e.run caller command).2.store = e.store

theorem covered (caller : Caller) (command : Command) : Covered caller command where
  taken e task h := run_locks h
  decides e e' h := run_congr h
  confined e key h := by
    obtain ⟨rfl, hverb⟩ := run_changes h
    exact ⟨rfl, writeLocks_target e caller hverb⟩
  recordsOnly h e key := run_schemas h key
  selection h e := by
    cases command with
    | select q => exact run_select
    | create q => exact absurd h (show "CREATE" ≠ "SELECT" by decide)
    | insert q => exact absurd h (show "INSERT" ≠ "SELECT" by decide)
    | update q => exact absurd h (show "UPDATE" ≠ "SELECT" by decide)
    | delete q => exact absurd h (show "DELETE" ≠ "SELECT" by decide)

/-- **The locks of every command cover it, so independent commands may run in either order.** Both
orders give the same two answers and leave the same definition and records for every table. -/
theorem locks_cover_commands :
    (∀ (caller : Caller) (command : Command), Covered caller command) ∧
      ∀ (e : Engine Memory) (caller : Caller) (command : Command) (caller' : Caller) (command' : Command),
        e.Independent caller command caller' command' →
        ((e.run caller' command').2.run caller command).1 = (e.run caller command).1 ∧
          ((e.run caller command).2.run caller' command').1 = (e.run caller' command').1 ∧
          ∀ key, ((e.run caller command).2.run caller' command').2.store.stored key =
            ((e.run caller' command').2.run caller command).2.store.stored key :=
  ⟨covered, fun _ _ _ _ _ h => ⟨(run_after h.symm).1, (run_after h).1, run_comm h⟩⟩

/-- Two tables that refer to a third. -/
def shelves : Memory where
  schemas := ⟨[(("kantor", "rak"), "v:INT\n"), (("kantor", "buku"), "a:INT:FK(rak.v)\n"),
    (("kantor", "peta"), "a:INT:FK(rak.v)\n")]⟩
  records := ⟨[(("kantor", "rak"), ["1"]), (("kantor", "buku"), []), (("kantor", "peta"), [])]⟩

theorem locks_cover_commands_shelves :
    let e := ofStore shelves
    let clerk : Caller := ⟨"asep", superRole, "kantor"⟩
    let book := Command.insert ⟨"buku", "1"⟩
    let map := Command.insert ⟨"peta", "1"⟩
    e.Independent clerk book clerk map ∧ (e.run clerk map).1 = .ok (.inserted "peta") ∧
      ((e.run clerk book).2.run clerk map).1 = .ok (.inserted "peta") ∧
      ∀ key, ((e.run clerk book).2.run clerk map).2.store.stored key =
        ((e.run clerk map).2.run clerk book).2.store.stored key := by
  intro e clerk book map
  have hindependent : e.Independent clerk book clerk map := by decide +kernel
  have hmap : (e.run clerk map).1 = .ok (.inserted "peta") := by decide +kernel
  obtain ⟨-, hanswer, hstore⟩ := locks_cover_commands.2 e clerk book clerk map hindependent
  exact ⟨hindependent, hmap, hanswer.trans hmap, hstore⟩

end Engine

end Leuit
