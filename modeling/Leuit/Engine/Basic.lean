import Leuit.Engine.Selecting
import Leuit.Engine.Writing
import Leuit.Query.Parser

/-! The engine runs commands on a store. It takes the locks of the command's task, performs the edits of
its plan and gives the answer; a command without task or plan leaves the store as it was. -/
namespace Leuit

/-- The task of a command for a caller who sees the given snapshot. -/
def Command.task (view : Snapshot) (caller : Caller) : Command → Except QueryError Task
  | create q => q.task view
  | insert q => q.task view caller
  | select q => q.task view caller
  | update q => q.task view caller
  | delete q => q.task view caller

structure Engine (σ : Type) where
  store : σ
  locks : LockRegistry

namespace Engine
variable {σ : Type} [Storage σ]

def ofStore (store : σ) : Engine σ := ⟨store, .empty⟩

/-- Performs a plan. -/
def perform (e : Engine σ) (database : String) (plan : Plan) : Except QueryError Answer × Engine σ :=
  let (outcome, store) := Storage.commit e.store database plan.edits
  (outcome.map fun _ => plan.answer, { e with store })

/-- Runs a command. -/
def run (e : Engine σ) (caller : Caller) (command : Command) : Except QueryError Answer × Engine σ :=
  match command.task (Storage.snapshot e.store caller.database) caller with
  | .error fault => (.error fault, e)
  | .ok task =>
    let locked := { e with locks := e.locks.acquire caller.database task.locks }
    match task.plan with
    | .error fault => (.error fault, locked)
    | .ok plan => locked.perform caller.database plan

/-- Runs the command that a query text spells. -/
def execute (e : Engine σ) (caller : Caller) (query : String) : Except QueryError Answer × Engine σ :=
  match Command.ofText query with
  | .error fault => (.error fault, e)
  | .ok command => e.run caller command

end Engine

end Leuit
