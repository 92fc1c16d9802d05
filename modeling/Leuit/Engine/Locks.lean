/-! Locks on tables. A command asks for the tables it depends on, each in a mode; a request list is
brought into one normal form before anything is locked, so that commands with overlapping requests
take their locks in the same order. A registry remembers every table that was ever locked. -/
namespace Leuit

inductive LockMode where
  | read
  | write
deriving DecidableEq, Repr

namespace LockMode

/-- The mode that allows what both allow. -/
def strongest : LockMode → LockMode → LockMode
  | read, read => read
  | _, _ => write

end LockMode

structure LockRequest where
  table : String
  mode : LockMode
deriving DecidableEq, Repr

namespace LockRequest

/-- Puts a request into a list in increasing order of tables. A table that is there already keeps the
strongest of its modes. -/
def merge (request : LockRequest) : List LockRequest → List LockRequest
  | [] => [request]
  | other :: rest =>
    if request.table < other.table then request :: other :: rest
    else if other.table < request.table then other :: merge request rest
    else ⟨other.table, other.mode.strongest request.mode⟩ :: rest

/-- One request for each table, in increasing order, in the strongest mode asked for. -/
def normalize (requests : List LockRequest) : List LockRequest :=
  requests.foldl (fun merged request => merge request merged) []

end LockRequest

/-- The tables that were ever locked, by database and name, each once. -/
structure LockRegistry where
  touched : List (String × String)

namespace LockRegistry

def empty : LockRegistry := ⟨[]⟩

/-- Notes that a table is locked. -/
def touch (r : LockRegistry) (database table : String) : LockRegistry :=
  if (database, table) ∈ r.touched then r else ⟨r.touched ++ [(database, table)]⟩

/-- Takes the locks that are requested in a database. -/
def acquire (r : LockRegistry) (database : String) (requests : List LockRequest) : LockRegistry :=
  (LockRequest.normalize requests).foldl (fun r request => r.touch database request.table) r

def size (r : LockRegistry) : Nat := r.touched.length

def isEmpty (r : LockRegistry) : Bool := r.touched.isEmpty

end LockRegistry

end Leuit
