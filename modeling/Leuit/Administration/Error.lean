import Leuit.Error

/-! What goes wrong around databases: a query fails, a database is missing or in the way, the medium or
the settings cannot be read, or a role does not suffice. -/
namespace Leuit

inductive DatabaseError where
  | query (fault : QueryError)
  | databaseNotFound (name : String)
  | databaseExists (name : String)
  | medium (text : String)
  | settings (text : String)
  | insufficientPrivilege (role required : String)
  | roleNotFound (role : String)
deriving DecidableEq, Repr

namespace DatabaseError

def message : DatabaseError → String
  | query fault => fault.message
  | databaseNotFound name => s!"Database '{name}' not found"
  | databaseExists name => s!"Database '{name}' already exists"
  | medium text => s!"IO error: {text}"
  | settings text => s!"Config parse error: {text}"
  | insufficientPrivilege role required =>
    s!"Insufficient privilege: role '{role}' requires at least '{required}'"
  | roleNotFound role => s!"Role not found: {role}"

/-- The error as one of a query: all but query errors are faults of the storage. -/
def toQueryError : DatabaseError → QueryError
  | query fault => fault
  | other => .storage (.medium other.message)

end DatabaseError

end Leuit
