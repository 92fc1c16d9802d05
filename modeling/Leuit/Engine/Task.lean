import Leuit.Engine.Locks
import Leuit.Query.Command
import Leuit.Relation.Basic
import Leuit.Store.Basic

/-! What a command comes to before the store is touched. A command first looks up the definition of its
table and checks permission; it then has a `Task`: the locks it needs and, computed from the same
snapshot, the `Plan` of its edits and its answer. All reading precedes all writing, so a command that
fails while planning has changed nothing. -/
namespace Leuit

/-- Who issues a command, and in which database. -/
structure Caller where
  username : String
  role : String
  database : String
deriving DecidableEq, Repr

namespace Caller

/-- Whether the caller holds the role that passes every permission check. -/
def isSuper (c : Caller) : Bool := c.role == superRole

/-- The same identity in another database. -/
def withDatabase (c : Caller) (database : String) : Caller := { c with database }

end Caller

/-- The rows a selection returns. -/
structure ResultSet where
  columns : List String
  rows : List Row
deriving DecidableEq

namespace ResultSet

def message (r : ResultSet) : String := toString r.rows.length ++ " row(s) found"

end ResultSet

inductive Answer where
  | status (message : String)
  | rows (result : ResultSet)
deriving DecidableEq

namespace Answer

def created (table : String) : Answer := status s!"Table '{table}' created"

def inserted (table : String) : Answer := status s!"1 row inserted into '{table}'"

def updated (count : Nat) : Answer := status s!"{count} row(s) updated"

def deleted (count : Nat) : Answer := status s!"{count} row(s) deleted"

end Answer

structure Plan where
  edits : List Edit
  answer : Answer
deriving DecidableEq

structure Task where
  locks : List LockRequest
  plan : Except QueryError Plan

/-- The locks of a command that adds or changes rows: its table, and for reading the tables its foreign
keys refer to. -/
def Definition.writeLocks (d : Definition) : List LockRequest :=
  ⟨d.name, .write⟩ :: d.parents.names.map (⟨·, .read⟩)

/-- The definition of a table, if the role may perform the action on it. -/
def Snapshot.open (view : Snapshot) (table role : String) (action : Action) :
    Except QueryError Definition :=
  match view.load table with
  | .error e => .error e
  | .ok d => (d.require role action).map fun _ => d

/-- Whether a condition holds for the values of a row of a table. -/
def Definition.satisfies (d : Definition) (values : List Value) (c : Condition) : Bool :=
  match d.field? c.field with
  | none => false
  | some i =>
    match values[i]?, d.columns[i]? with
    | some value, some column => value.meets c.operator c.literal column.type
    | _, _ => false

/-- Whether a chain of conditions holds for the fields of a row of a table. -/
def Definition.matchesAll (d : Definition) (fields : List String) (conditions : List Condition) : Bool :=
  Condition.holdsAll (d.satisfies (d.values fields)) conditions

end Leuit
