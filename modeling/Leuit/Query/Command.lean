import Leuit.Query.Condition
import Leuit.Schema.Permissions

/-! Commands, the meaning of a query text. Names, literals and column descriptors are still plain text
here; they are looked at when the command runs. -/
namespace Leuit

structure CreateTable where
  table : String
  /-- The column descriptors, as written but for blanks. -/
  columns : String
  /-- Absent if the query names no roles. -/
  permissions : Option Permissions
deriving DecidableEq

structure InsertRow where
  table : String
  /-- The fields with bars between them. -/
  record : String
deriving DecidableEq, Repr

inductive JoinKind where
  | inner
  | left
  | right
  | full
deriving DecidableEq, Repr

namespace JoinKind

/-- Rows of the left side without partner are kept. -/
def keepsLeft : JoinKind → Bool
  | left | full => true
  | _ => false

/-- Rows of the right side without partner are kept. -/
def keepsRight : JoinKind → Bool
  | right | full => true
  | _ => false

end JoinKind

structure Join where
  kind : JoinKind
  table : String
  /-- The literal of the condition names a column of the joined table, or else stands for itself. -/
  condition : Condition
deriving DecidableEq, Repr

structure Sorting where
  column : String
  descending : Bool
deriving DecidableEq, Repr

structure SelectRows where
  table : String
  fields : List String
  joins : List Join
  conditions : List Condition
  sorting : Option Sorting
  limit : Option Nat
  offset : Nat
deriving DecidableEq, Repr

namespace SelectRows

def ofFields (table : String) (fields : List String) : SelectRows :=
  ⟨table, fields, [], [], none, none, 0⟩

/-- Whether the query asks for all columns. -/
def selectsAll (q : SelectRows) : Bool :=
  match q.fields with
  | [] => true
  | field :: _ => field == "*"

end SelectRows

structure UpdateRows where
  table : String
  /-- Columns and their new fields, in the order written. -/
  assignments : List (String × String)
  conditions : List Condition
deriving DecidableEq, Repr

structure DeleteRows where
  table : String
  conditions : List Condition
deriving DecidableEq, Repr

inductive Command where
  | create (q : CreateTable)
  | insert (q : InsertRow)
  | select (q : SelectRows)
  | update (q : UpdateRows)
  | delete (q : DeleteRows)
deriving DecidableEq

namespace Command

/-- The table a command is about. -/
def table : Command → String
  | create q => q.table
  | insert q => q.table
  | select q => q.table
  | update q => q.table
  | delete q => q.table

def verb : Command → String
  | create _ => "CREATE"
  | insert _ => "INSERT"
  | select _ => "SELECT"
  | update _ => "UPDATE"
  | delete _ => "DELETE"

end Command

end Leuit
