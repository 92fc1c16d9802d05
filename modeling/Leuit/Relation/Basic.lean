import Leuit.Record

/-! Relations, the intermediate results of a selection: a header of columns, each with the table it comes
from, and rows of values. A field of a query names a column by its qualified name, or else by its bare
name, of which `first?` takes the first bearer and `last?` the last. -/
namespace Leuit

structure HeaderColumn where
  table : String
  name : String
  type : ColumnType
deriving DecidableEq, Repr

namespace HeaderColumn

def qualified (h : HeaderColumn) : String := h.table ++ "." ++ h.name

/-- Whether a field is the qualified name of the column. -/
def isQualifiedBy (h : HeaderColumn) (field : String) : Bool :=
  match Text.cut? '.' field with
  | some (table, name) => h.table == table && h.name == name
  | none => false

end HeaderColumn

abbrev Row := List Value

/-- The value in a column; null past the end of the row. -/
def Row.cell (row : Row) (i : Nat) : Value := row[i]?.getD .null

structure Relation where
  header : List HeaderColumn
  rows : List Row
deriving DecidableEq

namespace Relation

def width (r : Relation) : Nat := r.header.length

/-- The position of the last element with a property. -/
def lastIdx? {α : Type} (p : α → Bool) : List α → Option Nat
  | [] => none
  | x :: rest =>
    match lastIdx? p rest with
    | some i => some (i + 1)
    | none => if p x then some 0 else none

/-- The column a field names; the first one, if it is a bare name. -/
def first? (header : List HeaderColumn) (field : String) : Option Nat :=
  header.findIdx? (·.isQualifiedBy field) <|> header.findIdx? (·.name == field)

/-- The column a field names; the last one, if it is a bare name. -/
def last? (header : List HeaderColumn) (field : String) : Option Nat :=
  header.findIdx? (·.isQualifiedBy field) <|> lastIdx? (·.name == field) header

def headerOf (d : Definition) : List HeaderColumn :=
  d.columns.map fun c => ⟨d.name, c.name, c.type⟩

/-- The rows of a stored table. Fails at the first record with too few or too many fields. -/
def ofTable (d : Definition) (records : List String) : Except QueryError Relation :=
  ((Record.rows records).mapM fun record => (d.fieldsOf record).map d.values).map
    fun rows => ⟨headerOf d, rows⟩

end Relation

end Leuit
