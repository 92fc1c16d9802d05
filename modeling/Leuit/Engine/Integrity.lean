import Leuit.Record
import Leuit.Store.Basic

/-! Integrity of rows: NOT NULL, PRIMARY KEY and UNIQUE, and foreign keys. The columns are checked in
order, and of one column the constraints in that order; the first violation is reported. Fields are
compared by their trimmed text. -/
namespace Leuit

/-- Whether a record's field at a position has the given trimmed text. -/
def fieldIs (i : Nat) (value : String) (fields : List String) : Bool :=
  match fields[i]? with
  | some field => Text.trim field == value
  | none => false

namespace Column

/-- Fails if another row has the same text in a key column. -/
def checkUnique (c : Column) (i : Nat) (value : String) (others : List (List String)) :
    Except QueryError Unit :=
  if (c.isPrimary || c.isUnique) && others.any (fieldIs i value) then
    .error (.violation (.duplicate (if c.isPrimary then .primary else .unique) c.name value))
  else .ok ()

/-- Fails unless the text occurs in the column that a foreign key refers to. -/
def checkReference (c : Column) (view : Snapshot) (key : ForeignKey) (value : String) :
    Except QueryError Unit :=
  let fault (f : ForeignKeyFault) : Except QueryError Unit :=
    .error (.violation (.foreignKey c.name key f))
  match view.load key.table with
  | .error (.notFound _) => fault .tableMissing
  | .error e => .error e
  | .ok parent =>
    match parent.columnIgnoringCase? key.column with
    | none => fault .columnMissing
    | some i =>
      match view.records key.table with
      | .error e => .error e
      | .ok records =>
        if records.any fun record => fieldIs i value (Record.fields record) then .ok ()
        else fault (.valueMissing value)

/-- Checks the field of a column, the one at position `i`. -/
def checkField (c : Column) (view : Snapshot) (i : Nat) (field : String) (others : List (List String)) :
    Except QueryError Unit :=
  if isNullField field then
    if c.isNotNull then .error (.violation (.notNull c.name)) else .ok ()
  else
    match c.checkUnique i (Text.trim field) others with
    | .error e => .error e
    | .ok () =>
      match c.foreignKey with
      | none => .ok ()
      | some key => c.checkReference view key (Text.trim field)

end Column

namespace Definition

/-- Checks the fields of the columns from position `i` on. -/
def checkFieldsFrom (view : Snapshot) (others : List (List String)) (i : Nat) :
    List (Column × String) → Except QueryError Unit
  | [] => .ok ()
  | (column, field) :: rest =>
    match column.checkField view i field others with
    | .error e => .error e
    | .ok () => checkFieldsFrom view others (i + 1) rest

/-- Checks a row against an explicit set of other rows. -/
def checkAgainst (d : Definition) (view : Snapshot) (fields : List String)
    (others : List (List String)) : Except QueryError Unit :=
  checkFieldsFrom view others 0 (d.columns.zip fields)

/-- Checks a new row against the stored rows of its table. -/
def checkNew (d : Definition) (view : Snapshot) (fields : List String) : Except QueryError Unit :=
  match view.records d.name with
  | .error e => .error e
  | .ok records => d.checkAgainst view fields ((Record.rows records).map Record.fields)

end Definition

end Leuit
