import Leuit.Schema.Definition
import Leuit.Value.Basic

/-! Records: the fields of a row with bars between them, as they are stored. A record that is about to be
stored must have one field for each column and conform to the types (`Definition.checkRecord`); a
stored record is only asked for the number of its fields. Blank records stand for no row. -/
namespace Leuit

namespace Record

def fields (record : String) : List String := Text.split '|' record

def ofFields (fields : List String) : String := "|".intercalate fields

/-- The records that stand for rows. -/
def rows (records : List String) : List String := records.filter (!Text.allBlank ·)

end Record

namespace Definition

/-- The fields of a record, if there are as many as columns. -/
def fieldsOf (d : Definition) (record : String) : Except QueryError (List String) :=
  let fields := Record.fields record
  if fields.length = d.columns.length then .ok fields
  else .error (.arity d.columns.length fields.length)

/-- Fails at the first field that does not conform to the type of its column. -/
def checkTypes : List (Column × String) → Except QueryError Unit
  | [] => .ok ()
  | (column, field) :: rest =>
    if column.type.conforms field then checkTypes rest
    else .error (.typeMismatch column.name column.type field)

/-- The fields of a record that may be stored as far as number and types go. -/
def checkRecord (d : Definition) (record : String) : Except QueryError (List String) :=
  match d.fieldsOf record with
  | .error e => .error e
  | .ok fields => (checkTypes (d.columns.zip fields)).map fun _ => fields

/-- The values of the fields, by the types of the columns. -/
def values (d : Definition) (fields : List String) : List Value :=
  d.columns.zipWith (fun column field => Value.ofField column.type field) fields

end Definition

end Leuit
