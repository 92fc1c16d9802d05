import Leuit.Calendar
import Leuit.Decimal.Float
import Leuit.Decimal.Shortest
import Leuit.Schema.ColumnType
import Leuit.Text.Case

/-! Values of fields. A record is stored as text; each field is read once, by the type of its column.
A field that does not conform to its type is carried as text, so comparisons of that type fail on it
instead of stopping the query. `conforms` is the test that a field must pass to be stored. -/
namespace Leuit

/-- The word for an absent value. -/
def nullWord : String := "NULL"

/-- Blank fields and the null word, in any case, stand for no value. -/
def isNullField (raw : String) : Bool :=
  Text.trim raw == "" || Text.sameIgnoringCase (Text.trim raw) nullWord

inductive Value where
  | null
  | int (n : Int)
  | float (x : Float)
  | bool (b : Bool)
  | date (d : Date)
  | text (s : String)
deriving DecidableEq

namespace Value

/-- Reads a field by the type of its column. -/
def ofField (type : ColumnType) (raw : String) : Value :=
  if isNullField raw then null
  else
    match type with
    | .int => (Decimal.integer? (Text.trim raw)).elim (text raw) int
    | .float => (Decimal.float? (Text.trim raw)).elim (text raw) float
    | .bool =>
      if Text.trim raw = "true" then bool true
      else if Text.trim raw = "false" then bool false
      else text raw
    | .date => (Date.ofText? (Text.trim raw)).elim (text raw) date
    | .char _ | .enum _ | .string | .text => text raw

def isNull : Value → Bool
  | null => true
  | _ => false

/-- What is shown of a value. -/
def display : Value → String
  | null => nullWord
  | int n => toString n
  | float x => Decimal.Layout.plain.write x
  | bool b => if b then "true" else "false"
  | date d => d.text
  | text s => s

/-- The number that ordering and aggregation see, also in a text that is a numeral. -/
def number? : Value → Option Float
  | int n => some (Float.ofInt n)
  | float x => some x
  | text s => Decimal.float? (Text.trim s)
  | _ => none

end Value

/-- The order of two floats; none if one of them is not a number. -/
def floatOrder? (x y : Float) : Option Ordering :=
  if x < y then some .lt else if y < x then some .gt else if x == y then some .eq else none

/-- The order of rows in a sorted result: by number if both values have one, or else by what is shown. -/
def Value.order (a b : Value) : Ordering :=
  match a.number?, b.number? with
  | some x, some y => (floatOrder? x y).getD .eq
  | _, _ => compare a.display b.display

/-- Whether a value comes before another in ascending or in descending order. -/
def Value.precedes (descending : Bool) (a b : Value) : Bool :=
  if descending then b.order a == .lt else a.order b == .lt

/-- Whether a field that is not null may be stored in a column of the type. -/
def ColumnType.accepts (type : ColumnType) (field : String) : Bool :=
  let value := Text.trim field
  match type with
  | .int => (Decimal.integer? value).isSome
  | .float => (Decimal.float? value).isSome
  | .bool => value == "true" || value == "false"
  | .date => Date.isStandard value && (Date.ofText? value).isSome
  | .char limit => decide (value.length ≤ limit)
  | .enum values => values.contains value
  | .string | .text => true

/-- Whether a field may be stored in a column of the type: it is null, or the type accepts it. -/
def ColumnType.conforms (type : ColumnType) (field : String) : Bool :=
  isNullField field || type.accepts field

end Leuit
