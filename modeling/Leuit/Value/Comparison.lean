import Leuit.Error
import Leuit.Text.Pieces
import Leuit.Value.Basic

/-! Comparisons. Two values compare if both are numbers or both are dates, texts or truth values; null
equals null only and stands in no order. A literal of a query is read by the type of the column it is
compared with (`meets`); two columns of different kinds compare by what is shown of them
(`joins`). -/
namespace Leuit

inductive Operator where
  | eq
  | ne
  | gt
  | lt
  | ge
  | le
  /-- The right side occurs in the left side, in any letter case. -/
  | like
deriving DecidableEq, Repr

namespace Operator

def symbol : Operator → String
  | eq => "="
  | ne => "!="
  | gt => ">"
  | lt => "<"
  | ge => ">="
  | le => "<="
  | like => "JIGA"

def ofText (s : String) : Except QueryError Operator :=
  match Text.upper s with
  | "=" | "==" => .ok eq
  | "!=" | "<>" => .ok ne
  | ">" => .ok gt
  | "<" => .ok lt
  | ">=" => .ok ge
  | "<=" => .ok le
  | "JIGA" | "LIKE" => .ok like
  | other => .error (.syntaxFault (.unknownOperator other))

/-- Whether truth values can be compared with the operator. -/
def isEquality : Operator → Bool
  | eq | ne => true
  | _ => false

/-- Whether two values in the given order stand in the relation. -/
def holds : Operator → Ordering → Bool
  | eq, o => o == .eq
  | ne, o => o != .eq
  | gt, o => o == .gt
  | lt, o => o == .lt
  | ge, o => o != .lt
  | le, o => o != .gt
  | like, _ => false

end Operator

namespace Value

/-- The order of two values of comparable kinds. -/
def order? : Value → Value → Option Ordering
  | int a, int b => some (compare a b)
  | float a, float b => floatOrder? a b
  | int a, float b => floatOrder? (Float.ofInt a) b
  | float a, int b => floatOrder? a (Float.ofInt b)
  | date a, date b => some (a.order b)
  | text a, text b => some (compare a b)
  | _, _ => none

/-- Whether the pattern occurs in what is shown of the value, in any letter case. -/
def resembles (a : Value) (pattern : String) : Bool :=
  !a.isNull && Text.contains (Text.lower a.display) (Text.lower pattern)

/-- Whether the operator holds between two values. -/
def compares (a : Value) (op : Operator) (b : Value) : Bool :=
  if op = .like then a.resembles b.display
  else
    match a, b with
    | null, null => op == .eq
    | null, _ | _, null => op == .ne
    | bool x, bool y => op.isEquality && op.holds (compare x y)
    | _, _ => ((a.order? b).map op.holds).getD false

/-- Whether the operator holds between a value of a column and a literal. A date is compared as text
with a literal that is no date, such as a year or a month. -/
def meets (a : Value) (op : Operator) (literal : String) (type : ColumnType) : Bool :=
  if op = .like then a.resembles literal
  else
    match a, ofField type literal with
    | date d, text raw => compares (text d.text) op (text (Text.trim raw))
    | bool _, text _ => op == .ne
    | _, b => a.compares op b

/-- Whether two values are of one kind, integers and floats being of one kind. -/
def sameKind : Value → Value → Bool
  | null, null => true
  | int _, int _ | int _, float _ | float _, int _ | float _, float _ => true
  | bool _, bool _ => true
  | date _, date _ => true
  | text _, text _ => true
  | _, _ => false

/-- Whether the operator holds between the values of two columns. -/
def joins (a : Value) (op : Operator) (b : Value) : Bool :=
  if a.sameKind b || a.isNull || b.isNull then a.compares op b
  else compares (text a.display) op (text b.display)

end Value

end Leuit
