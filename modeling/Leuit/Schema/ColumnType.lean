/-! Column types and the way they are written: a base name, and for `CHAR` and `ENUM` arguments in
parentheses. -/
namespace Leuit

inductive ColumnType where
  | int
  | float
  | bool
  | date
  /-- Text of at most so many characters. -/
  | char (limit : Nat)
  /-- One of the listed values. -/
  | enum (values : List String)
  | string
  | text
deriving DecidableEq, Repr

namespace ColumnType

def baseName : ColumnType → String
  | int => "INT"
  | float => "FLOAT"
  | bool => "BOOL"
  | date => "DATE"
  | char _ => "CHAR"
  | enum _ => "ENUM"
  | string => "STRING"
  | text => "TEXT"

def describe : ColumnType → String
  | char limit => "CHAR(" ++ toString limit ++ ")"
  | enum values => "ENUM(" ++ ",".intercalate values ++ ")"
  | type => type.baseName

end ColumnType

end Leuit
