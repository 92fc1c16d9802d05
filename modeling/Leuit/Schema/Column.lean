import Leuit.Schema.ColumnType

/-! Columns of a table. A primary key is unique and never null; a foreign key names the column of
another table in which its values must occur. -/
namespace Leuit

structure ForeignKey where
  table : String
  column : String
deriving DecidableEq, Repr

def ForeignKey.describe (key : ForeignKey) : String := key.table ++ "." ++ key.column

structure Column where
  name : String
  type : ColumnType
  isPrimary : Bool
  isUnique : Bool
  isNotNull : Bool
  foreignKey : Option ForeignKey
deriving DecidableEq, Repr

namespace Column

/-- A column without constraints. -/
def plain (name : String) (type : ColumnType) : Column := ⟨name, type, false, false, false, none⟩

def primary (c : Column) : Column := { c with isPrimary := true, isUnique := true, isNotNull := true }

def unique (c : Column) : Column := { c with isUnique := true }

def notNull (c : Column) : Column := { c with isNotNull := true }

def references (c : Column) (table column : String) : Column :=
  { c with foreignKey := some ⟨table, column⟩ }

end Column

end Leuit
