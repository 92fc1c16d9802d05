import Leuit.Schema.Column
import Leuit.Schema.Permissions

/-! Why a query fails. Each cause is a constructor that carries what its message names; the wording is
in the `message` functions only. -/
namespace Leuit

/-- The statement or clause whose form a query misses. -/
inductive Form where
  | create
  | insert
  | select
  | selectFrom
  | noFields
  | orderBy
  | join
  | update
  | updateSet
  | delete
  | deleteWhere
deriving DecidableEq, Repr

def Form.message : Form → String
  | create => "format: DAMEL <table> <name:TYPE[:CONSTRAINT],...>"
  | insert => "format: SIMPEN <table> <val|val|val>"
  | select => "format: TINGALI <table>"
  | selectFrom => "table name missing after TI/FROM"
  | noFields => "no columns named before TI/FROM"
  | orderBy => "RUNTUYKEUN needs a column name"
  | join => "format: GABUNG <table> DINA <field> <op> <field>"
  | update => "format: OMEAN <table> JADI <col>=<val>[,...] [DIMANA ...]"
  | updateSet => "OMEAN needs JADI/JANTEN/SET"
  | delete => "format: MICEUN TI <table> [DIMANA ...]"
  | deleteWhere => "MICEUN needs DIMANA before conditions"

/-- The clauses that take a number of rows. -/
inductive Paging where
  | limit
  | offset
deriving DecidableEq, Repr

def Paging.name : Paging → String
  | limit => "SAKADAR"
  | offset => "LIWATAN"

inductive SyntaxFault where
  | emptyQuery
  | unknownCommand (word : String)
  | unknownOperator (text : String)
  | form (form : Form)
  | countMissing (clause : Paging)
  | notACount (clause : Paging) (word : String)
  | charLimit
  | enumValues
  | unknownType (name : String)
  | unbalancedType (text : String)
  | unknownConstraint (text column : String)
  | columnForm (text : String)
  | columnName (name : String)
  | duplicateColumn (name : String)
  | noColumns
  | foreignKeyForm (text : String)
  | invalidName (kind name : String)
  /-- A fault that a caller puts into its own words. -/
  | remark (text : String)
deriving DecidableEq, Repr

def SyntaxFault.message : SyntaxFault → String
  | emptyQuery => "empty query"
  | unknownCommand word => s!"unknown command '{word}'"
  | unknownOperator text => s!"unknown operator '{text}'"
  | form f => f.message
  | countMissing clause => s!"{clause.name} needs a number"
  | notACount clause word => s!"{clause.name} must be a non-negative number, got '{word}'"
  | charLimit => "CHAR requires a length, e.g. CHAR(10)"
  | enumValues => "ENUM requires at least one value, e.g. ENUM(a,b)"
  | unknownType name => s!"unknown type '{name}'"
  | unbalancedType text => s!"unbalanced parentheses in type '{text}'"
  | unknownConstraint text column => s!"unknown constraint '{text}' on column '{column}'"
  | columnForm text => s!"column '{text}' must be written name:TYPE"
  | columnName name => s!"invalid column name '{name}'"
  | duplicateColumn name => s!"duplicate column '{name}'"
  | noColumns => "at least one column definition is required"
  | foreignKeyForm text => s!"foreign key '{text}' must be written table.column"
  | invalidName kind name => s!"invalid {kind} name '{name}'"
  | remark text => text

/-- What a query asks for and the store lacks, or the other way round. -/
inductive Item where
  | table (name : String)
  | records (table : String)
  | column (name table : String)
  | database (name : String)
  /-- Something that a caller puts into its own words. -/
  | named (text : String)
deriving DecidableEq, Repr

def Item.describe : Item → String
  | table name => s!"table '{name}'"
  | records owner => s!"records of table '{owner}'"
  | column name owner => s!"column '{name}' in table '{owner}'"
  | database name => s!"database '{name}'"
  | named text => text

inductive KeyKind where
  | primary
  | unique
deriving DecidableEq, Repr

def KeyKind.describe : KeyKind → String
  | primary => "PRIMARY KEY"
  | unique => "UNIQUE"

inductive ForeignKeyFault where
  | tableMissing
  | columnMissing
  | valueMissing (value : String)
deriving DecidableEq, Repr

def ForeignKeyFault.message : ForeignKeyFault → String
  | tableMissing => "parent table not found"
  | columnMissing => "parent column not found"
  | valueMissing value => s!"value '{value}' not found in parent"

/-- The constraint that a rejected row breaks. -/
inductive Violation where
  | notNull (column : String)
  | duplicate (kind : KeyKind) (column value : String)
  | foreignKey (column : String) (key : ForeignKey) (fault : ForeignKeyFault)
deriving DecidableEq, Repr

namespace Violation

/-- The column at fault. -/
def column : Violation → String
  | notNull column => column
  | duplicate _ column _ => column
  | foreignKey column _ _ => column

def message : Violation → String
  | notNull column => s!"NOT NULL on column '{column}'"
  | duplicate kind column value =>
    s!"{kind.describe} on column '{column}': value '{value}' already exists"
  | foreignKey column key fault =>
    s!"FOREIGN KEY on column '{column}' referencing {key.describe}: {fault.message}"

end Violation

inductive StorageFault where
  /-- The stored definition of the table has no columns. -/
  | emptySchema (table : String)
  /-- A fault reported by the medium that holds the data. -/
  | medium (text : String)
deriving DecidableEq, Repr

def StorageFault.message : StorageFault → String
  | emptySchema table => s!"schema for table '{table}' is empty"
  | medium text => text

inductive QueryError where
  | syntaxFault (fault : SyntaxFault)
  | notFound (item : Item)
  | alreadyExists (item : Item)
  | permissionDenied (role : String) (action : Action) (table : String)
  | arity (expected found : Nat)
  | typeMismatch (column : String) (expected : ColumnType) (value : String)
  | violation (violation : Violation)
  | storage (fault : StorageFault)
  /-- A comparison of values contradicts itself while rows are sorted by it. The program does not go on with this
  as with an error: it stops. -/
  | aborted
deriving DecidableEq, Repr

def QueryError.message : QueryError → String
  | syntaxFault fault => s!"Syntax error: {fault.message}"
  | notFound item => s!"Not found: {item.describe}"
  | alreadyExists item => s!"Already exists: {item.describe}"
  | permissionDenied role action table =>
    s!"Permission denied: role '{role}' cannot {action.name} table '{table}'"
  | arity expected found => s!"Arity error: expected {expected} fields, found {found}"
  | typeMismatch column expected value =>
    s!"Type error: column '{column}' expects {expected.describe}, got '{value}'"
  | violation v => s!"Constraint violation: {v.message}"
  | storage fault => s!"Storage error: {fault.message}"
  | aborted => "user-provided comparison function does not correctly implement a total order"

end Leuit
