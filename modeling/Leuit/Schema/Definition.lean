import Leuit.Schema.Descriptor
import Leuit.Text.Alphanumeric

/-! Table definitions: the columns in the order of the fields of a record, and the permissions. A
definition is stored as a document whose first line holds the column descriptors and whose other lines
grant actions to roles, one role a line. -/
namespace Leuit

structure Definition where
  name : String
  columns : List Column
  permissions : Permissions
deriving DecidableEq

namespace Definition

/-! ### Looking up columns -/

/-- The position of the column with exactly that name. -/
def column? (d : Definition) (name : String) : Option Nat := d.columns.findIdx? (·.name == name)

/-- The position of a column by exact name or else by name up to the case of ASCII letters. -/
def columnIgnoringCase? (d : Definition) (name : String) : Option Nat :=
  d.column? name <|> d.columns.findIdx? fun c => Text.sameIgnoringCase c.name name

/-- The position of a field, which may be qualified by the name of the table. -/
def field? (d : Definition) (field : String) : Option Nat :=
  match d.column? field with
  | some i => some i
  | none =>
    match Text.cut? '.' field with
    | some (table, column) => if table = d.name then d.column? column else none
    | none => none

/-- The tables that foreign keys of this table refer to. -/
def parents (d : Definition) : NameSet :=
  NameSet.ofList (d.columns.filterMap fun c => c.foreignKey.map (·.table))

/-- Fails unless the role may perform the action. -/
def require (d : Definition) (role : String) (action : Action) : Except QueryError Unit :=
  if d.permissions.allows role action then .ok ()
  else .error (.permissionDenied role action d.name)

/-! ### The stored document -/

/-- The line that grants a role the actions it may perform. -/
def grantLine (p : Permissions) (role : String) : String :=
  role ++ "=" ++ ",".intercalate ((Action.all.filter fun a => role ∈ p.roles a).map Action.name) ++ "\n"

def encode (d : Definition) : String :=
  "|".intercalate (d.columns.map Column.describe) ++ "\n" ++
    String.join ((d.permissions.readers.union d.permissions.writers).names.map (grantLine d.permissions))

/-- Adds a role to an action named in a document; a name that is no action is passed over. -/
def grantNamed (role : String) (p : Permissions) (name : String) : Permissions :=
  match Action.ofName? name with
  | some action => p.set action ((p.roles action).insert role)
  | none => p

/-- Reads one line of grants; a line without an equals sign is passed over. -/
def readGrants (p : Permissions) (line : String) : Permissions :=
  match Text.cut? '=' (Text.trim line) with
  | some (role, actions) => (Text.split ',' actions).foldl (grantNamed (Text.trim role)) p
  | none => p

/-- Reads a stored document as the definition of a table. -/
def decode (table document : String) : Except QueryError Definition :=
  match Text.lines document with
  | [] => .error (.storage (.emptySchema table))
  | header :: grants =>
    if Text.trim header = "" then .error (.storage (.emptySchema table))
    else
      match (Text.split '|' (Text.trim header)).mapM Column.ofText with
      | .error e => .error e
      | .ok columns => .ok ⟨table, columns, grants.foldl readGrants .nobody⟩

/-- The names of tables and databases are made of letters, digits, underscores and hyphens, because
they are names of files and folders too. -/
def nameAllowed (name : String) : Bool :=
  name ≠ "" && name.toList.all fun c => Text.isAlphanumeric c || c == '_' || c == '-'

def checkName (kind name : String) : Except QueryError Unit :=
  if nameAllowed name then .ok () else .error (.syntaxFault (.invalidName kind name))

end Definition

end Leuit
