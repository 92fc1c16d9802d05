import Leuit.Decimal.Integer
import Leuit.Error
import Leuit.Text.Pieces

/-! Column descriptors, `name:TYPE[(arguments)][:CONSTRAINT]*`. Commas separate the descriptors of a
query and colons the parts of a descriptor, but neither does so inside parentheses. `Column.ofText`
reads a descriptor in any letter case and spacing; `Column.describe` writes its one stored form. -/
namespace Leuit

namespace Text

/-- How a character changes the depth of parentheses. -/
def deepen (depth : Int) (c : Char) : Int :=
  if c = '(' then depth + 1 else if c = ')' then depth - 1 else depth

/-- The pieces between the separators outside parentheses. -/
def splitOutside (sep : Char) (depth : Int) : List Char → List (List Char)
  | [] => [[]]
  | c :: rest =>
    if c = sep ∧ depth ≤ 0 then [] :: splitOutside sep depth rest
    else (splitOutside sep (deepen depth c) rest).modifyHead (c :: ·)

/-- What stands before the last occurrence of a character. -/
def beforeLast? (c : Char) (cs : List Char) : Option (List Char) :=
  match cs.reverse.dropWhile (· ≠ c) with
  | [] => none
  | _ :: rest => some rest.reverse

end Text

/-! ### Types -/

/-- The type with a base name and arguments. Only `CHAR` and `ENUM` look at their arguments. -/
def ColumnType.ofParts (base : String) (arguments : List String) : Except QueryError ColumnType :=
  match Text.upper base with
  | "INT" => .ok .int
  | "FLOAT" => .ok .float
  | "BOOL" => .ok .bool
  | "DATE" => .ok .date
  | "STRING" => .ok .string
  | "TEXT" => .ok .text
  | "CHAR" =>
    match arguments.head?.bind fun a => Decimal.count? (Text.trim a) with
    | some limit => .ok (.char limit)
    | none => .error (.syntaxFault .charLimit)
  | "ENUM" =>
    match (arguments.map Text.trim).filter (· ≠ "") with
    | [] => .error (.syntaxFault .enumValues)
    | values => .ok (.enum values)
  | other => .error (.syntaxFault (.unknownType other))

/-- A type as written: the arguments stand between the first opening and the last closing
parenthesis, separated by commas. -/
def ColumnType.ofText (s : String) : Except QueryError ColumnType :=
  match s.toList.dropWhile (· ≠ '(') with
  | [] => ofParts s []
  | _ :: afterOpen =>
    match Text.beforeLast? ')' afterOpen with
    | none => .error (.syntaxFault (.unbalancedType s))
    | some inner =>
      ofParts (Text.trim (String.ofList (s.toList.takeWhile (· ≠ '('))))
        ((Text.split ',' (String.ofList inner)).map Text.trim)

/-! ### Foreign keys and constraints -/

/-- A reference written `table.column`. -/
def ForeignKey.ofText (s : String) : Except QueryError ForeignKey :=
  match Text.cut? '.' (Text.trim s) with
  | some (table, column) =>
    if table ≠ "" ∧ column ≠ "" then .ok ⟨Text.trim table, Text.trim column⟩
    else .error (.syntaxFault (.foreignKeyForm s))
  | none => .error (.syntaxFault (.foreignKeyForm s))

/-- What a constraint asks of a column. -/
inductive Constraint where
  | nothing
  | primary
  | unique
  | notNull
  | references (key : ForeignKey)
deriving DecidableEq, Repr

/-- The constraint a part of a descriptor names, if it is known. Blanks and letter case do not matter,
except inside a reference. -/
def Constraint.ofText? (s : String) : Option (Except QueryError Constraint) :=
  let word := Text.upperList (s.toList.filter (!Text.isBlank ·))
  if word = "PK".toList ∨ word = "PRIMARY".toList ∨ word = "PRIMARYKEY".toList then some (.ok .primary)
  else if word = "UNIQUE".toList then some (.ok .unique)
  else if word = "NOTNULL".toList then some (.ok .notNull)
  else if word = [] then some (.ok .nothing)
  else if "FK(".toList.isPrefixOf word ∧ word.getLast? = some ')' then
    let inner := (((Text.trim s).toList.dropWhile (· ≠ '(')).drop 1).dropLast
    some ((ForeignKey.ofText (String.ofList inner)).map .references)
  else none

def Column.constrain (c : Column) : Constraint → Column
  | .nothing => c
  | .primary => c.primary
  | .unique => c.unique
  | .notNull => c.notNull
  | .references key => { c with foreignKey := some key }

/-- Applies the constraints of a descriptor from left to right. -/
def Column.constrainAll (c : Column) : List String → Except QueryError Column
  | [] => .ok c
  | text :: rest =>
    match Constraint.ofText? text with
    | none => .error (.syntaxFault (.unknownConstraint (Text.trim text) c.name))
    | some (.error e) => .error e
    | some (.ok constraint) => (c.constrain constraint).constrainAll rest

/-! ### Columns -/

/-- A column name is not empty and has no blank, no point and no bar in it. -/
def Column.nameAllowed (name : String) : Bool :=
  name ≠ "" && name.toList.all fun c => !(Text.isBlank c || c == '.' || c == '|')

/-- Reads one column descriptor. -/
def Column.ofText (s : String) : Except QueryError Column :=
  match (Text.splitOutside ':' 0 (Text.trim s).toList).map String.ofList with
  | name :: type :: constraints =>
    if Column.nameAllowed (Text.trim name) then
      match ColumnType.ofText (Text.trim type) with
      | .error e => .error e
      | .ok type => (Column.plain (Text.trim name) type).constrainAll constraints
    else .error (.syntaxFault (.columnName (Text.trim name)))
  | _ => .error (.syntaxFault (.columnForm s))

/-- The column descriptors in a list separated by commas, trimmed; empty ones are left out. -/
def Column.splitList (s : String) : List String :=
  ((Text.splitOutside ',' 0 s.toList).map fun piece => Text.trim (String.ofList piece)).filter (· ≠ "")

/-- Reads descriptors whose names differ from each other and from those taken. -/
def Column.readDistinct (taken : List String) : List String → Except QueryError (List Column)
  | [] => .ok []
  | text :: rest =>
    match Column.ofText text with
    | .error e => .error e
    | .ok column =>
      if column.name ∈ taken then .error (.syntaxFault (.duplicateColumn column.name))
      else (Column.readDistinct (column.name :: taken) rest).map (column :: ·)

/-- Reads the columns of a new table: at least one, with distinct names. -/
def Column.listOfText (s : String) : Except QueryError (List Column) :=
  match Column.readDistinct [] (Column.splitList s) with
  | .ok [] => .error (.syntaxFault .noColumns)
  | result => result

/-- The stored form of a column. A primary key is unique and not null without saying so. -/
def Column.describe (c : Column) : String :=
  c.name ++ ":" ++ c.type.describe ++
    (if c.isPrimary then ":PK"
      else (if c.isUnique then ":UNIQUE" else "") ++ (if c.isNotNull then ":NOT NULL" else "")) ++
    match c.foreignKey with
    | some key => ":FK(" ++ key.describe ++ ")"
    | none => ""

end Leuit
