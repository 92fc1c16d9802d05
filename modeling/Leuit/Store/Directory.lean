import Leuit.Store.Basic
import Leuit.Store.FileTree

/-! A store in a folder of files. Each database is a folder `db_NAME` in the data folder, and each table
has there a file for its definition and a file for its records, one record a line. -/
namespace Leuit

structure Directory where
  tree : FileTree
  /-- The data folder. -/
  root : Path

namespace Directory

def folderStart : String := "db_"

def schemaExtension : String := "schema"

def recordExtension : String := "mg"

def temporaryExtension : String := "tmp"

/-- The folder of a database. -/
def folder (d : Directory) (database : String) : Path :=
  d.root.join (folderStart ++ database)

/-- The folder of a database as it is named in the data folder. -/
def folderName (database : String) : String := (Path.mk (folderStart ++ database)).trimEnd.text

def hasDatabase (d : Directory) (database : String) : Bool := d.tree.isFolder (d.folder database)

/-- Fails unless the names may name files and the database exists. -/
def check (d : Directory) (database : String) : Except QueryError Unit :=
  match Definition.checkName "database" database with
  | .error e => .error e
  | .ok () => if d.hasDatabase database then .ok () else .error (.notFound (.database database))

/-- The file of a table with the given extension. -/
def file (d : Directory) (database table extension : String) : Path :=
  (d.folder database).join (table ++ "." ++ extension)

def checkTable (d : Directory) (database table : String) : Except QueryError Unit :=
  match Definition.checkName "database" database with
  | .error e => .error e
  | .ok () =>
    match Definition.checkName "table" table with
    | .error e => .error e
    | .ok () => d.check database

def faultOf (e : FileFault) : QueryError := .storage (.medium e.message)

/-! ### Reading -/

def readSchema (d : Directory) (database table : String) : Except QueryError (Option String) :=
  match d.checkTable database table with
  | .error e => .error e
  | .ok () =>
    match d.tree.read (d.file database table schemaExtension) with
    | .ok text => .ok (some text)
    | .error .notFound => .ok none
    | .error e => .error (faultOf e)

def readRecords (d : Directory) (database table : String) : Except QueryError (List String) :=
  match d.checkTable database table with
  | .error e => .error e
  | .ok () =>
    match d.tree.read (d.file database table recordExtension) with
    | .ok text => .ok (Text.lines text)
    | .error .notFound => .error (.notFound (.records table))
    | .error e => .error (faultOf e)

/-- The table whose definition a file of that name holds. -/
def tableOf? (name : String) : Option String :=
  let ending := ('.' :: schemaExtension.toList)
  let stem := name.toList.take (name.length - ending.length)
  if stem ≠ [] ∧ name.toList = stem ++ ending then some (String.ofList stem) else none

def tables (d : Directory) (database : String) : Except QueryError (List String) :=
  match d.check database with
  | .error e => .error e
  | .ok () =>
    match d.tree.list (d.folder database) with
    | .error e => .error (faultOf e)
    | .ok entries => .ok (NameSet.ofList (entries.filterMap fun (name, _) => tableOf? name)).names

/-! ### Writing -/

/-- The text of a file that holds the records. -/
def recordText (records : List String) : String :=
  let text := "\n".intercalate records
  if text = "" then "" else text ++ "\n"

/-- An edit of the files, once the names are checked. -/
def editFiles (d : Directory) (database : String) : Edit → Except FileFault Unit × FileTree
  | .define table document =>
    d.tree.replace (d.file database table temporaryExtension) (d.file database table schemaExtension)
      document
  | .provision table => d.tree.makeFile (d.file database table recordExtension)
  | .append table record => d.tree.append (d.file database table recordExtension) (record ++ "\n")
  | .replace table records =>
    d.tree.replace (d.file database table temporaryExtension) (d.file database table recordExtension)
      (recordText records)

/-- How a failed edit is reported: a table without records lacks them, all else is the medium's fault. -/
def editFault : Edit → FileFault → QueryError
  | .append table _, .notFound => .notFound (.records table)
  | _, e => faultOf e

def edit (d : Directory) (database : String) (e : Edit) : Except QueryError Unit × Directory :=
  match d.checkTable database e.table with
  | .error fault => (.error fault, d)
  | .ok () =>
    let (outcome, tree) := d.editFiles database e
    (outcome.mapError (editFault e), { d with tree })

instance : Storage Directory where
  snapshot d database := ⟨d.readSchema database, d.readRecords database⟩
  edit := edit
  tables := tables

end Directory

end Leuit
