import Leuit.Administration.Error
import Leuit.Engine.Task
import Leuit.Store.Directory

/-! Databases in a data folder, and the roles that may make them. Roles have levels, a lower one with
more privilege; the permissions of single tables are another matter. -/
namespace Leuit

/-! ### Roles -/

/-- The level of a known role. -/
def roleLevel? (role : String) : Option Nat :=
  if role = superRole then some 0
  else if role = adminRole then some 1
  else if role = userRole then some 2
  else none

/-- Fails unless a role has at least the privilege of another. -/
def requireRole (role required : String) : Except DatabaseError Unit :=
  match roleLevel? required with
  | none => .error (.roleNotFound required)
  | some limit =>
    match roleLevel? role with
    | none => .error (.roleNotFound role)
    | some level => if level ≤ limit then .ok () else .error (.insufficientPrivilege role required)

/-! ### Databases -/

namespace Directory

def mediumFault (e : FileFault) : DatabaseError := .medium e.message

/-- Makes the folders of a path that are missing. -/
def makeFolders (d : Directory) (path : Path) : Except DatabaseError Unit × Directory :=
  let (outcome, tree) := d.tree.makeFolders path
  (outcome.mapError mediumFault, { d with tree })

/-- The store in a data folder, which is made if it is missing. -/
def openAt (tree : FileTree) (root : Path) : Except DatabaseError Unit × Directory :=
  (⟨tree, root⟩ : Directory).makeFolders root

def checkDatabaseName (database : String) : Except DatabaseError Unit :=
  (Definition.checkName "database" database).mapError .query

/-- Makes a database unless there is one already, whoever asks. -/
def ensureDatabase (d : Directory) (database : String) : Except DatabaseError Unit × Directory :=
  match checkDatabaseName database with
  | .error e => (.error e, d)
  | .ok () =>
    if d.hasDatabase database then (.ok (), d) else d.makeFolders (d.folder database)

/-- Makes a new database, if the role is that of an administrator. -/
def createDatabase (d : Directory) (role database : String) : Except DatabaseError Unit × Directory :=
  match requireRole role adminRole with
  | .error e => (.error e, d)
  | .ok () =>
    match checkDatabaseName database with
    | .error e => (.error e, d)
    | .ok () =>
      if d.tree.contains (d.folder database) then (.error (.databaseExists database), d)
      else d.makeFolders (d.folder database)

/-- The database whose folder has that name. -/
def databaseOf? (name : String) : Option String :=
  let (start, rest) := name.toList.splitAt folderStart.length
  if start = folderStart.toList then some (String.ofList rest) else none

/-- The names of all databases, in order. -/
def databases (d : Directory) : Except DatabaseError (List String) :=
  match d.tree.list d.root with
  | .error e => .error (mediumFault e)
  | .ok entries =>
    .ok (NameSet.ofList (entries.filterMap fun (name, node) =>
      if node = .folder then databaseOf? name else none)).names

def requireDatabase (d : Directory) (database : String) : Except DatabaseError Unit :=
  if d.hasDatabase database then .ok () else .error (.databaseNotFound database)

end Directory

end Leuit
