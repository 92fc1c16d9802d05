import Leuit.Text.Blank
import Leuit.Text.Case
import Leuit.Text.NameSet

/-! Who may do what with a table: for each action the set of roles that may perform it. The super role
may do everything, whatever the sets say. -/
namespace Leuit

/-- The role that passes every permission check. -/
def superRole : String := "supermaung"

/-- The role that may write by default. -/
def adminRole : String := "admin"

/-- The role that may read by default. -/
def userRole : String := "user"

inductive Action where
  | read
  | write
deriving DecidableEq, Repr

namespace Action

def name : Action → String
  | read => "read"
  | write => "write"

def ofName? (text : String) : Option Action :=
  match Text.lower (Text.trim text) with
  | "read" => some read
  | "write" => some write
  | _ => none

def all : List Action := [read, write]

end Action

structure Permissions where
  readers : NameSet
  writers : NameSet
deriving DecidableEq

namespace Permissions

/-- No role but the super role may do anything. -/
def nobody : Permissions := ⟨∅, ∅⟩

def roles (p : Permissions) : Action → NameSet
  | .read => p.readers
  | .write => p.writers

/-- Replaces the roles of an action. -/
def set (p : Permissions) (action : Action) (roles : NameSet) : Permissions :=
  match action with
  | .read => { p with readers := roles }
  | .write => { p with writers := roles }

/-- Adds the roles to those of an action; blanks around a role are dropped, and so are blank roles. -/
def grant (p : Permissions) (action : Action) (roles : List String) : Permissions :=
  p.set action ((p.roles action).insertAll ((roles.map Text.trim).filter (· ≠ "")))

/-- Everybody reads; administrators write. -/
def standard : Permissions :=
  (nobody.grant .read [userRole, adminRole, superRole]).grant .write [adminRole, superRole]

def allows (p : Permissions) (role : String) (action : Action) : Bool :=
  role == superRole || decide (role ∈ p.roles action)

end Permissions

end Leuit
