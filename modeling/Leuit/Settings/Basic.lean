import Leuit.Administration.Error
import Leuit.Schema.Permissions
import Leuit.Toml.Document

/-! Settings of the program. They have standard values; the settings document may replace any of them,
and then the environment may replace all but the filter of the log. Empty variables replace
nothing. -/
namespace Leuit

structure Settings where
  dataFolder : String
  database : String
  username : String
  role : String
  /-- Which events are logged. -/
  logFilter : String
deriving DecidableEq, Repr

namespace Settings

def standard : Settings :=
  ⟨"maung_data", "default", "maung", superRole, "maungdb=info,maungql_core=info"⟩

/-- The name of the file that holds the settings document. -/
def fileName : String := "maungdb.toml"

/-! ### Reading -/

/-- The text of a setting; the value given if the document does not mention it. -/
def textOf (es : Toml.Entries) (key other : String) : Except DatabaseError String :=
  match es.get? key with
  | none => .ok other
  | some (.text s) => .ok s
  | some _ => .error (.settings s!"the value of '{key}' must be a string")

/-- Reads a settings document. Keys that are no settings are passed over. -/
def ofText (s : String) : Except DatabaseError Settings :=
  match Toml.entriesOf? s with
  | none => .error (.settings "malformed document")
  | some es => do
    return {
      dataFolder := ← textOf es "data_dir" standard.dataFolder
      database := ← textOf es "database" standard.database
      username := ← textOf es "username" standard.username
      role := ← textOf es "role" standard.role
      logFilter := ← textOf es "log_filter" standard.logFilter }

/-- The value of a variable, or the old value of the setting if the variable is absent or empty. -/
def replaced (environment : String → Option String) (name old : String) : String :=
  match environment name with
  | none | some "" => old
  | some value => value

def override (s : Settings) (environment : String → Option String) : Settings := { s with
  dataFolder := replaced environment "MAUNGDB_DATA_DIR" s.dataFolder
  database := replaced environment "MAUNGDB_DATABASE" s.database
  username := replaced environment "MAUNGDB_USER" s.username
  role := replaced environment "MAUNGDB_ROLE" s.role }

/-! ### Writing -/

/-- The settings document. -/
def text (s : Settings) : String :=
  String.join ([("data_dir", s.dataFolder), ("database", s.database), ("username", s.username),
    ("role", s.role), ("log_filter", s.logFilter)].map fun (key, value) =>
      key ++ " = " ++ Toml.writeText value ++ "\n")

end Settings

end Leuit
