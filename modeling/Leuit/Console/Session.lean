import Leuit.Administration.Databases
import Leuit.Console.Json
import Leuit.Console.Table
import Leuit.Engine.Basic

/-! Sessions of the shell. A line that starts with a point is a command of the shell and any other line
is a query; an empty line does nothing. Errors are shown like any other output and never end the
session. A query that cannot be gone on with ends the program. -/
namespace Leuit.Console

/-! ### Help -/

/-- The commands of the shell, as listed in the help. -/
def commandHelp : List (String × String) := [
  (".help", "Show this help"),
  (".exit", "Exit the shell"),
  (".use <db>", "Switch database"),
  (".whoami", "Show the current user, role and database"),
  (".tables", "List tables of the current database"),
  (".databases", "List databases"),
  (".createdb <name>", "Create a database (admin)")]

def exampleQueries : List String := [
  "DAMEL pegawai id:INT:PK,nama:STRING:NOTNULL,gaji:FLOAT",
  "SIMPEN pegawai 1|Asep|5000000",
  "TINGALI nama,gaji TI pegawai DIMANA gaji > 4000000 RUNTUYKEUN gaji TURUN SAKADAR 10",
  "TINGALI JUMLAH(*),RATA(gaji) TI pegawai",
  "OMEAN pegawai JADI gaji=6000000 DIMANA id = 1",
  "MICEUN TI pegawai DIMANA id = 1"]

def helpText (colored : Bool) : String :=
  paint colored .title "Commands:" ++ "\n" ++
    String.join (commandHelp.map fun (command, purpose) =>
      "  " ++ paint colored .typed (pad 18 command) ++ " " ++ purpose ++ "\n") ++
    "\n" ++ paint colored .title "Queries:" ++ "\n" ++
    String.join (exampleQueries.map fun query => "  " ++ paint colored .success query ++ "\n")

/-! ### Commands -/

inductive ShellCommand where
  | exit
  | help
  | whoAmI
  | use (database : String)
  | tables
  | databases
  | createDatabase (name : String)
  /-- A command that lacks what it is about, with its usage. -/
  | incomplete (usage : String)
  | unknown (name : String)
deriving DecidableEq, Repr

/-- The command in a line: its name goes up to the first blank, what follows is trimmed. -/
def ShellCommand.ofLine (line : String) : ShellCommand :=
  let name := String.ofList (line.toList.takeWhile (!Text.isBlank ·))
  let argument := Text.trim (String.ofList (line.toList.dropWhile (!Text.isBlank ·)))
  match name with
  | ".exit" | ".quit" | ".q" => exit
  | ".help" | ".h" | ".?" => help
  | ".whoami" => whoAmI
  | ".use" => if argument = "" then incomplete "Usage: .use <database>" else use argument
  | ".tables" => tables
  | ".databases" => databases
  | ".createdb" =>
    if argument = "" then incomplete "Usage: .createdb <name>" else createDatabase argument
  | other => unknown other

/-! ### Sessions -/

structure Session where
  engine : Engine Directory
  caller : Caller
  /-- Results are shown as JSON documents. -/
  json : Bool
  colored : Bool

inductive Outcome where
  | output (text : String)
  | exit
  /-- The program stops. -/
  | abort (message : String)
deriving DecidableEq, Repr

/-- What comes back for a query: what is shown of its answer or of its error, unless the program stops. -/
inductive Reply where
  | answer (text : String)
  | error (text : String)
  | abort (message : String)
deriving DecidableEq, Repr

/-- In a session, an error is shown like an answer. -/
def Reply.outcome : Reply → Outcome
  | answer text | error text => .output text
  | abort message => .abort message

namespace Session

def errorText (s : Session) (message : String) : String :=
  paint s.colored .error "Error:" ++ " " ++ message

/-- The reply to a query, and the session after it. -/
def query (s : Session) (text : String) : Reply × Session :=
  let (answer, engine) := s.engine.execute s.caller text
  let reply := match answer with
    | .ok a => .answer (if s.json then answerJson a else render s.colored a)
    | .error .aborted => .abort QueryError.aborted.message
    | .error e => .error (s.errorText e.message)
  (reply, { s with engine })

def whoAmI (s : Session) : String :=
  paint s.colored .faint "User:" ++ " " ++ s.caller.username ++ " (" ++ s.caller.role ++ ") on " ++
    paint s.colored .database s.caller.database

def useDatabase (s : Session) (database : String) : String × Session :=
  match s.engine.store.requireDatabase database with
  | .error e => (s.errorText e.message, s)
  | .ok () =>
    (paint s.colored .faint "Switched to database:" ++ " " ++ paint s.colored .database database,
      { s with caller := s.caller.withDatabase database })

def tableList (s : Session) : String :=
  match s.engine.store.tables s.caller.database with
  | .error e => s.errorText e.message
  | .ok [] => paint s.colored .faint "(no tables)"
  | .ok tables => "\n".intercalate tables

def databaseList (s : Session) : String :=
  match s.engine.store.databases with
  | .error e => s.errorText e.message
  | .ok names =>
    "\n".intercalate (names.map fun name =>
      if name = s.caller.database then
        paint s.colored .database name ++ " " ++ paint s.colored .faint "(current)"
      else name)

def createDatabase (s : Session) (name : String) : String × Session :=
  let (outcome, store) := s.engine.store.createDatabase s.caller.role name
  let text := match outcome with
    | .ok () => paint s.colored .success s!"Database '{name}' created"
    | .error e => s.errorText e.message
  (text, { s with engine := { s.engine with store } })

/-- What a command of the shell shows, and the session after it. -/
def command (s : Session) : ShellCommand → Outcome × Session
  | .exit => (.exit, s)
  | .help => (.output (helpText s.colored), s)
  | .whoAmI => (.output s.whoAmI, s)
  | .use database => let (text, after) := s.useDatabase database; (.output text, after)
  | .tables => (.output s.tableList, s)
  | .databases => (.output s.databaseList, s)
  | .createDatabase name => let (text, after) := s.createDatabase name; (.output text, after)
  | .incomplete usage => (.output (paint s.colored .typed usage), s)
  | .unknown name =>
    (.output (paint s.colored .unknown "Unknown command:" ++ " " ++ name ++ "\nType " ++
      paint s.colored .typed ".help" ++ " for help"), s)

/-- Handles one line of input. -/
def handleLine (s : Session) (line : String) : Outcome × Session :=
  let line := Text.trim line
  if line = "" then (.output "", s)
  else if line.toList.head? = some '.' then s.command (.ofLine line)
  else
    let (reply, after) := s.query line
    (reply.outcome, after)

end Session

end Leuit.Console
