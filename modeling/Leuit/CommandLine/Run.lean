import Leuit.CommandLine.Arguments
import Leuit.Console.Erasure
import Leuit.Console.History
import Leuit.Console.Session
import Leuit.Settings.Basic
import Leuit.Settings.Environment

/-! Runs of the program. A run reads its settings and opens the store; it then either carries out one
request and ends with a report, or goes on as a session of the shell. -/
namespace Leuit.CommandLine
open Console

/-- What a run leaves on its outputs. -/
structure Report where
  code : Nat
  output : String
  error : String
deriving DecidableEq, Repr

/-! ### Starting -/

/-- The environment after the file that adds variables, if it is there. -/
def loadEnvironment (files : FileTree) (environment : Environment) : Environment :=
  match files.read ⟨Environment.fileName⟩ with
  | .ok text => environment.addFile text
  | .error _ => environment

/-- The settings in the working folder; standard ones if there is no settings document. -/
def loadSettings (files : FileTree) : Except DatabaseError Settings :=
  if files.contains ⟨Settings.fileName⟩ then
    match files.read ⟨Settings.fileName⟩ with
    | .ok text => Settings.ofText text
    | .error e => .error (.medium e.message)
  else .ok .standard

/-- The settings with options in place of those they replace. -/
def Options.apply (o : Options) (s : Settings) : Settings := { s with
  dataFolder := o.dataFolder.getD s.dataFolder
  database := o.database.getD s.database
  username := o.username.getD s.username
  role := o.role.getD s.role }

/-- All settings of a run. The environment is that after the file of variables. -/
def settingsOf (files : FileTree) (environment : Environment) (o : Options) :
    Except DatabaseError Settings :=
  (loadSettings files).map fun s => o.apply (s.override environment.value?)

/-- Whether the output is coloured: if that is forced, or on a terminal unless it is turned off. -/
def colorsWanted (environment : Environment) (terminal : Bool) : Bool :=
  if (environment.value? "CLICOLOR_FORCE").any (· ≠ "0") then true
  else if (environment.value? "NO_COLOR").isSome then false
  else terminal && (environment.value? "CLICOLOR").all (· ≠ "0")

/-- Terminals on which a line cannot be edited; on them the shell prompts even for input from a file. -/
def plainTerminals : List String := ["dumb", "cons25", "emacs"]

def promptsAlways (environment : Environment) : Bool :=
  (environment.value? "TERM").any fun terminal => plainTerminals.any (Text.sameIgnoringCase terminal)

/-- A session in the database that the settings name, which is made if it is missing, or the fault that
prevents it; and the files then. -/
def openSession (files : FileTree) (s : Settings) (json colored : Bool) :
    Except DatabaseError Session × FileTree :=
  match Directory.openAt files ⟨s.dataFolder⟩ with
  | (.error e, d) => (.error e, d.tree)
  | (.ok (), d) =>
    match d.ensureDatabase s.database with
    | (.error e, d) => (.error e, d.tree)
    | (.ok (), d) =>
      (.ok ⟨.ofStore d, ⟨s.username, s.role, s.database⟩, json, colored⟩, d.tree)

/-! ### Ending -/

/-- The report on a fault that prevents a run. -/
def Report.ofFault (e : DatabaseError) : Report :=
  let cause := match e with
    | .medium text | .settings text => "\n\nCaused by:\n    " ++ text
    | _ => ""
  ⟨1, "", "Error: " ++ e.message ++ cause ++ "\n"⟩

/-- The report on a program that stops after some output. -/
def Report.ofAbort (output message : String) : Report := ⟨101, output, message ++ "\n"⟩

/-- Carries out a single query, which may also be a command of the shell. -/
def runQuery (s : Session) (text : String) : Report × Session :=
  if (Text.trimStart text).toList.head? = some '.' then
    match s.handleLine text with
    | (.output shown, s) => (⟨0, shown ++ "\n", ""⟩, s)
    | (.exit, s) => (⟨0, "", ""⟩, s)
    | (.abort message, s) => (.ofAbort "" message, s)
  else
    match s.query (Text.trim text) with
    | (.answer shown, s) => (⟨0, shown ++ "\n", ""⟩, s)
    | (.error shown, s) => (⟨1, "", shown ++ "\n"⟩, s)
    | (.abort message, s) => (.ofAbort "" message, s)

/-! ### The shell -/

def version : String := "0.4.0"

def emblem : String :=
  "\n   __  __                         ___  ___\n" ++
  "  |  \\/  | __ _ _  _ _ _  __ _   |   \\| _ )\n" ++
  "  | |\\/| |/ _` | || | ' \\/ _` |  | |) | _ \\\n" ++
  "  |_|  |_|\\__,_|\\_,_|_||_\\__, |  |___/|___/\n" ++
  "                         |___/\n"

/-- What the shell shows first. -/
def banner (s : Session) : String :=
  paint s.colored .typed emblem ++ "\n" ++
    "  " ++ paint s.colored .title "MaungDB shell" ++ " " ++ paint s.colored .faint version ++ "\n" ++
    "  " ++ paint s.colored .faint "User:" ++ " " ++ paint s.colored .user s.caller.username ++
      " (" ++ s.caller.role ++ ")\n" ++
    "  Type " ++ paint s.colored .typed ".help" ++ " for help, " ++ paint s.colored .typed ".exit" ++
      " to quit\n\n"

/-- What the shell shows last. -/
def farewell (colored : Bool) : String := paint colored .faint "Wilujeng!" ++ "\n"

/-- What the shell shows in front of a line. -/
def prompt (s : Session) : String :=
  paint s.colored .database s.caller.database ++ paint s.colored .user ">" ++ " "

/-- The name of the file that keeps the history. -/
def historyName : String := ".maungdb_history"

/-- Where the history is kept: in the home folder, or in the working folder if none is known. -/
def historyPath (environment : Environment) : Path :=
  Path.join ⟨(environment.value? "HOME").getD ""⟩ historyName

/-- A session that lines are typed into, and those lines. -/
structure Shell where
  session : Session
  history : History

/-- How the shell goes on after a line. -/
inductive Shell.Next where
  | line
  | farewell
  | abort (message : String)
deriving DecidableEq, Repr

namespace Shell

/-- What the shell shows for a line, the shell after it, and how it goes on. -/
def handle (sh : Shell) (typed : String) : String × Shell × Next :=
  let line := Text.trim (eraseBack typed)
  let (outcome, session) := sh.session.handleLine line
  let after : Shell := ⟨session, sh.history.add line⟩
  match outcome with
  | .exit => (farewell session.colored, after, .farewell)
  | .abort message => ("", after, .abort message)
  | .output "" => ("", after, .line)
  | .output text => (text ++ "\n", after, .line)

/-- What the shell shows for lines of input up to the one that ends it, with the message if the program stops
there. -/
def handleAll (prompting : Bool) (sh : Shell) : List String → String × Shell × Option String
  | [] => ((if prompting then prompt sh.session else "") ++ farewell sh.session.colored, sh, none)
  | line :: rest =>
    let before := if prompting then prompt sh.session else ""
    match sh.handle line with
    | (shown, sh, .farewell) => (before ++ shown, sh, none)
    | (shown, sh, .abort message) => (before ++ shown, sh, some message)
    | (shown, sh, .line) =>
      let (more, sh, stopped) := handleAll prompting sh rest
      (before ++ shown ++ more, sh, stopped)

/-- The files once the shell has ended. -/
def close (sh : Shell) (path : Path) : FileTree := sh.history.keepIn sh.session.engine.store.tree path

end Shell

/-! ### Whole runs -/

/-- Carries out what the arguments ask for, with the given text as input and no terminal. -/
def run (files : FileTree) (environment : Environment) (arguments : List String) (input : String) :
    Report × FileTree :=
  match Invocation.ofArguments arguments with
  | .misuse => (⟨2, "", usage⟩, files)
  | .help => (⟨0, usage, ""⟩, files)
  | .run options request =>
    let environment := loadEnvironment files environment
    match settingsOf files environment options with
    | .error e => (.ofFault e, files)
    | .ok settings =>
      match openSession files settings options.json (colorsWanted environment false) with
      | (.error e, files) => (.ofFault e, files)
      | (.ok s, files) =>
        match request with
        | .query text =>
          let (report, s) := runQuery s text
          (report, s.engine.store.tree)
        | .shell =>
          let path := historyPath environment
          match Shell.handleAll (promptsAlways environment) ⟨s, .readFrom files path⟩ (Text.lines input) with
          | (shown, after, none) => (⟨0, banner s ++ shown, ""⟩, after.close path)
          -- The history is kept by a shell that ends as it should.
          | (shown, after, some message) =>
            (.ofAbort (banner s ++ shown) message, after.session.engine.store.tree)

end Leuit.CommandLine
