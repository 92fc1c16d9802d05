/-! The arguments of the program: options first, each at most once, then a command with arguments of its
own. A value stands in the same argument as its option or in the next one, which then must not look
like an option. -/
namespace Leuit.CommandLine

/-- Options that replace settings. -/
structure Options where
  dataFolder : Option String
  database : Option String
  username : Option String
  role : Option String
  json : Bool
deriving DecidableEq, Repr

inductive Request where
  | shell
  | query (text : String)
deriving DecidableEq, Repr

/-- What the arguments ask for. -/
inductive Invocation where
  | run (options : Options) (request : Request)
  | help
  /-- The arguments do not fit. -/
  | misuse
deriving DecidableEq, Repr

def Options.none : Options := ⟨.none, .none, .none, .none, false⟩

/-! ### Options with a value -/

inductive Valued where
  | dataFolder
  | database
  | username
  | role
deriving DecidableEq, Repr

namespace Valued

def all : List Valued := [dataFolder, database, username, role]

def longName : Valued → String
  | dataFolder => "--data-dir"
  | database => "--database"
  | username => "--user"
  | role => "--role"

def shortName? : Valued → Option String
  | dataFolder => none
  | database => some "-d"
  | username => some "-u"
  | role => some "-r"

/-- What follows a word that an argument starts with. -/
def after? (start argument : String) : Option (List Char) :=
  if start.toList.isPrefixOf argument.toList then some (argument.toList.drop start.length) else none

/-- The value in an argument that starts with a short name; an equals sign before it is no part of it.
None of it is left for the bare name. -/
def shortValue? (name argument : String) : Option (Option String) :=
  (after? name argument).map fun rest =>
    match rest with
    | [] => none
    | '=' :: value => some (String.ofList value)
    | value => some (String.ofList value)

/-- The value in an argument with a long name, if any. -/
def longValue? (name argument : String) : Option (Option String) :=
  match after? name argument with
  | some [] => some none
  | some ('=' :: value) => some (some (String.ofList value))
  | _ => none

/-- The value in an argument, if any, for the options that the argument names. -/
def value? (o : Valued) (argument : String) : Option (Option String) :=
  longValue? o.longName argument <|> o.shortName?.bind (shortValue? · argument)

/-- The option that an argument names, and the value in it, if any. -/
def ofArgument? (argument : String) : Option (Valued × Option String) :=
  all.findSome? fun o => (o.value? argument).map (o, ·)

end Valued

/-- Gives an option its value; none if it has one, or if it is the name of the data folder and empty. -/
def Options.set? (options : Options) (o : Valued) (value : String) : Option Options :=
  match o with
  | .dataFolder =>
    if options.dataFolder.isSome || value == "" then .none
    else some { options with dataFolder := value }
  | .database => if options.database.isSome then .none else some { options with database := value }
  | .username => if options.username.isSome then .none else some { options with username := value }
  | .role => if options.role.isSome then .none else some { options with role := value }

/-! ### Commands -/

/-- Whether an argument has the form of an option. -/
def looksLikeOption (argument : String) : Bool :=
  argument.toList.head? == some '-' && argument != "-"

/-- Whether an argument asks for help. -/
def asksHelp (argument : String) : Bool :=
  argument == "--help" || "-h".toList.isPrefixOf argument.toList

/-- What follows the command for the shell. -/
def shellArguments (options : Options) : List String → Invocation
  | [] | ["--"] => .run options .shell
  | argument :: _ => if asksHelp argument then .help else .misuse

/-- What follows the command for a query, of which `text` was read already. -/
def queryArguments (options : Options) (text : Option String) : List String → Invocation
  | [] =>
    match text with
    | some text => .run options (.query text)
    | none => .misuse
  | argument :: rest =>
    if argument = "--" then
      match text.toList ++ rest with
      | [text] => .run options (.query text)
      | _ => .misuse
    else if asksHelp argument then .help
    else if looksLikeOption argument || text.isSome then .misuse
    else queryArguments options (some argument) rest

/-- What follows the command for help: the commands it is about. -/
def helpArguments : List String → Invocation
  | [] | ["shell"] | ["query"] | ["help"] => .help
  | _ => .misuse

/-- Reads arguments, some options having been read already. -/
def readArguments (options : Options) : List String → Invocation
  | [] | ["--"] => .run options .shell
  | argument :: rest =>
    match Valued.ofArgument? argument with
    | some (o, some value) =>
      match options.set? o value with
      | some options => readArguments options rest
      | none => .misuse
    | some (o, none) =>
      match rest with
      | [] => .misuse
      | value :: rest =>
        if looksLikeOption value then .misuse
        else
          match options.set? o value with
          | some options => readArguments options rest
          | none => .misuse
    | none =>
      match argument with
      | "--json" => if options.json then .misuse else readArguments { options with json := true } rest
      | "shell" => shellArguments options rest
      | "query" => queryArguments options none rest
      | "help" => helpArguments rest
      | other => if asksHelp other then .help else .misuse

/-- What the arguments ask for. -/
def Invocation.ofArguments (arguments : List String) : Invocation := readArguments .none arguments

/-! ### Texts -/

def usage : String :=
  "Usage: maungdb [OPTIONS] [COMMAND]\n\nCommands:\n" ++
  "  shell  Start the interactive shell (default)\n" ++
  "  query  Run a single query and print its result\n\nOptions:\n" ++
  "      --data-dir <DATA_DIR>  Data directory path\n" ++
  "  -d, --database <DATABASE>  Database to start in\n" ++
  "  -u, --user <USER>          Session user name\n" ++
  "  -r, --role <ROLE>          Session role (supermaung, admin, user)\n" ++
  "      --json                 Print results as JSON\n" ++
  "  -h, --help                 Print help\n"

end Leuit.CommandLine
