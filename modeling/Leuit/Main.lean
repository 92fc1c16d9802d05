import Leuit.CommandLine.Run

/-! The program. Files are read into a tree before the run, and what the run changed in the tree is
written back; everything between is the business of `Leuit.CommandLine`. -/
open Leuit CommandLine

/-- The variables of the environment that may matter: those for settings, for the terminal and for the home
folder, and those that the file of variables mentions. -/
def variablesFor (file : String) : IO Environment := do
  let isNamePart (c : Char) : Bool := c.isAlphanum || c == '_'
  let words := (file.toList.splitOnP (!isNamePart ·)) ++ (file.toList.splitOnP (!Char.isAlphanum ·))
  let names := (words.filter (!·.isEmpty)).map String.ofList ++
    ["MAUNGDB_DATA_DIR", "MAUNGDB_DATABASE", "MAUNGDB_USER", "MAUNGDB_ROLE",
      "CLICOLOR_FORCE", "NO_COLOR", "CLICOLOR", "TERM", "HOME"]
  let mut known : Environment := .empty
  for name in names do
    if let some value ← IO.getEnv name then
      known := known.insert name value
  return known

/-- What is in the file at a path, which counts as sealed if it cannot be read. -/
def loadContent (path : Path) : IO Content := do
  match ← (IO.FS.readBinFile ((← IO.currentDir) / path.text)).toBaseIO with
  | .ok bytes =>
    return if h : bytes.IsValidUTF8 then .text (.ofByteArray bytes h) else .foreign bytes h
  | .error _ => return .sealed

/-- The tree with what stands at a path. -/
def loadNode (tree : FileTree) (path : Path) : IO FileTree := do
  let .ok place := tree.resolve path | return tree
  let there := (← IO.currentDir) / path.text
  if ← there.isDir then return if (tree.node? place).isSome then tree else tree.put place .folder
  else if ← there.pathExists then return tree.put place (.file (← loadContent path))
  else return tree

/-- The tree with what stands at a path and the folders on the way to it. -/
def loadAlong (tree : FileTree) (path : Path) : IO FileTree := do
  let mut tree := tree
  let mut way : Path := ⟨""⟩
  for name in path.names do
    way := way.join name
    tree ← loadNode tree way
  return tree

/-- The names in a folder, none if there is no such folder. -/
def namesIn (path : Path) : IO (List String) := do
  let there := (← IO.currentDir) / path.text
  if ← there.isDir then return (← there.readDir).toList.map (·.fileName) else return []

/-- The tree with the databases in a data folder. -/
def loadStore (tree : FileTree) (root : Path) : IO FileTree := do
  let mut tree ← loadAlong tree root
  for name in ← namesIn root do
    if (Directory.databaseOf? name).isSome then
      let folder := root.join name
      tree ← loadNode tree folder
      for file in ← namesIn folder do
        tree ← loadNode tree (folder.join file)
  return tree

/-- Makes the changes on disk that lead from a tree to another. -/
def storeChanges (before after : FileTree) : IO Unit := do
  for (place, node) in after.nodes.entries.reverse do
    unless before.node? place == some node do
      match node with
      | .folder => IO.FS.createDirAll ("/".intercalate place)
      | .file (.text text) => IO.FS.writeFile ("/".intercalate place) text
      | .file (.foreign bytes _) => IO.FS.writeBinFile ("/".intercalate place) bytes
      | .file .sealed => pure ()
  for (place, _) in before.nodes.entries do
    if (after.node? place).isNone then IO.FS.removeFile ("/".intercalate place)

/-- Reads lines and shows what the shell has to say, until it ends or the program stops with a message. -/
def serveShell (start : Shell) (prompting : Bool) : IO (Shell × Option String) := do
  let input ← IO.getStdin
  let output ← IO.getStdout
  let mut shell := start
  output.putStr (banner shell.session)
  repeat
    if prompting then output.putStr (prompt shell.session)
    output.flush
    let line ← input.getLine
    if line.isEmpty then
      output.putStr (farewell shell.session.colored)
      break
    let (shown, after, next) := shell.handle ((Text.lines line).headD "")
    storeChanges shell.session.engine.store.tree after.session.engine.store.tree
    output.putStr shown
    shell := after
    match next with
    | .line => continue
    | .farewell => break
    | .abort message => return (shell, some message)
  return (shell, none)

def finish (report : Report) : IO UInt32 := do
  IO.print report.output
  IO.eprint report.error
  return report.code.toUInt32

def main (arguments : List String) : IO UInt32 := do
  match Invocation.ofArguments arguments with
  | .misuse => finish ⟨2, "", usage⟩
  | .help => finish ⟨0, usage, ""⟩
  | .run options request =>
    let files ← loadNode .empty ⟨Environment.fileName⟩
    let files ← loadNode files ⟨Settings.fileName⟩
    let mentioned := match files.read ⟨Environment.fileName⟩ with
      | .ok text => text
      | .error _ => ""
    let environment := loadEnvironment files (← variablesFor mentioned)
    match settingsOf files environment options with
    | .error e => finish (.ofFault e)
    | .ok settings =>
      let history := historyPath environment
      let files ← loadAlong files history
      let files ← loadStore files ⟨settings.dataFolder⟩
      let colored := colorsWanted environment (← (← IO.getStdout).isTty)
      match openSession files settings options.json colored with
      | (.error e, after) =>
        storeChanges files after
        finish (.ofFault e)
      | (.ok session, after) =>
        storeChanges files after
        match request with
        | .shell =>
          let prompting := promptsAlways environment || (← (← IO.getStdin).isTty)
          match ← serveShell ⟨session, .readFrom after history⟩ prompting with
          | (ended, none) =>
            storeChanges ended.session.engine.store.tree (ended.close history)
            return 0
          | (_, some message) => finish (.ofAbort "" message)
        | .query text =>
          let (report, ended) := runQuery session text
          storeChanges after ended.engine.store.tree
          finish report
