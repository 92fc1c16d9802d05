import Leuit.Store.Keyed
import Leuit.Text.Alphanumeric
import Leuit.Text.Blank

/-! The environment, and files that add variables to it. A line of such a file is `NAME=value`, with the
word `export` in front if one likes; a value may be quoted, may hold escapes and may refer to other
variables, and a quoted one may go over several lines. A variable that is there already keeps its value.
The first line that cannot be read ends the file, but what was added before stays. -/
namespace Leuit

abbrev Environment := Keyed String String

namespace Environment

/-- The name of the file that adds variables. -/
def fileName : String := ".env"

/-- The value of a variable. An entry stands for the text `NAME=value`, and a variable has what follows its
name and an equals sign in the first entry that starts so. A name that holds an equals sign itself thus
reads on in the value of another. -/
def value? (e : Environment) (name : String) : Option String :=
  if name = "" then none
  else
    let start := name.toList ++ ['=']
    e.entries.findSome? fun (key, value) =>
      let entry := key.toList ++ '=' :: value.toList
      if start.isPrefixOf entry then some (String.ofList (entry.drop start.length)) else none

/-! ### Lines -/

/-- What a character of a line stands in. -/
inductive LineState where
  | bare
  /-- Right after a blank, where a comment may start. -/
  | blank
  | escape
  | strong
  | strongEscape
  | weak
  | weakEscape
deriving DecidableEq, Repr

def LineState.next (s : LineState) (c : Char) : LineState :=
  let opened : LineState :=
    if c = '\\' then .escape else if c = '\x22' then .weak else if c = '\x27' then .strong else .bare
  match s with
  | bare => if Text.isBlank c && c != '\n' && c != '\r' then blank else opened
  | blank => opened
  | escape => bare
  | weak => if c = '\\' then weakEscape else if c = '\x22' then bare else weak
  | weakEscape => weak
  | strong => if c = '\\' then strongEscape else if c = '\x27' then bare else strong
  | strongEscape => strong

/-- The characters before a comment, and the state after them unless there is a comment. -/
def beforeComment (s : LineState) : List Char → List Char × Option LineState
  | [] => ([], some s)
  | c :: rest =>
    if s = .blank ∧ c = '#' then ([], none)
    else
      let (kept, after) := beforeComment (s.next c) rest
      (c :: kept, after)

def withoutLineEnd (line : List Char) : List Char :=
  if line.getLast? = some '\n' then
    if line.dropLast.getLast? = some '\r' then line.dropLast.dropLast else line.dropLast
  else line

/-- Puts lines together that belong to one quoted value. `held` is what was read of a line that goes on
in the given state. A line that never ends is dropped. -/
def joinLines (held : List Char) (s : LineState) : List (List Char) → List (List Char)
  | [] => []
  | line :: rest =>
    if ((held ++ line).dropWhile Text.isBlank).head? = some '#' then joinLines [] .bare rest
    else
      match beforeComment s line with
      | (kept, none) => (held ++ kept) :: joinLines [] .bare rest
      | (kept, some .bare) => withoutLineEnd (held ++ kept) :: joinLines [] .bare rest
      | (kept, some after) => joinLines (held ++ kept) after rest

/-- The lines of a text, each with the line feed that ends it. -/
def rawLines (cs : List Char) : List (List Char) :=
  let pieces := cs.splitOn '\n'
  pieces.dropLast.map (· ++ ['\n']) ++ (pieces.getLast?.toList.filter (!·.isEmpty))

/-! ### Values -/

/-- What the characters of a value stand in. -/
inductive ValueState where
  | bare
  | weak
  | strong
  /-- After a backslash, inside double quotes or not. -/
  | escape (weak : Bool)
  /-- In the name of a variable after a dollar sign. -/
  | name (weak : Bool) (soFar : List Char)
  /-- In the name of a variable in braces. -/
  | braced (weak : Bool) (soFar : List Char)
  /-- After a blank that ends the value. -/
  | ended
deriving DecidableEq, Repr

def ValueState.around (weak : Bool) : ValueState := if weak then .weak else .bare

/-- The value of a variable that a reference names. -/
def resolve (e : Environment) (name : List Char) : List Char :=
  ((e.value? (String.ofList name)).getD "").toList

/-- Whether a backslash in front of the character stands for it, or for a line feed. -/
def escapeOf? (c : Char) : Option Char :=
  if c = 'n' then some '\n' else if "\\\x27\x22$ ".toList.contains c then some c else none

/-- The value that a row of characters spells, from a state on. -/
def readValue (e : Environment) : ValueState → List Char → Option (List Char)
  | .bare, [] | .ended, [] | .escape false, [] => some []
  | .name false name, [] => some (resolve e name)
  | _, [] => none
  | .ended, c :: rest =>
    if c = ' ' ∨ c = '\t' then readValue e .ended rest else if c = '#' then some [] else none
  | .escape weak, c :: rest =>
    match escapeOf? c with
    | none => none
    | some meant => (readValue e (.around weak) rest).map (meant :: ·)
  | .strong, c :: rest =>
    if c = '\x27' then readValue e .bare rest else (readValue e .strong rest).map (c :: ·)
  | .name weak name, c :: rest =>
    if Text.isAlphanumeric c then readValue e (.name weak (name ++ [c])) rest
    else if c = '\x7b' ∧ name = [] then readValue e (.braced weak []) rest
    else if c = '$' then (readValue e (.name weak []) rest).map (resolve e name ++ ·)
    else (readValue e (.around weak) rest).map (resolve e name ++ c :: ·)
  | .braced weak name, c :: rest =>
    if c = '\x7d' then (readValue e (.around weak) rest).map (resolve e name ++ ·)
    else readValue e (.braced weak (name ++ [c])) rest
  | .weak, c :: rest =>
    if c = '$' then readValue e (.name true []) rest
    else if c = '\x22' then readValue e .bare rest
    else if c = '\\' then readValue e (.escape true) rest
    else (readValue e .weak rest).map (c :: ·)
  | .bare, c :: rest =>
    if c = '$' then readValue e (.name false []) rest
    else if c = '\x27' then readValue e .strong rest
    else if c = '\x22' then readValue e .weak rest
    else if c = '\\' then readValue e (.escape false) rest
    else if c = ' ' ∨ c = '\t' then readValue e .ended rest
    else (readValue e .bare rest).map (c :: ·)

/-! ### Settings of variables -/

/-- Reads a name and the blanks after it. -/
def readName (cs : List Char) : Option (String × List Char) :=
  let isLater (c : Char) : Bool := c.isAlphanum || c == '_' || c == '.'
  match cs with
  | [] => none
  | c :: _ =>
    if c.isAlpha || c == '_' then
      some (String.ofList (cs.takeWhile isLater), (cs.dropWhile isLater).dropWhile Text.isBlank)
    else none

/-- Reads a name up to the equals sign; the name may follow the word `export`. -/
def readTarget (cs : List Char) : Option (String × List Char) :=
  match readName cs with
  | some (name, '=' :: rest) => some (name, rest)
  | some ("export", rest) =>
    match readName rest with
    | some (name, '=' :: rest) => some (name, rest)
    | _ => none
  | _ => none

/-- The environment after one line of a file; none if the line cannot be read. -/
def addLine (e : Environment) (line : List Char) : Option Environment :=
  match Text.dropEnds Text.isBlank line with
  | [] | '#' :: _ => some e
  | start =>
    match readTarget start with
    | none => none
    | some (name, rest) =>
      let value := match rest.dropWhile Text.isBlank with
        | [] | '#' :: _ => some []
        | spelled => readValue e .bare spelled
      value.map fun v => if (e.value? name).isSome then e else e.insert name (String.ofList v)

/-- The environment after lines up to the first that cannot be read. -/
def addLines (e : Environment) : List (List Char) → Environment
  | [] => e
  | line :: rest =>
    match addLine e line with
    | none => e
    | some after => addLines after rest

/-- The environment after a file with the given text. -/
def addFile (e : Environment) (text : String) : Environment :=
  let body := match text.toList with
    | '\uFEFF' :: rest => rest
    | cs => cs
  addLines e (joinLines [] .bare (rawLines body))

end Environment

end Leuit
