import Leuit.Toml.Quoted
import Leuit.Toml.Scalar
import Leuit.Toml.Table

/-! Settings documents in the format TOML. A document is a row of statements, one to a line: headers,
which open tables, and keys with values. -/
namespace Leuit.Toml

/-! ### Blanks and comments -/

def skipWhite (cs : List Char) : List Char := cs.dropWhile isWhite

/-- What follows this line, if only blanks and a comment are left of it. -/
def afterLine? (cs : List Char) : Option (List Char) :=
  let rest := match skipWhite cs with
    | '#' :: comment => comment.dropWhile isPlain
    | rest => rest
  match rest with
  | [] => some []
  | rest => afterLineEnd? rest

/-- Drops blanks, line ends and comments. -/
def skipLines : List Char → List Char
  | '\r' :: '\n' :: rest => skipLines rest
  | c :: rest =>
    if isWhite c || c == '\n' then skipLines rest
    else if c = '#' then skipLines (rest.dropWhile isPlain)
    else c :: rest
  | [] => []
termination_by cs => cs.length
decreasing_by
  · simp only [List.length_cons]; omega
  · exact Nat.lt_succ_self _
  · exact Nat.lt_succ_of_le (List.dropWhile_sublist isPlain).length_le

/-! ### Keys -/

def isBareChar (c : Char) : Bool := c.isAlphanum || c == '_' || c == '-'

/-- Reads one key, quoted or bare. -/
def readKey (cs : List Char) : Option (String × List Char) :=
  match cs.takeWhile isBareChar with
  | [] => readLineText cs
  | bare => some (String.ofList bare, cs.dropWhile isBareChar)

/-- Reads keys with points between them, and the blanks around each. -/
def readKeys (cs : List Char) : Option (List String × List Char) :=
  match readKey (skipWhite cs) with
  | none => none
  | some (key, rest) =>
    match skipWhite rest with
    | '.' :: more =>
      if _h : more.length < cs.length then
        (readKeys more).map fun (keys, rest) => (key :: keys, rest)
      else none
    | rest => some ([key], rest)
termination_by cs.length

/-- Collections and dotted keys are less deep than this. -/
def depthLimit : Nat := 80

/-- Reads a dotted key: all keys but the last, and the last. -/
def readPath (cs : List Char) : Option (List String × String × List Char) :=
  match readKeys cs with
  | none => none
  | some (keys, rest) =>
    match keys.getLast? with
    | none => none
    | some last => if keys.length < depthLimit then some (keys.dropLast, last, rest) else none

/-! ### Values -/

/-- What follows an array whose opening bracket has passed. -/
def afterArray? (readValue : List Char → Option (Item × List Char)) (cs : List Char) :
    Option (List Char) :=
  match skipLines cs with
  | ']' :: rest => some rest
  | start =>
    match readValue start with
    | none => none
    | some (_, rest) =>
      match skipLines rest with
      | ']' :: rest => some rest
      | ',' :: rest => if _h : rest.length < cs.length then afterArray? readValue rest else none
      | _ => none
termination_by cs.length

/-- What follows the pairs of an inline table, the first of which stands here. -/
def afterPairs? (readValue : List Char → Option (Item × List Char)) (es : Entries) (cs : List Char) :
    Option (List Char) :=
  match readPath cs with
  | some (dotted, key, '=' :: rest) =>
    match readValue (skipWhite rest) with
    | none => none
    | some (item, rest) =>
      match es.assign dotted key item with
      | none => none
      | some es =>
        match skipWhite rest with
        | '\x7d' :: rest => some rest
        | ',' :: rest => if _h : rest.length < cs.length then afterPairs? readValue es rest else none
        | _ => none
  | _ => none
termination_by cs.length

/-- What follows an inline table whose opening brace has passed. -/
def afterInlineTable? (readValue : List Char → Option (Item × List Char)) (cs : List Char) :
    Option (List Char) :=
  match skipWhite cs with
  | '\x7d' :: rest => some rest
  | start => afterPairs? readValue [] start

/-- Reads a value in which collections nest less deep than `depth`. -/
def readValue (depth : Nat) (cs : List Char) : Option (Item × List Char) :=
  let other (rest : Option (List Char)) : Option (Item × List Char) := rest.map (.other, ·)
  match cs, depth with
  | [], _ | '[' :: _, 0 | '\x7b' :: _, 0 => none
  | '[' :: rest, depth + 1 => other (afterArray? (readValue depth) rest)
  | '\x7b' :: rest, depth + 1 => other (afterInlineTable? (readValue depth) rest)
  | c :: rest, _ =>
    if c = basicQuote ∨ c = literalQuote then
      (readText (c :: rest)).map fun (text, rest) => (.text text, rest)
    else other (afterScalar? (c :: rest))

/-! ### Documents -/

inductive Statement where
  | openTable (path : List String) (key : String)
  | openElement (path : List String) (key : String)
  | assign (dotted : List String) (key : String) (item : Item)

/-- Reads a statement and the rest of its line. -/
def readStatement (cs : List Char) : Option (Statement × List Char) :=
  match cs with
  | '[' :: '[' :: rest =>
    match readPath rest with
    | some (path, key, ']' :: ']' :: rest) => (afterLine? rest).map (.openElement path key, ·)
    | _ => none
  | '[' :: rest =>
    match readPath rest with
    | some (path, key, ']' :: rest) => (afterLine? rest).map (.openTable path key, ·)
    | _ => none
  | cs =>
    match readPath cs with
    | some (dotted, key, '=' :: rest) =>
      match readValue (depthLimit - 1) (skipWhite rest) with
      | some (item, rest) => (afterLine? rest).map (.assign dotted key item, ·)
      | none => none
    | _ => none

/-- Reads the statements of a text; lines without one are blank or hold a comment. -/
def readStatements (cs : List Char) : Option (List Statement) :=
  match skipLines cs with
  | [] => some []
  | start =>
    match readStatement start with
    | none => none
    | some (statement, rest) =>
      if _h : rest.length < cs.length then (readStatements rest).map (statement :: ·) else none
termination_by cs.length

/-- Performs statements on the entries of a document, where keys belong to the table at the path
`current`. -/
def perform (current : List String) (es : Entries) : List Statement → Option Entries
  | [] => some es
  | .openTable path key :: rest =>
    (es.within path (·.openTable key)).bind (perform (path ++ [key]) · rest)
  | .openElement path key :: rest =>
    (es.within path (·.openElement key)).bind (perform (path ++ [key]) · rest)
  | .assign dotted key item :: rest =>
    (es.within current (·.assign dotted key item)).bind (perform current · rest)

/-- The entries of a document; none if it is malformed or defines something twice. -/
def entriesOf? (s : String) : Option Entries :=
  let text := match s.toList with
    | '\uFEFF' :: rest => rest
    | cs => cs
  (readStatements text).bind (perform [] [])

end Leuit.Toml
