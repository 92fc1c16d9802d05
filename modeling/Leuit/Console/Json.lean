import Leuit.Engine.Task

/-! Answers as JSON documents, indented by two spaces a level. Integers, floats and truth values are
numbers and words; what is not a finite number is null; dates and texts are strings. -/
namespace Leuit.Console

def escapeChar (c : Char) : List Char :=
  if c = '\x22' then ['\\', '\x22']
  else if c = '\\' then ['\\', '\\']
  else if c = '\n' then ['\\', 'n']
  else if c = '\r' then ['\\', 'r']
  else if c = '\t' then ['\\', 't']
  else if c.toNat = 8 then ['\\', 'b']
  else if c.toNat = 12 then ['\\', 'f']
  else if c.toNat < 32 then
    ['\\', 'u', '0', '0', Nat.digitChar (c.toNat / 16), Nat.digitChar (c.toNat % 16)]
  else [c]

/-- A text in double quotes, with control characters, quotes and backslashes escaped. -/
def quoted (s : String) : String := String.ofList ('\x22' :: (s.toList.flatMap escapeChar ++ ['\x22']))

/-- Numbers in a document: a fraction always, an exponent outside `10 ^ -5` to `10 ^ 16`, and of two
equally near numerals the even one. -/
def floatLayout : Decimal.Layout := ⟨fun point => -5 < point && point ≤ 16, ".0", .toEven⟩

def valueJson : Value → String
  | .null => "null"
  | .int n => toString n
  | .float x => if x.isFinite then floatLayout.write x else "null"
  | .bool b => if b then "true" else "false"
  | .date d => quoted d.text
  | .text s => quoted s

def indentation (level : Nat) : String := String.ofList (List.replicate (2 * level) ' ')

/-- Items one to a line between two brackets; nothing between the brackets if there are no items. The
closing bracket stands at the given level. -/
def block (opening closing : String) (level : Nat) (items : List String) : String :=
  if items.isEmpty then opening ++ closing
  else
    opening ++ "\n" ++ ",\n".intercalate (items.map (indentation (level + 1) ++ ·)) ++ "\n" ++
      indentation level ++ closing

def array (level : Nat) (items : List String) : String := block "[" "]" level items

def object (level : Nat) (entries : List (String × String)) : String :=
  block "\x7b" "\x7d" level (entries.map fun (name, value) => quoted name ++ ": " ++ value)

def resultJson (r : ResultSet) : String :=
  object 1 [("columns", array 2 (r.columns.map quoted)),
    ("rows", array 2 (r.rows.map fun row => array 3 (row.map valueJson))),
    ("message", quoted r.message)]

/-- An answer as a document. -/
def answerJson : Answer → String
  | .status message => object 0 [("status", quoted message)]
  | .rows r => object 0 [("rows", resultJson r)]

end Leuit.Console
