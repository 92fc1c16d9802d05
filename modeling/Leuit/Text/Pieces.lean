import Leuit.Text.Blank

/-! Texts cut at a separating character. `split` cuts at every separator, so a text without one is a
single piece and the empty text is one empty piece; `cut?` cuts at the first separator only; `lines`
cuts at line ends, where the last line needs none. -/
namespace Leuit.Text

/-- The pieces between the separators, empty ones included. -/
def split (sep : Char) (s : String) : List String := (s.toList.splitOn sep).map String.ofList

/-- What stands before and after the first separator. -/
def cut? (sep : Char) (s : String) : Option (String × String) :=
  match s.toList.dropWhile (· ≠ sep) with
  | [] => none
  | _ :: rest => some (String.ofList (s.toList.takeWhile (· ≠ sep)), String.ofList rest)

/-- A line without the carriage return that may end it. -/
def dropReturn (line : List Char) : List Char :=
  if line.getLast? = some '\r' then line.dropLast else line

/-- The lines of a text. A line ends at a line feed, with or without a carriage return before it; what
follows the last line feed is a line only if it is not empty. -/
def lines (s : String) : List String :=
  let pieces := s.toList.splitOn '\n'
  let ended := pieces.dropLast.map fun line => String.ofList (dropReturn line)
  match pieces.getLast? with
  | none | some [] => ended
  | some rest => ended ++ [String.ofList rest]

/-- Whether the letters of `part` stand one after the other somewhere in a list. -/
def occursIn (part : List Char) : List Char → Bool
  | [] => part.isEmpty
  | c :: rest => part.isPrefixOf (c :: rest) || occursIn part rest

def contains (whole part : String) : Bool := occursIn part.toList whole.toList

def isQuote (c : Char) : Bool := c == '\x27' || c == '\x22'

/-- The text without the quotes, single or double, at its two ends. -/
def stripQuotes (s : String) : String := String.ofList (dropEnds isQuote s.toList)

end Leuit.Text
