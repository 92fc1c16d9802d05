import Leuit.Query.Keyword
import Leuit.Text.Blank

/-! Completion of the word at the cursor, over the spellings of the keywords and the commands of the
shell. Positions in a line count bytes, and a word starts one byte after the last separator; after a
separator of several bytes that is no place between two characters, and then nothing can be
completed. -/
namespace Leuit.Console

/-- A position that is not between two characters of the line. -/
inductive PositionFault where
  | offBoundary
deriving DecidableEq, Repr

/-- The words that can be completed. -/
def completions : List String :=
  Keyword.allSpellings ++ [".help", ".exit", ".use", ".whoami", ".tables", ".databases", ".createdb"]

def isSeparator (c : Char) : Bool := Text.isBlank c || c == '(' || c == ','

def byteCount (cs : List Char) : Nat := cs.foldr (fun c count => c.utf8Size + count) 0

/-- The byte position where the last word of a line starts. -/
def wordStart (line : List Char) : Nat :=
  match line.reverse.dropWhile (!isSeparator ·) with
  | [] => 0
  | _ :: before => byteCount before + 1

/-- What stands before and after a byte position. -/
def cutAt (line : List Char) (position : Nat) : Except PositionFault (List Char × List Char) :=
  match position, line with
  | 0, rest => .ok ([], rest)
  | _, [] => .error .offBoundary
  | n, c :: rest =>
    if c.utf8Size ≤ n then (cutAt rest (n - c.utf8Size)).map fun (before, after) => (c :: before, after)
    else .error .offBoundary

/-- The entries that start with a word in any letter case; none for the empty word. -/
def candidates (word : List Char) : List String :=
  if word.isEmpty then []
  else completions.filter fun entry => (Text.upperList word).isPrefixOf (Text.upperList entry.toList)

/-- Where the word before a position starts, and the entries that complete it. -/
def complete (line : List Char) (position : Nat) : Except PositionFault (Nat × List String) :=
  match cutAt line position with
  | .error e => .error e
  | .ok (before, _) =>
    match cutAt before (wordStart before) with
    | .error e => .error e
    | .ok (_, word) => .ok (wordStart before, candidates word)

/-- What the first entry that properly extends a word has after it. -/
def extension? (word : List Char) : Option String :=
  if word.isEmpty then none
  else
    (completions.find? fun entry => word.isPrefixOf entry.toList && word.length < entry.length).map
      fun entry => String.ofList (entry.toList.drop word.length)

/-- The suggestion shown behind the cursor, which must stand at the end of the line. -/
def hint (line : List Char) (position : Nat) : Except PositionFault (Option String) :=
  if position < byteCount line then .ok none
  else (cutAt line (wordStart line)).map fun (_, word) => extension? word

end Leuit.Console
