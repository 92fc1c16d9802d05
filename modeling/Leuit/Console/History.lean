import Leuit.Store.FileTree

/-! The lines typed into the shell, and the file that keeps them from one session to the next. A line that
repeats the one before it is not remembered again, and only the last ones are. In the file, each line of
the history is a line, with backslashes and line feeds escaped (`unescape?_escape`); a file that does not
start with the mark of this form holds lines as they are. -/
namespace Leuit.Console

structure History where
  /-- The lines, the last one at the end. -/
  lines : List String
  /-- Whether a line was added that the file lacks. -/
  grown : Bool

namespace History

def empty : History := ⟨[], false⟩

/-- The most lines that are remembered. -/
def most : Nat := 100

def add (h : History) (line : String) : History :=
  if line = "" ∨ h.lines.getLast? = some line then h
  else
    let lines := h.lines ++ [line]
    ⟨lines.drop (lines.length - most), true⟩

/-! ### The file -/

/-- The first line of a file with escaped lines. -/
def mark : String := "#V2"

def escapeChar (c : Char) : List Char :=
  if c = '\\' then ['\\', '\\'] else if c = '\n' then ['\\', 'n'] else [c]

def escape (cs : List Char) : List Char := cs.flatMap escapeChar

/-- Undoes escapes; none if a backslash stands in front of another character. -/
def unescape? : List Char → Option (List Char)
  | [] => some []
  | '\\' :: '\\' :: rest => (unescape? rest).map ('\\' :: ·)
  | '\\' :: 'n' :: rest => (unescape? rest).map ('\n' :: ·)
  | c :: rest => if c = '\\' then none else (unescape? rest).map (c :: ·)

/-- An escaped character is read back as itself, whatever follows. -/
theorem unescape?_escapeChar (c : Char) (rest : List Char) :
    unescape? (escapeChar c ++ rest) = (unescape? rest).map (c :: ·) := by
  unfold escapeChar
  split
  · next h => rw [h]; rfl
  · next hs =>
    split
    · next hn => rw [hn]; rfl
    · show unescape? (c :: rest) = _
      rw [unescape?.eq_4 c rest (fun _ h _ => hs h) (fun _ h _ => hs h), if_neg hs]

theorem unescape?_escape (cs : List Char) : unescape? (escape cs) = some cs := by
  induction cs with
  | nil => rfl
  | cons c rest ih =>
    show unescape? (escapeChar c ++ escape rest) = _
    rw [unescape?_escapeChar, ih]
    rfl

/-- A line as it stands in a file with the mark; one with a bad escape is taken as it is. -/
def unescaped (line : String) : String := String.ofList ((unescape? line.toList).getD line.toList)

def ofText (text : String) : History :=
  let kept := match Text.lines text with
    | [] => []
    | first :: rest => if first = mark then rest.map unescaped else first :: rest
  { kept.foldl add empty with grown := false }

def text (h : History) : String :=
  mark ++ "\n" ++ String.join (h.lines.map fun line => String.ofList (escape line.toList) ++ "\n")

/-- The history in a file, empty if that cannot be read. -/
def readFrom (files : FileTree) (path : Path) : History :=
  match files.read path with
  | .ok text => ofText text
  | .error _ => empty

/-- The files after the history is written, if it grew and there can be such a file. -/
def keepIn (h : History) (files : FileTree) (path : Path) : FileTree :=
  if h.grown then (files.write path h.text).2 else files

end History

end Leuit.Console
