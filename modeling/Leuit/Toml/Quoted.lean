/-! Quoted texts of a settings document. Basic texts stand in double quotes and may hold escapes; literal
texts stand in single quotes and hold none. Three quotes instead of one make a text of several lines,
which may itself hold one or two quotes in a row, also at its end. -/
namespace Leuit.Toml

def basicQuote : Char := '\x22'

def literalQuote : Char := '\x27'

/-- Blanks inside a line. -/
def isWhite (c : Char) : Bool := c == ' ' || c == '\t'

/-- What may stand in comments and texts as it is: all but control characters; a tab is none. -/
def isPlain (c : Char) : Bool := c == '\t' || (32 ≤ c.toNat && c.toNat != 127)

/-- What follows the end of a line that stands here. -/
def afterLineEnd? : List Char → Option (List Char)
  | '\n' :: rest => some rest
  | '\r' :: '\n' :: rest => some rest
  | _ => none

/-! ### Reading -/

def hexDigit? (c : Char) : Option Nat :=
  if c.isDigit then some (c.toNat - '0'.toNat)
  else if 'a' ≤ c ∧ c ≤ 'f' then some (c.toNat - 'a'.toNat + 10)
  else if 'A' ≤ c ∧ c ≤ 'F' then some (c.toNat - 'A'.toNat + 10)
  else none

/-- The character with a code of exactly that many hexadecimal digits. -/
def ofCode? (width : Nat) (cs : List Char) : Option Char :=
  match cs.mapM hexDigit? with
  | none => none
  | some digits =>
    let code := digits.foldl (fun n d => 16 * n + d) 0
    if digits.length = width ∧ code.isValidChar then some (Char.ofNat code) else none

/-- The character that an escape stands for, and how many characters after the backslash it takes. -/
def escape? : List Char → Option (Char × Nat)
  | 'b' :: _ => some ('\x08', 1)
  | 't' :: _ => some ('\t', 1)
  | 'n' :: _ => some ('\n', 1)
  | 'f' :: _ => some ('\x0c', 1)
  | 'r' :: _ => some ('\r', 1)
  | '\\' :: _ => some ('\\', 1)
  | 'u' :: rest => (ofCode? 4 (rest.take 4)).map (·, 5)
  | 'U' :: rest => (ofCode? 8 (rest.take 8)).map (·, 9)
  | c :: _ => if c = basicQuote then some (c, 1) else none
  | [] => none

/-- The inside of a basic text up to its closing quote, and what follows. -/
def basicInside : List Char → Option (List Char × List Char)
  | [] => none
  | c :: rest =>
    if c = basicQuote then some ([], rest)
    else if c = '\\' then
      match escape? rest with
      | none => none
      | some (meant, used) =>
        (basicInside (rest.drop used)).map fun (inside, after) => (meant :: inside, after)
    else if isPlain c then (basicInside rest).map fun (inside, after) => (c :: inside, after)
    else none
termination_by cs => cs.length
decreasing_by all_goals (simp only [List.length_cons, List.length_drop]; omega)

/-- The inside of a literal text up to its closing quote, and what follows. -/
def literalInside (cs : List Char) : Option (List Char × List Char) :=
  match cs.dropWhile (fun c => isPlain c && c != literalQuote) with
  | [] => none
  | c :: after =>
    if c = literalQuote then some (cs.takeWhile (fun c => isPlain c && c != literalQuote), after)
    else none

/-- Whether the rest of the line is blank and the line has an end. -/
def endsLine (cs : List Char) : Bool := (afterLineEnd? (cs.dropWhile isWhite)).isSome

/-- The inside of a text of several lines, basic or literal by its quote, and what follows. While
`folding`, after a backslash at the end of a line, blanks and line ends are passed over. -/
def linesInside (quote : Char) (folding : Bool) : List Char → Option (List Char × List Char)
  | [] => none
  | '\r' :: '\n' :: rest =>
    if folding then linesInside quote true rest
    else (linesInside quote false rest).map fun (inside, after) => ('\n' :: inside, after)
  | c :: rest =>
    if folding && (isWhite c || c == '\n') then linesInside quote true rest
    else if c = quote then
      let run := (c :: rest).takeWhile (· == quote)
      let kept := min (run.length - 3) 2
      if 3 ≤ run.length then some (List.replicate kept quote, (c :: rest).drop (kept + 3))
      else (linesInside quote false rest).map fun (inside, after) => (c :: inside, after)
    else if c = '\\' ∧ quote = basicQuote then
      if endsLine rest then linesInside quote true rest
      else
        match escape? rest with
        | none => none
        | some (meant, used) =>
          (linesInside quote false (rest.drop used)).map fun (inside, after) => (meant :: inside, after)
    else if isPlain c || c == '\n' then
      (linesInside quote false rest).map fun (inside, after) => (c :: inside, after)
    else none
termination_by cs => cs.length
decreasing_by all_goals (simp only [List.length_cons, List.length_drop]; omega)

/-- What follows a quote that stands here three times. -/
def afterThree? (quote : Char) : List Char → Option (List Char)
  | a :: b :: c :: rest => if a = quote ∧ b = quote ∧ c = quote then some rest else none
  | _ => none

/-- Reads a quoted text of one line. -/
def readLineText (cs : List Char) : Option (String × List Char) :=
  match cs with
  | [] => none
  | c :: rest =>
    let read := if c = basicQuote then basicInside rest
      else if c = literalQuote then literalInside rest
      else none
    read.map fun (inside, after) => (String.ofList inside, after)

/-- Reads a quoted text of one line or several. A line end right after three quotes is no part of it. -/
def readText (cs : List Char) : Option (String × List Char) :=
  let several (quote : Char) (rest : List Char) : Option (String × List Char) :=
    (linesInside quote false ((afterLineEnd? rest).getD rest)).map fun (inside, after) =>
      (String.ofList inside, after)
  match afterThree? basicQuote cs, afterThree? literalQuote cs with
  | some rest, _ => several basicQuote rest
  | _, some rest => several literalQuote rest
  | _, _ => readLineText cs

/-! ### Writing -/

/-- The length of the longest row of a character. -/
def longestRun (q : Char) (cs : List Char) : Nat :=
  (cs.foldl (fun (best, run) c => if c = q then (max best (run + 1), run + 1) else (best, 0)) (0, 0)).1

/-- Whether a text can only be written with escapes: control characters other than tabs and line ends. -/
def needsEscapes (cs : List Char) : Bool := cs.any fun c => !(isPlain c || c == '\n')

/-- Four hexadecimal digits of a character below `2 ^ 16`. -/
def codeDigits (c : Char) : List Char :=
  [c.toNat / 4096 % 16, c.toNat / 256 % 16, c.toNat / 16 % 16, c.toNat % 16].map fun d =>
    (Nat.digitChar d).toUpper

/-- A character of a basic text that is no quote. -/
def escaped (several : Bool) (c : Char) : List Char :=
  if c = '\\' then ['\\', '\\']
  else if c = '\t' then ['\\', 't']
  else if c = '\n' then (if several then ['\n'] else ['\\', 'n'])
  else if c = '\r' then ['\\', 'r']
  else if c.toNat = 8 then ['\\', 'b']
  else if c.toNat = 12 then ['\\', 'f']
  else if isPlain c then [c]
  else '\\' :: 'u' :: codeDigits c

/-- The inside of a basic text. In a text of several lines two quotes in a row, `run` of which have
passed, need no escape. -/
def escapeInside (several : Bool) (run : Nat) : List Char → List Char
  | [] => []
  | c :: rest =>
    if c = basicQuote then
      if several ∧ run < 2 then c :: escapeInside several (run + 1) rest
      else '\\' :: c :: escapeInside several 0 rest
    else escaped several c ++ escapeInside several 0 rest

/-- The written form of a text: the first of basic, literal, basic in several lines and literal in
several lines that needs no escape but for tabs, and else basic. -/
def writeText (s : String) : String :=
  let cs := s.toList
  let severalLines := cs.contains '\n'
  let bare := !needsEscapes cs
  let basic := bare && !cs.contains '\\'
  let write (quotes inside : List Char) : String :=
    let opening := if quotes.length = 3 ∧ severalLines then quotes ++ ['\n'] else quotes
    String.ofList (opening ++ inside ++ quotes)
  let one (quote : Char) : List Char := [quote]
  let three (quote : Char) : List Char := [quote, quote, quote]
  if basic && longestRun basicQuote cs == 0 && !severalLines then
    write (one basicQuote) (escapeInside false 0 cs)
  else if bare && longestRun literalQuote cs == 0 && !severalLines then write (one literalQuote) cs
  else if basic && longestRun basicQuote cs < 3 then write (three basicQuote) (escapeInside true 0 cs)
  else if bare && longestRun literalQuote cs < 3 then write (three literalQuote) cs
  else if severalLines then write (three basicQuote) (escapeInside true 0 cs)
  else write (one basicQuote) (escapeInside false 0 cs)

end Leuit.Toml
