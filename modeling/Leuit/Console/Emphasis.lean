/-! Emphasis on a terminal. A text is set between the control sequence of its emphasis and the one that
ends all emphasis; without colours it stays as it is. -/
namespace Leuit.Console

inductive Emphasis where
  | success
  /-- The names over the columns of a table. -/
  | heading
  | title
  | faint
  /-- The name of a database. -/
  | database
  /-- The name of a user. -/
  | user
  /-- Something that can be typed. -/
  | typed
  | unknown
  | error
  | suggestion
deriving DecidableEq, Repr

/-- The parameters of the control sequence. -/
def Emphasis.parameters : Emphasis → String
  | success => "32"
  | heading => "1;36"
  | title => "1;37"
  | faint => "2"
  | database => "36"
  | user => "37"
  | typed => "33"
  | unknown => "31"
  | error => "1;31"
  | suggestion => "90"

/-- The control sequence that starts an emphasis. -/
def Emphasis.start (e : Emphasis) : List Char := '\x1b' :: '[' :: (e.parameters.toList ++ ['m'])

/-- The control sequence that ends all emphasis. -/
def plainAgain : List Char := ['\x1b', '[', '0', 'm']

/-- The text with `start` after every place where all emphasis ends. -/
def resume (start : List Char) : List Char → List Char
  | [] => []
  | '\x1b' :: '[' :: '0' :: 'm' :: rest => plainAgain ++ start ++ resume start rest
  | c :: rest => c :: resume start rest

/-- A text with an emphasis that holds up to its end. -/
def paint (colored : Bool) (e : Emphasis) (s : String) : String :=
  if colored then String.ofList (e.start ++ resume e.start s.toList ++ plainAgain) else s

/-- The text with spaces after it, `width` characters at least. -/
def pad (width : Nat) (s : String) : String :=
  s ++ String.ofList (List.replicate (width - s.length) ' ')

end Leuit.Console
