import Leuit.Text.CaseTable

/-! Upper and lower case in every script. `upper` and `lower` are the full mappings of Unicode, by which
one letter may become several; keywords, operators and type names are compared by their upper-case
forms. `sameIgnoringCase` looks past the case of ASCII letters only. -/
namespace Leuit.Text

def inRanges (ranges : List (Nat × Nat)) (c : Char) : Bool :=
  ranges.any fun r => r.1 ≤ c.toNat && c.toNat ≤ r.2

/-- The image of a letter under a case mapping given by runs and expansions. -/
def mapCase (runs : List CaseRun) (expansions : List (Nat × List Nat)) (c : Char) : List Char :=
  match expansions.lookup c.toNat with
  | some images => images.map Char.ofNat
  | none => [((runs.findSome? (·.image? c.toNat)).map Char.ofNat).getD c]

def upperChar (c : Char) : List Char :=
  if c.toNat < 128 then [c.toUpper] else mapCase upperRuns upperExpansions c

def lowerChar (c : Char) : List Char :=
  if c.toNat < 128 then [c.toLower] else mapCase lowerRuns lowerExpansions c

def upperList (cs : List Char) : List Char := cs.flatMap upperChar

def upper (s : String) : String := String.ofList (upperList s.toList)

/-- Whether the first letter that is not ignorable for case is a cased one. -/
def startsCased (cs : List Char) : Bool :=
  match cs.dropWhile (inRanges caseIgnorableRanges) with
  | [] => false
  | c :: _ => inRanges casedRanges c

/-- Lower case, where `before` holds the letters already passed, the nearest first. A sigma has its
final form after a cased letter unless another cased letter follows. -/
def lowerList (before : List Char) : List Char → List Char
  | [] => []
  | c :: rest =>
    (if c = 'Σ' then [if startsCased before && !startsCased rest then 'ς' else 'σ']
      else lowerChar c) ++ lowerList (c :: before) rest

def lower (s : String) : String := String.ofList (lowerList [] s.toList)

/-- Equality up to the case of ASCII letters. -/
def sameIgnoringCase (a b : String) : Bool := a.toList.map Char.toLower == b.toList.map Char.toLower

end Leuit.Text
