/-! Blank characters are those with the Unicode property `White_Space`. A query is a sequence of words
with blanks between them, and every field of a record loses the blanks at both ends before it is
looked at. -/
namespace Leuit.Text

def isBlank (c : Char) : Bool :=
  let n := c.toNat
  (9 ≤ n && n ≤ 13) || n == 0x20 || n == 0x85 || n == 0xA0 || n == 0x1680 ||
    (0x2000 ≤ n && n ≤ 0x200A) || n == 0x2028 || n == 0x2029 || n == 0x202F || n == 0x205F ||
    n == 0x3000

/-- Drops the characters with the property from both ends. -/
def dropEnds (p : Char → Bool) (cs : List Char) : List Char :=
  ((cs.dropWhile p).reverse.dropWhile p).reverse

/-- The text without the blanks at its two ends. -/
def trim (s : String) : String := String.ofList (dropEnds isBlank s.toList)

/-- The text without the blanks at its start. -/
def trimStart (s : String) : String := String.ofList (s.toList.dropWhile isBlank)

/-- The maximal runs of characters that are not blank. -/
def words (s : String) : List String :=
  ((s.toList.splitOnP isBlank).filter (!·.isEmpty)).map String.ofList

/-- A text is blank if it holds blank characters only. -/
def allBlank (s : String) : Bool := s.toList.all isBlank

end Leuit.Text
