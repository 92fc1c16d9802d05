/-! Whole numbers in decimal notation. A numeral is a non-empty row of ASCII digits, leading zeros
allowed. A signed number has one optional sign and must fit in 64 bits; a count has at most a plus
sign and must lie below `2 ^ 64`. -/
namespace Leuit.Decimal

/-- `2 ^ 63`, the bound of signed numbers. -/
def signedBound : Nat := 0x8000000000000000

/-- `2 ^ 64`, the bound of counts. -/
def countBound : Nat := 0x10000000000000000

/-- The number a row of digits denotes. -/
def ofDigits (cs : List Char) : Nat := cs.foldl (fun n c => 10 * n + (c.toNat - '0'.toNat)) 0

def numeral? (cs : List Char) : Option Nat :=
  if cs ≠ [] ∧ cs.all Char.isDigit then some (ofDigits cs) else none

/-- Whether a minus sign stands in front, and what follows the optional sign. -/
def takeSign : List Char → Bool × List Char
  | '-' :: rest => (true, rest)
  | '+' :: rest => (false, rest)
  | cs => (false, cs)

/-- A signed number of 64 bits. -/
def integer? (s : String) : Option Int :=
  let (negative, digits) := takeSign s.toList
  match numeral? digits with
  | none => none
  | some n =>
    if negative then
      if n ≤ signedBound then some (-(n : Int)) else none
    else
      if n < signedBound then some n else none

/-- A number of rows or characters: no minus sign, below `2 ^ 64`. -/
def count? (s : String) : Option Nat :=
  let digits := match s.toList with
    | '+' :: rest => rest
    | cs => cs
  match numeral? digits with
  | none => none
  | some n => if n < countBound then some n else none

end Leuit.Decimal
