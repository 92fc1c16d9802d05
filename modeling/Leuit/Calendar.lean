import Leuit.Decimal.Integer
import Leuit.Text.Blank

/-! Dates of the Gregorian calendar, extended to all years in the range the calendar covers. A date is
written `YYYY-MM-DD`, with a sign in front of a year that has not four digits. Reading is more lenient
than writing: `Date.ofText?` accepts fewer digits and blanks in front of a number, while
`Date.isStandard` asks for the shape with four, two and two digits. -/
namespace Leuit

namespace Calendar

def firstYear : Int := -262143

def lastYear : Int := 262142

def isLeap (year : Int) : Bool := year % 4 == 0 && (year % 100 != 0 || year % 400 == 0)

/-- The days of a month; none for a number that is no month. -/
def daysIn (year : Int) (month : Nat) : Nat :=
  if month = 2 then (if isLeap year then 29 else 28)
  else if month = 4 ∨ month = 6 ∨ month = 9 ∨ month = 11 then 30
  else if 1 ≤ month ∧ month ≤ 12 then 31
  else 0

end Calendar

structure Date where
  year : Int
  month : Nat
  day : Nat
deriving DecidableEq, Repr

namespace Date
open Calendar Decimal

/-- The date exists in the calendar. -/
def Valid (d : Date) : Prop :=
  firstYear ≤ d.year ∧ d.year ≤ lastYear ∧ 1 ≤ d.day ∧ d.day ≤ daysIn d.year d.month

instance (d : Date) : Decidable d.Valid := inferInstanceAs (Decidable (_ ∧ _ ∧ _ ∧ _))

/-- Earlier dates come first. -/
def order (a b : Date) : Ordering :=
  (compare a.year b.year).then ((compare a.month b.month).then (compare a.day b.day))

/-! ### Reading -/

/-- At most `width` digits, and what follows them. -/
def takeNumber (width : Nat) (cs : List Char) : Option (Nat × List Char) :=
  let digits := (cs.take width).takeWhile Char.isDigit
  (numeral? digits).map fun n => (n, cs.drop digits.length)

/-- A year has four digits at most, or any number of them after a sign. -/
def takeYear (cs : List Char) : Option (Int × List Char) :=
  match cs.dropWhile Text.isBlank with
  | '-' :: rest => (takeNumber rest.length rest).map fun (n, rest) => (-(n : Int), rest)
  | '+' :: rest => (takeNumber rest.length rest).map fun (n, rest) => ((n : Int), rest)
  | cs => (takeNumber 4 cs).map fun (n, rest) => ((n : Int), rest)

/-- A hyphen, blanks and a number of one or two digits. -/
def takePart : List Char → Option (Nat × List Char)
  | '-' :: rest => takeNumber 2 (rest.dropWhile Text.isBlank)
  | _ => none

/-- Reads a year, a month and a day with hyphens between them, if such a day exists. -/
def ofText? (s : String) : Option Date := do
  let (year, rest) ← takeYear s.toList
  let (month, rest) ← takePart rest
  let (day, rest) ← takePart rest
  let date : Date := ⟨year, month, day⟩
  if rest.isEmpty ∧ date.Valid then some date else none

/-- Whether a text has four, two and two digits with hyphens between them. -/
def isStandard (s : String) : Bool :=
  match s.toList with
  | [y₁, y₂, y₃, y₄, h₁, m₁, m₂, h₂, d₁, d₂] =>
    [y₁, y₂, y₃, y₄, m₁, m₂, d₁, d₂].all Char.isDigit && h₁ == '-' && h₂ == '-'
  | _ => false

/-! ### Writing -/

/-- Digits with zeros in front, `width` of them at least. -/
def padded (width n : Nat) : List Char :=
  let digits := Nat.toDigits 10 n
  List.replicate (width - digits.length) '0' ++ digits

/-- Four digits for the years 0 to 9999, a sign and at least four digits for all others. -/
def yearText (year : Int) : List Char :=
  if year < 0 then '-' :: padded 4 year.natAbs
  else if 9999 < year then '+' :: padded 4 year.natAbs
  else padded 4 year.natAbs

def text (d : Date) : String :=
  String.ofList (yearText d.year ++ '-' :: padded 2 d.month ++ '-' :: padded 2 d.day)

end Date

end Leuit
