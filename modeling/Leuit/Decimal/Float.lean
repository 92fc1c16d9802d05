import Leuit.Decimal.Integer

/-! Reading binary floating-point numbers from decimal notation: digits with an optional point, at least
one digit in all, an optional exponent, an optional sign in front. The words `inf`, `infinity` and
`nan` are read in any case. Every numeral is read as the nearest floating-point number. -/
namespace Leuit.Decimal

def infinity : Float := 1.0 / 0.0

def notANumber : Float := 0.0 / 0.0

/-- The float nearest to `digits × 10 ^ exponent`. A leading digit beyond the range of floats decides
alone, so the power of ten that is computed stays small. -/
def scaled (digits : List Char) (exponent : Int) : Float :=
  let significant := digits.dropWhile (· = '0')
  let point := (significant.length : Int) + exponent
  if significant.isEmpty || point < -400 then 0.0
  else if 400 < point then infinity
  else if exponent < 0 then Float.ofScientific (ofDigits significant) true (-exponent).toNat
  else Float.ofScientific (ofDigits significant) false exponent.toNat

/-- What follows the digits of a number: nothing, or a mark and a signed exponent. -/
def exponent? : List Char → Option Int
  | [] => some 0
  | mark :: rest =>
    if mark = 'e' ∨ mark = 'E' then
      let (negative, digits) := takeSign rest
      (numeral? digits).map fun n => if negative then -(n : Int) else n
    else none

/-- A number without sign in positional or scientific notation. -/
def magnitude? (cs : List Char) : Option Float :=
  let whole := cs.takeWhile Char.isDigit
  let (fraction, rest) := match cs.dropWhile Char.isDigit with
    | '.' :: rest => (rest.takeWhile Char.isDigit, rest.dropWhile Char.isDigit)
    | rest => ([], rest)
  if whole.isEmpty && fraction.isEmpty then none
  else (exponent? rest).map fun e => scaled (whole ++ fraction) (e - fraction.length)

/-- The words for what is not a finite number. -/
def special? (cs : List Char) : Option Float :=
  let word := cs.map Char.toLower
  if word = "inf".toList ∨ word = "infinity".toList then some infinity
  else if word = "nan".toList then some notANumber
  else none

def float? (s : String) : Option Float :=
  let (negative, body) := takeSign s.toList
  (magnitude? body <|> special? body).map fun x => if negative then -x else x

end Leuit.Decimal
