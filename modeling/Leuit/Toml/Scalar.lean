import Leuit.Calendar
import Leuit.Decimal.Float

/-! Values of a settings document that are neither texts nor collections: truth values, numbers, dates
and times. No setting is one of these, so it is only checked that they are well formed. -/
namespace Leuit.Toml

/-- Whether a character may be part of such a value. -/
def isScalarChar (c : Char) : Bool := c.isAlphanum || c == '+' || c == '-' || c == '_' || c == '.' || c == ':'

/-! ### Numbers -/

/-- Digits of a kind, with single underscores between them. -/
def isGrouped (isDigit : Char → Bool) (cs : List Char) : Bool :=
  (cs.splitOn '_').all fun group => !group.isEmpty && group.all isDigit

/-- Grouped decimal digits without needless zeros in front. -/
def isWhole (cs : List Char) : Bool :=
  isGrouped Char.isDigit cs && (cs.length == 1 || cs.head? != some '0')

def withoutSign : List Char → List Char
  | '+' :: rest => rest
  | '-' :: rest => rest
  | cs => cs

/-- The digit of a character in bases up to sixteen. -/
def digitOf (c : Char) : Nat :=
  if c.isDigit then c.toNat - '0'.toNat else c.toLower.toNat - 'a'.toNat + 10

/-- Grouped digits of a base, of a number below `2 ^ 63`. -/
def isInBase (base : Nat) (cs : List Char) : Bool :=
  isGrouped (fun c => c.isAlphanum && digitOf c < base) cs &&
    (cs.filter (· != '_')).foldl (fun n c => base * n + digitOf c) 0 < Decimal.signedBound

def isInteger (cs : List Char) : Bool :=
  match cs with
  | '0' :: 'x' :: digits => isInBase 16 digits
  | '0' :: 'o' :: digits => isInBase 8 digits
  | '0' :: 'b' :: digits => isInBase 2 digits
  | _ =>
    isWhole (withoutSign cs) && (Decimal.integer? (String.ofList (cs.filter (· != '_')))).isSome

/-- Whole digits with a fraction or an exponent or both, or a word for what is not finite. A positive
number beyond the range of floats is none. -/
def isFloat (cs : List Char) : Bool :=
  let body := withoutSign cs
  if body = "inf".toList ∨ body = "nan".toList then true
  else
    let isMark (c : Char) : Bool := c == 'e' || c == 'E'
    let mantissa := body.takeWhile (!isMark ·)
    let exponent := body.dropWhile (!isMark ·)
    let whole := mantissa.takeWhile (· != '.')
    let fraction := mantissa.dropWhile (· != '.')
    let value := Decimal.float? (String.ofList (cs.filter (· != '_')))
    isWhole whole && !(fraction.isEmpty && exponent.isEmpty) &&
      (fraction.isEmpty || isGrouped Char.isDigit (fraction.drop 1)) &&
      (exponent.isEmpty || isGrouped Char.isDigit (withoutSign (exponent.drop 1))) &&
      value.any fun x => x != Decimal.infinity

/-! ### Dates and times -/

def isDate (cs : List Char) : Bool :=
  Date.isStandard (String.ofList cs) && (Date.ofText? (String.ofList cs)).isSome

/-- Two digits of a number up to `limit`. -/
def isPair (limit : Nat) (a b : Char) : Bool :=
  a.isDigit && b.isDigit && Decimal.ofDigits [a, b] ≤ limit

/-- What follows a time of the day, if one stands here: hours, minutes, seconds and perhaps a fraction of
a second. -/
def afterTime? : List Char → Option (List Char)
  | h₁ :: h₂ :: ':' :: m₁ :: m₂ :: ':' :: s₁ :: s₂ :: rest =>
    if isPair 23 h₁ h₂ && isPair 59 m₁ m₂ && isPair 60 s₁ s₂ then
      match rest with
      | '.' :: fraction =>
        if (fraction.takeWhile Char.isDigit).isEmpty then none
        else some (fraction.dropWhile Char.isDigit)
      | _ => some rest
    else none
  | _ => none

/-- A distance from universal time, which may be missing. -/
def isOffset : List Char → Bool
  | [] | ['Z'] | ['z'] => true
  | [sign, h₁, h₂, ':', m₁, m₂] => (sign == '+' || sign == '-') && isPair 23 h₁ h₂ && isPair 59 m₁ m₂
  | _ => false

/-- A time of the day with its offset, if any. -/
def isZonedTime (cs : List Char) : Bool := (afterTime? cs).any isOffset

/-- A date, a time, or both with the letter T between them. -/
def isMoment (cs : List Char) : Bool :=
  isDate cs || afterTime? cs == some [] ||
    isDate (cs.take 10) && ((cs.drop 10).head?.any fun c => c == 'T' || c == 't') &&
      isZonedTime (cs.drop 11)

/-! ### All of them -/

def isScalar (cs : List Char) : Bool :=
  cs == "true".toList || cs == "false".toList || isInteger cs || isFloat cs || isMoment cs

/-- What follows such a value. A date may be followed by a space and a time. -/
def afterScalar? (cs : List Char) : Option (List Char) :=
  let word := cs.takeWhile isScalarChar
  let rest := cs.dropWhile isScalarChar
  if isScalar word then
    match rest with
    | ' ' :: more =>
      if isDate word && isZonedTime (more.takeWhile isScalarChar) then some (more.dropWhile isScalarChar)
      else some rest
    | _ => some rest
  else none

end Leuit.Toml
