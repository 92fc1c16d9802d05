/-! Writing floating-point numbers with the fewest decimal digits that read back. A finite float is
`m · 2 ^ q`; the reals that round to it form an interval, and the digits chosen are those of the
coarsest decimal grid with a point in that interval, the nearer one where there are two. A float can lie
halfway between two such points; which of them is chosen is a matter of the format, a `Tie`. A `Layout`
holds this choice and says how the digits are set out. -/
namespace Leuit.Decimal

/-- A positive finite float: `mantissa · 2 ^ exponent`. -/
structure Binary where
  mantissa : Nat
  exponent : Int
  /-- The float is a power of two above the least one, so its lower neighbour is only half as far. -/
  narrowBelow : Bool

/-- `2 ^ 52`, above which the bits of a float hold its exponent and its sign. -/
def fractionBound : Nat := 0x10000000000000

/-- The magnitude of a finite float given by its bits. -/
def Binary.ofBits (bits : UInt64) : Binary :=
  let fraction : Nat := bits.toNat % fractionBound
  let field : Nat := bits.toNat / fractionBound % 2048
  if field = 0 then ⟨fraction, -1074, false⟩
  else ⟨fractionBound + fraction, (field : Int) - 1075, fraction == 0 && 1 < field⟩

/-- A decimal number: `digits · 10 ^ exponent`. -/
structure Numeral where
  digits : Nat
  exponent : Int

/-- The number of digits of `n`, none for zero. -/
def digitCount (n : Nat) : Nat := if n = 0 then 0 else (Nat.toDigits 10 n).length

/-- Which of two equally near points is chosen. -/
inductive Tie where
  | toEven
  | awayFromZero
deriving DecidableEq, Repr

/-- The point chosen halfway between `below` and its successor. -/
def Tie.choose (tie : Tie) (below : Nat) : Nat :=
  match tie with
  | toEven => if below % 2 = 0 then below else below + 1
  | awayFromZero => below + 1

/-- The value and the ends of its interval, as numerators over one denominator. -/
structure Interval where
  low : Nat
  value : Nat
  high : Nat
  denominator : Nat
  closed : Bool

def Binary.interval (b : Binary) : Interval :=
  let value := 4 * b.mantissa
  let low := value - (if b.narrowBelow then 1 else 2)
  let closed := b.mantissa % 2 == 0
  if b.exponent ≥ 2 then
    let scale := Nat.pow 2 (b.exponent - 2).toNat
    ⟨low * scale, value * scale, (value + 2) * scale, 1, closed⟩
  else ⟨low, value, value + 2, Nat.pow 2 (2 - b.exponent).toNat, closed⟩

/-- The power of ten of the leading digit. -/
def Interval.leading (i : Interval) : Int :=
  if i.denominator ≤ i.value then (digitCount (i.value / i.denominator) : Int) - 1
  else -(digitCount ((i.denominator + i.value - 1) / i.value - 1) : Int)

/-- The point of the grid `10 ^ k` that is in the interval and nearest to the value, if any. -/
def Interval.point? (i : Interval) (tie : Tie) (k : Int) : Option Nat :=
  let unit := if 0 ≤ k then Nat.pow 10 k.toNat * i.denominator else i.denominator
  let scale := if 0 ≤ k then 1 else Nat.pow 10 (-k).toNat
  let value := i.value * scale
  let inside (d : Nat) : Bool :=
    if i.closed then i.low * scale ≤ d * unit && d * unit ≤ i.high * scale
    else i.low * scale < d * unit && d * unit < i.high * scale
  let below := value / unit
  let above := below + 1
  match inside below, inside above with
  | true, true =>
    match compare (value - below * unit) (above * unit - value) with
    | .lt => some below
    | .eq => some (tie.choose below)
    | .gt => some above
  | true, false => some below
  | false, true => some above
  | false, false => none

/-- Tries grids from `count` digits on, as many as `tries`, each ten times finer than the one before. -/
def Interval.search (i : Interval) (tie : Tie) (leading : Int) : Nat → Nat → Numeral
  | 0, count => ⟨i.value / i.denominator, count⟩
  | tries + 1, count =>
    let k := leading - count + 1
    match i.point? tie k with
    | some d => ⟨d, k⟩
    | none => i.search tie leading tries (count + 1)

/-- The digits without the zeros at their end. -/
def Numeral.trimmed (n : Numeral) : List Char × Int :=
  let digits := Nat.toDigits 10 n.digits
  let kept := (digits.reverse.dropWhile (· = '0')).reverse
  (kept, n.exponent + (digits.length - kept.length : Nat))

/-- The fewest digits that read back as the positive finite float, and their power of ten. Seventeen
digits always suffice. -/
def Binary.shortest (b : Binary) (tie : Tie) : List Char × Int :=
  let i := b.interval
  (i.search tie i.leading 17 1).trimmed

/-- How digits are chosen and set out. -/
structure Layout where
  /-- Whether a number is written without exponent if its point stands after that many digits. -/
  positional : Int → Bool
  /-- What ends a number that has no fraction. -/
  wholeEnd : String
  /-- Which digits are written for a number halfway between two candidates. -/
  tie : Tie

/-- Digits with a point after the first `point` of them, and zeros where digits are missing. -/
def Layout.place (l : Layout) (digits : List Char) (point : Int) : String :=
  if point ≤ 0 then String.ofList ("0.".toList ++ List.replicate (-point).toNat '0' ++ digits)
  else if (digits.length : Int) ≤ point then
    String.ofList (digits ++ List.replicate (point - digits.length).toNat '0') ++ l.wholeEnd
  else String.ofList (digits.take point.toNat ++ '.' :: digits.drop point.toNat)

/-- One digit, the others behind a point, and the power of ten with its sign. -/
def scientific (digits : List Char) (point : Int) : String :=
  let power := point - 1
  let fraction := digits.drop 1
  String.ofList (digits.take 1 ++ (if fraction.isEmpty then [] else '.' :: fraction)) ++
    (if power < 0 then "e-" else "e+") ++ toString power.natAbs

/-- The text of a float in a layout. -/
def Layout.write (l : Layout) (x : Float) : String :=
  if x.isNaN then "NaN"
  else
    let sign := if fractionBound * 2048 ≤ x.toBits.toNat then "-" else ""
    let b := Binary.ofBits x.toBits
    if x.isInf then sign ++ "inf"
    else if b.mantissa = 0 then sign ++ "0" ++ l.wholeEnd
    else
      let (digits, exponent) := b.shortest l.tie
      let point := digits.length + exponent
      sign ++ if l.positional point then l.place digits point else scientific digits point

/-- Numbers on the screen: never an exponent, and a tie goes away from zero. -/
def Layout.plain : Layout := ⟨fun _ => true, "", .awayFromZero⟩

end Leuit.Decimal
