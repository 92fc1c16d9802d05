import Leuit.Schema.Descriptor
import Leuit.Value.Basic

/-! Aggregates. A function is applied to one entry per row, which is absent where the row has no such
column; it sees the numbers among the entries, and `count` the number of rows alone. -/
namespace Leuit

inductive Aggregate where
  | count
  | sum
  | average
  | maximum
  | minimum
deriving DecidableEq, Repr

namespace Aggregate

def ofName? (name : String) : Option Aggregate :=
  match Text.upper (Text.trim name) with
  | "JUMLAH" | "COUNT" => some count
  | "TOTAL" | "SUM" => some sum
  | "RATA" | "AVG" => some average
  | "PANGGEDENA" | "MAX" => some maximum
  | "PANGLEUTIKNA" | "MIN" => some minimum
  | _ => none

/-- The largest finite float. -/
def largest : Float := Float.ofBits 0x7FEFFFFFFFFFFFFF

def total (numbers : List Float) : Float := numbers.foldl (· + ·) (-0.0)

/-- The later of two equal numbers is kept, and what is not a number is passed over. -/
def larger (kept x : Float) : Float := if x.isNaN || kept > x then kept else x

def smaller (kept x : Float) : Float := if x.isNaN || kept < x then kept else x

/-- The result over a non-empty list of numbers. -/
def combine (f : Aggregate) (numbers : List Float) : Float :=
  match f with
  | count => Float.ofNat numbers.length
  | sum => total numbers
  | average => total numbers / Float.ofNat numbers.length
  | maximum => numbers.foldl larger (-largest)
  | minimum => numbers.foldl smaller largest

/-- The result over the entries of all rows. -/
def compute (f : Aggregate) (entries : List (Option Value)) : Value :=
  if entries.isEmpty then .int 0
  else if f = count then .int entries.length
  else
    match entries.filterMap (·.bind Value.number?) with
    | [] => if f = sum then .float 0.0 else .int 0
    | numbers => .float (f.combine numbers)

end Aggregate

/-- What a query asks for: a column, or an aggregate of a column. Both keep the text as written, which
heads the result. -/
inductive Selection where
  | column (name : String)
  | aggregate (function : Aggregate) (target text : String)
deriving DecidableEq, Repr

namespace Selection

/-- Reads `FUNCTION(target)`; all else is the name of a column. -/
def ofText (s : String) : Selection :=
  match s.toList.dropWhile (· ≠ '(') with
  | [] => column s
  | _ :: afterOpen =>
    match Text.beforeLast? ')' afterOpen,
        Aggregate.ofName? (String.ofList (s.toList.takeWhile (· ≠ '('))) with
    | some inner, some function => aggregate function (Text.trim (String.ofList inner)) s
    | _, _ => column s

def text : Selection → String
  | column name => name
  | aggregate _ _ text => text

def isAggregate : Selection → Bool
  | column _ => false
  | aggregate _ _ _ => true

end Selection

end Leuit
