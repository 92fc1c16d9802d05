import Leuit.Query.Command
import Leuit.Relation.Basic

/-! Joins. Each row of the left side is put together with the rows of the right side that match it, in
order. The condition of a join may name the two columns in either order; where no column of the right
side is named, the right side of the condition is a literal. A null matches nothing, and rows without
partner are padded with nulls if the kind of join keeps them. -/
namespace Leuit

/-- How rows of two relations are matched. -/
structure JoinTest where
  /-- The column of the left side. -/
  left : Option Nat
  /-- The column of the right side; without one, the literal is compared. -/
  right : Option Nat
  operator : Operator
  literal : String
deriving DecidableEq, Repr

namespace JoinTest

/-- The test that a condition stands for. Its sides are exchanged if only so each names a column of its
relation. -/
def of (left right : Relation) (on : Condition) : JoinTest :=
  let swapped := (Relation.first? left.header on.field).isNone &&
    (Relation.first? right.header on.field).isSome &&
    (Relation.first? left.header on.literal).isSome
  let field := if swapped then on.literal else on.field
  let other := if swapped then on.field else on.literal
  ⟨Relation.first? left.header field, Relation.first? right.header other, on.operator, other⟩

/-- Whether two rows match, the left one under the given header. -/
def matchRows (t : JoinTest) (header : List HeaderColumn) (left right : Row) : Bool :=
  match t.left with
  | none => false
  | some i =>
    let value := left.cell i
    !value.isNull &&
      match t.right with
      | some j => !(right.cell j).isNull && value.joins t.operator (right.cell j)
      | none =>
        match header[i]? with
        | some column => value.meets t.operator t.literal column.type
        | none => false

end JoinTest

namespace Relation

/-- A row without values. -/
def blankRow (width : Nat) : Row := List.replicate width .null

/-- The joined rows that a row of the left side gives. -/
def joinRow (kind : JoinKind) (matched : Row → Bool) (right : Relation) (row : Row) : List Row :=
  match right.rows.filter matched with
  | [] => if kind.keepsLeft then [row ++ blankRow right.width] else []
  | partners => partners.map (row ++ ·)

/-- The rows of the right side without partner, padded, if they are kept. -/
def strayRows (kind : JoinKind) (matchRows : Row → Row → Bool) (left right : Relation) : List Row :=
  if kind.keepsRight then
    (right.rows.filter fun r => !left.rows.any (matchRows · r)).map (blankRow left.width ++ ·)
  else []

/-- The join of two relations by any test on pairs of rows. -/
def joinBy (kind : JoinKind) (matchRows : Row → Row → Bool) (left right : Relation) : Relation where
  header := left.header ++ right.header
  rows := left.rows.flatMap (fun row => joinRow kind (matchRows row) right row) ++
    strayRows kind matchRows left right

def join (left : Relation) (kind : JoinKind) (right : Relation) (on : Condition) : Relation :=
  joinBy kind ((JoinTest.of left right on).matchRows left.header) left right

end Relation

end Leuit
