import Leuit.Console.Emphasis
import Leuit.Engine.Task

/-! Results as tables. Every column is as wide as its longest text, the name over it included; a rule
stands under the names, and the number of rows under the table. -/
namespace Leuit.Console

/-- The widths after a row with the given texts. -/
def widen : List Nat → List String → List Nat
  | width :: widths, text :: texts => max width text.length :: widen widths texts
  | widths, _ => widths

/-- The widths of the columns of a result. -/
def widths (r : ResultSet) : List Nat :=
  r.rows.foldl (fun widths row => widen widths (row.map Value.display)) (r.columns.map String.length)

/-- The text of a value in a column; nulls are faint. -/
def cellText (colored : Bool) (value : Value) (width : Nat) : String :=
  if value.isNull then paint colored .faint (pad width value.display) else pad width value.display

def rowLine (colored : Bool) (widths : List Nat) (row : Row) : String :=
  " | ".intercalate (row.zipWith (cellText colored) widths)

def headerLine (widths : List Nat) (columns : List String) : String :=
  " | ".intercalate (columns.zipWith (fun name width => pad width name) widths)

def ruleLine (widths : List Nat) : String :=
  "-+-".intercalate (widths.map fun width => String.ofList (List.replicate width '-'))

/-- The lines of a table: names, rule, rows and the number of rows. -/
def tableLines (colored : Bool) (r : ResultSet) : List String :=
  paint colored .heading (headerLine (widths r) r.columns) ::
    paint colored .faint (ruleLine (widths r)) ::
    (r.rows.map (rowLine colored (widths r)) ++ [paint colored .faint r.message])

/-- An answer as it is shown on a terminal. -/
def render (colored : Bool) : Answer → String
  | .status message => paint colored .success message
  | .rows r => "\n".intercalate (tableLines colored r)

end Leuit.Console
