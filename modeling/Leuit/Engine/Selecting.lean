import Leuit.Engine.Task
import Leuit.Relation.Join
import Leuit.Relation.StableSort
import Leuit.Value.Aggregate

/-! Selections. The table is joined with the others, the rows are filtered, and then either folded into
one row of aggregates or sorted, paged and projected. -/
namespace Leuit

namespace Relation

/-- Whether a condition holds for a row. A field that names no column satisfies nothing. -/
def satisfies (header : List HeaderColumn) (row : Row) (c : Condition) : Bool :=
  match last? header c.field with
  | none => false
  | some i =>
    match header[i]? with
    | some column => (row.cell i).meets c.operator c.literal column.type
    | none => false

/-- The rows for which a chain of conditions holds. -/
def filter (r : Relation) (conditions : List Condition) : Relation :=
  { r with rows := r.rows.filter fun row => Condition.holdsAll (satisfies r.header row) conditions }

/-- The rows in the order of a column. Where that is a total preorder of the values in the column, rows that it
does not tell apart keep theirs; otherwise the order is what the steps of the sort come to, or they fail. A name
that is no column sorts nothing. -/
def sort (r : Relation) (sorting : Option Sorting) : Except QueryError Relation :=
  match sorting with
  | none => .ok r
  | some s =>
    match first? r.header s.column with
    | none => .ok r
    | some i =>
      match StableSort.sort (fun a b => Value.precedes s.descending (a.cell i) (b.cell i)) r.rows with
      | none => .error .aborted
      | some rows => .ok { r with rows }

/-- The cells of a row that the fields name; null for a field that names no column. -/
def project (header : List HeaderColumn) (fields : List Selection) (row : Row) : Row :=
  fields.map fun f => ((last? header f.text).map row.cell).getD .null

/-- The one row of a selection with aggregates. A plain field has its value in the first row. -/
def aggregate (r : Relation) (fields : List Selection) : Row :=
  fields.map fun
    | .aggregate f target _ =>
      let column := last? r.header target
      f.compute (r.rows.map fun row => column.map row.cell)
    | .column name =>
      match last? r.header name, r.rows with
      | some i, row :: _ => row.cell i
      | _, _ => .null

end Relation

namespace SelectRows

/-- The fields asked for; none if all columns are. -/
def selections (q : SelectRows) : List Selection :=
  if q.selectsAll then [] else q.fields.map Selection.ofText

/-- The names over the columns of the result. -/
def heading (q : SelectRows) (header : List HeaderColumn) : List String :=
  if q.selectsAll then header.map HeaderColumn.qualified else q.selections.map Selection.text

/-- The rows that the offset and the limit leave. -/
def page (q : SelectRows) (rows : List Row) : List Row :=
  match q.limit with
  | none => rows.drop q.offset
  | some n => (rows.drop q.offset).take n

/-- The result over the joined rows. -/
def result (q : SelectRows) (joined : Relation) : Except QueryError ResultSet :=
  let filtered := joined.filter q.conditions
  if q.selections.any Selection.isAggregate then
    .ok ⟨q.selections.map Selection.text, [filtered.aggregate q.selections]⟩
  else
    (filtered.sort q.sorting).map fun sorted =>
      let paged := q.page sorted.rows
      ⟨q.heading joined.header,
        if q.selectsAll then paged else paged.map (Relation.project joined.header q.selections)⟩

/-- The rows of a table that the role may read. -/
def readTable (view : Snapshot) (role table : String) : Except QueryError Relation :=
  match view.open table role .read with
  | .error e => .error e
  | .ok d =>
    match view.records table with
    | .error e => .error e
    | .ok records => Relation.ofTable d records

/-- Joins the tables of a selection to a relation, from left to right. -/
def joinAll (view : Snapshot) (role : String) (current : Relation) :
    List Join → Except QueryError Relation
  | [] => .ok current
  | j :: rest =>
    match readTable view role j.table with
    | .error e => .error e
    | .ok target => joinAll view role (current.join j.kind target j.condition) rest

def plan (q : SelectRows) (view : Snapshot) (role : String) (d : Definition) : Except QueryError Plan :=
  match view.records q.table with
  | .error e => .error e
  | .ok records =>
    match Relation.ofTable d records with
    | .error e => .error e
    | .ok rows =>
      match joinAll view role rows q.joins with
      | .error e => .error e
      | .ok joined => (q.result joined).map fun result => ⟨[], .rows result⟩

def task (q : SelectRows) (view : Snapshot) (caller : Caller) : Except QueryError Task :=
  match view.open q.table caller.role .read with
  | .error e => .error e
  | .ok d =>
    .ok {
      locks := ⟨q.table, .read⟩ :: q.joins.map (⟨·.table, .read⟩)
      plan := q.plan view caller.role d }

end SelectRows

end Leuit
