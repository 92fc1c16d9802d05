import Leuit.Engine.Integrity
import Leuit.Engine.Task

/-! Commands that write: creating a table, inserting, updating and deleting rows. An update and a
deletion compute all records of the table anew and replace them at once, or leave them alone if no
row is concerned. -/
namespace Leuit

/-! ### Creating -/

namespace CreateTable

def plan (q : CreateTable) (view : Snapshot) (columns : List Column) : Except QueryError Plan :=
  match view.schema q.table with
  | .error e => .error e
  | .ok (some _) => .error (.alreadyExists (.table q.table))
  | .ok none =>
    let d : Definition := ⟨q.table, columns, q.permissions.getD .standard⟩
    .ok ⟨[.define q.table d.encode, .provision q.table], .created q.table⟩

def task (q : CreateTable) (view : Snapshot) : Except QueryError Task :=
  match Definition.checkName "table" q.table with
  | .error e => .error e
  | .ok () =>
    (Column.listOfText q.columns).map fun columns => ⟨[⟨q.table, .write⟩], q.plan view columns⟩

end CreateTable

/-! ### Inserting -/

namespace InsertRow

def plan (q : InsertRow) (view : Snapshot) (d : Definition) : Except QueryError Plan :=
  match d.checkRecord q.record with
  | .error e => .error e
  | .ok fields =>
    (d.checkNew view fields).map fun _ => ⟨[.append q.table q.record], .inserted q.table⟩

def task (q : InsertRow) (view : Snapshot) (caller : Caller) : Except QueryError Task :=
  (view.open q.table caller.role .write).map fun d => ⟨d.writeLocks, q.plan view d⟩

end InsertRow

/-! ### Updating -/

/-- A record of a table that is being updated, and whether the update changes it. -/
structure UpdatedRecord where
  record : String
  changed : Bool
deriving DecidableEq, Repr

namespace UpdateRows

/-- The positions of the assigned columns, with their new fields. -/
def positions (q : UpdateRows) (d : Definition) :
    List (String × String) → Except QueryError (List (Nat × String))
  | [] => .ok []
  | (column, field) :: rest =>
    match d.field? column with
    | none => .error (.notFound (.column column q.table))
    | some i => (positions q d rest).map ((i, field) :: ·)

/-- The fields after the assignments, of which the last one to a column counts. -/
def assign (assigned : List (Nat × String)) (fields : List String) : List String :=
  assigned.foldl (fun fields (i, field) => fields.set i field) fields

/-- What becomes of a stored record. The fields that are not assigned keep their text. -/
def update (q : UpdateRows) (d : Definition) (assigned : List (Nat × String)) (record : String) :
    Except QueryError UpdatedRecord :=
  match d.fieldsOf record with
  | .error e => .error e
  | .ok fields =>
    if d.matchesAll fields q.conditions then
      let line := Record.ofFields (assign assigned fields)
      (d.checkRecord line).map fun _ => ⟨line, true⟩
    else .ok ⟨record, false⟩

/-- Checks each changed record against all others, those before it first. -/
def checkChanged (d : Definition) (view : Snapshot) (before : List (List String)) :
    List UpdatedRecord → Except QueryError Unit
  | [] => .ok ()
  | r :: rest =>
    let fields := Record.fields r.record
    let check :=
      if r.changed then
        d.checkAgainst view fields (before ++ rest.map fun other => Record.fields other.record)
      else .ok ()
    match check with
    | .error e => .error e
    | .ok () => checkChanged d view (before ++ [fields]) rest

def plan (q : UpdateRows) (view : Snapshot) (d : Definition) (assigned : List (Nat × String)) :
    Except QueryError Plan :=
  match view.records q.table with
  | .error e => .error e
  | .ok records =>
    match (Record.rows records).mapM (q.update d assigned) with
    | .error e => .error e
    | .ok updated =>
      let count := updated.countP (·.changed)
      let edits := if count = 0 then [] else [Edit.replace q.table (updated.map (·.record))]
      (checkChanged d view [] updated).map fun _ => ⟨edits, .updated count⟩

def task (q : UpdateRows) (view : Snapshot) (caller : Caller) : Except QueryError Task :=
  match view.open q.table caller.role .write with
  | .error e => .error e
  | .ok d =>
    (q.positions d q.assignments).map fun assigned => ⟨d.writeLocks, q.plan view d assigned⟩

end UpdateRows

/-! ### Deleting -/

namespace DeleteRows

/-- Whether a stored record is to be deleted. -/
def deletes (q : DeleteRows) (d : Definition) (record : String) : Except QueryError Bool :=
  (d.fieldsOf record).map fun fields => d.matchesAll fields q.conditions

def plan (q : DeleteRows) (view : Snapshot) (d : Definition) : Except QueryError Plan :=
  match view.records q.table with
  | .error e => .error e
  | .ok records =>
    let rows := Record.rows records
    match rows.mapM (q.deletes d) with
    | .error e => .error e
    | .ok marks =>
      let kept := ((rows.zip marks).filter (!·.2)).map (·.1)
      let count := marks.countP id
      .ok ⟨if count = 0 then [] else [.replace q.table kept], .deleted count⟩

def task (q : DeleteRows) (view : Snapshot) (caller : Caller) : Except QueryError Task :=
  (view.open q.table caller.role .write).map fun d => ⟨[⟨q.table, .write⟩], q.plan view d⟩

end DeleteRows

end Leuit
