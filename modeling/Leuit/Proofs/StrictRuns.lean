import Leuit.Proofs.Commands
import Leuit.Proofs.SortedPages
import Leuit.Proofs.StrictQueries
import Leuit.Proofs.StrictSelections
import Leuit.Store.Memory

/-! Runs by position. A command that is read strictly is planned strictly too: the definitions that it opens are
read strictly, conditions are tested on the cells their fields name, assignments are put at the positions of
their columns, and an update takes each changed row out of the list while it is checked. No read fails along
the way, so a strict run is the run, unless it is cut short where rows are sorted by an order that is none
(`Engine.executeStrict_eq`); and what a selection answers has the shape of its heading
(`Engine.execute_in_range`). -/
namespace Leuit
open Outcome
open Strict (settled read)

/-! ### Opening a table -/

namespace Snapshot
variable (view : Snapshot)

def loadStrict (table : String) : Strict Definition :=
  match view.schema table with
  | .error e => settled (.error e)
  | .ok none => settled (.error (.notFound (.table table)))
  | .ok (some document) => Definition.decodeStrict table document

@[simp] theorem loadStrict_eq (table : String) : view.loadStrict table = settled (view.load table) := by
  unfold loadStrict load
  rcases view.schema table with e | _ | document
  · rfl
  · rfl
  · exact Definition.decodeStrict_eq table document

def openStrict (table role : String) (action : Action) : Strict Definition := do
  let d ← view.loadStrict table
  settled ((d.require role action).map fun _ => d)

@[simp] theorem openStrict_eq (table role : String) (action : Action) :
    view.openStrict table role action = settled (view.open table role action) := by
  unfold openStrict Snapshot.open
  rw [loadStrict_eq]
  cases view.load table <;> rfl

end Snapshot

/-! ### Conditions on stored rows -/

namespace Definition
variable {d : Definition}

theorem column?_lt {name : String} {i : Nat} (h : d.column? name = some i) : i < d.columns.length :=
  (List.findIdx?_eq_some_iff_getElem.mp h).1

theorem field?_lt {field : String} {i : Nat} (h : d.field? field = some i) : i < d.columns.length := by
  unfold field? at h
  split at h
  · next hcolumn =>
    cases h
    exact column?_lt hcolumn
  · split at h
    · split at h
      · exact column?_lt h
      · cases h
    · cases h

/-- A condition tested on the value and the column that its field names. -/
def satisfiesStrict (d : Definition) (values : List Value) (c : Condition) : Option Bool :=
  match d.field? c.field with
  | none => some false
  | some i => do
    let value ← values[i]?
    let column ← d.columns[i]?
    return value.meets c.operator c.literal column.type

theorem satisfiesStrict_eq {values : List Value} (h : values.length = d.columns.length) (c : Condition) :
    d.satisfiesStrict values c = some (d.satisfies values c) := by
  unfold satisfiesStrict satisfies
  cases hfield : d.field? c.field with
  | none => rfl
  | some i =>
    have hi := field?_lt hfield
    simp only [List.getElem?_eq_getElem hi, List.getElem?_eq_getElem (Nat.lt_of_lt_of_eq hi h.symm)]
    rfl

def matchesAllStrict (d : Definition) (fields : List String) (conditions : List Condition) : Option Bool :=
  Condition.holdsAllStrict (d.satisfiesStrict (d.values fields)) conditions

theorem matchesAllStrict_eq {fields : List String} (h : fields.length = d.columns.length)
    (conditions : List Condition) :
    d.matchesAllStrict fields conditions = some (d.matchesAll fields conditions) :=
  Condition.holdsAllStrict_eq fun c _ => satisfiesStrict_eq (by simp [values, h]) c

end Definition

/-! ### Constraints -/

namespace Column
variable (c : Column) (view : Snapshot)

/-- A foreign key checked against a parent that is opened strictly. -/
def checkReferenceStrict (key : ForeignKey) (value : String) : Strict Unit := do
  let fault (f : ForeignKeyFault) : Strict Unit := settled (.error (.violation (.foreignKey c.name key f)))
  match ← read (view.loadStrict key.table).run with
  | .error (.notFound _) => fault .tableMissing
  | .error e => settled (.error e)
  | .ok parent =>
    match parent.columnIgnoringCase? key.column with
    | none => fault .columnMissing
    | some i =>
      let records ← settled (view.records key.table)
      if records.any fun record => fieldIs i value (Record.fields record) then return ()
      else fault (.valueMissing value)

theorem checkReferenceStrict_eq (key : ForeignKey) (value : String) :
    c.checkReferenceStrict view key value = settled (c.checkReference view key value) := by
  unfold checkReferenceStrict checkReference
  dsimp only
  rw [Snapshot.loadStrict_eq, Strict.run_settled, Strict.read_some_bind]
  cases view.load key.table with
  | error e => cases e <;> rfl
  | ok parent =>
    dsimp only
    cases parent.columnIgnoringCase? key.column with
    | none => rfl
    | some i =>
      dsimp only
      cases view.records key.table with
      | error e => rfl
      | ok records =>
        rw [Strict.settled_ok_bind]
        dsimp only
        split <;> rfl

def checkFieldStrict (i : Nat) (field : String) (others : List (List String)) : Strict Unit :=
  if isNullField field then
    if c.isNotNull then settled (.error (.violation (.notNull c.name))) else settled (.ok ())
  else do
    settled (c.checkUnique i (Text.trim field) others)
    match c.foreignKey with
    | none => return ()
    | some key => c.checkReferenceStrict view key (Text.trim field)

theorem checkFieldStrict_eq (i : Nat) (field : String) (others : List (List String)) :
    c.checkFieldStrict view i field others = settled (c.checkField view i field others) := by
  unfold checkFieldStrict checkField
  split
  · split <;> rfl
  · cases c.checkUnique i (Text.trim field) others with
    | error e => rfl
    | ok u =>
      rw [Strict.settled_ok_bind]
      cases c.foreignKey with
      | none => rfl
      | some key => exact checkReferenceStrict_eq c view key _

end Column

namespace Definition
variable (d : Definition) (view : Snapshot)

def checkFieldsFromStrict (others : List (List String)) (i : Nat) : List (Column × String) → Strict Unit
  | [] => settled (.ok ())
  | (column, field) :: rest => do
    column.checkFieldStrict view i field others
    checkFieldsFromStrict others (i + 1) rest

theorem checkFieldsFromStrict_eq (others : List (List String)) (i : Nat) (pairs : List (Column × String)) :
    checkFieldsFromStrict view others i pairs = settled (checkFieldsFrom view others i pairs) := by
  induction pairs generalizing i with
  | nil => rfl
  | cons pair rest ih =>
    obtain ⟨column, field⟩ := pair
    rw [checkFieldsFromStrict, checkFieldsFrom, Column.checkFieldStrict_eq, ih]
    cases column.checkField view i field others <;> rfl

def checkAgainstStrict (fields : List String) (others : List (List String)) : Strict Unit :=
  checkFieldsFromStrict view others 0 (d.columns.zip fields)

theorem checkAgainstStrict_eq (fields : List String) (others : List (List String)) :
    d.checkAgainstStrict view fields others = settled (d.checkAgainst view fields others) :=
  checkFieldsFromStrict_eq view others 0 _

def checkNewStrict (fields : List String) : Strict Unit := do
  let records ← settled (view.records d.name)
  d.checkAgainstStrict view fields ((Record.rows records).map Record.fields)

theorem checkNewStrict_eq (fields : List String) :
    d.checkNewStrict view fields = settled (d.checkNew view fields) := by
  unfold checkNewStrict checkNew
  cases view.records d.name with
  | error e => rfl
  | ok records => exact checkAgainstStrict_eq ..

end Definition

/-! ### Writing commands -/

namespace CreateTable

def taskStrict (q : CreateTable) (view : Snapshot) : Strict Task := do
  settled (Definition.checkName "table" q.table)
  let columns ← Column.listOfTextStrict q.columns
  return ⟨[⟨q.table, .write⟩], q.plan view columns⟩

theorem taskStrict_eq (q : CreateTable) (view : Snapshot) : q.taskStrict view = settled (q.task view) := by
  unfold taskStrict task
  rw [Column.listOfTextStrict_eq]
  cases Definition.checkName "table" q.table with
  | error e => rfl
  | ok u => cases Column.listOfText q.columns <;> rfl

end CreateTable

namespace InsertRow

def planStrict (q : InsertRow) (view : Snapshot) (d : Definition) : Strict Plan := do
  let fields ← settled (d.checkRecord q.record)
  d.checkNewStrict view fields
  return ⟨[.append q.table q.record], .inserted q.table⟩

theorem planStrict_eq (q : InsertRow) (view : Snapshot) (d : Definition) :
    q.planStrict view d = settled (q.plan view d) := by
  unfold planStrict plan
  cases d.checkRecord q.record with
  | error e => rfl
  | ok fields =>
    rw [Strict.settled_ok_bind, Definition.checkNewStrict_eq]
    dsimp only
    cases d.checkNew view fields <;> rfl

def taskStrict (q : InsertRow) (view : Snapshot) (caller : Caller) : Strict Task := do
  let d ← view.openStrict q.table caller.role .write
  let plan ← read (q.planStrict view d).run
  return ⟨d.writeLocks, plan⟩

theorem taskStrict_eq (q : InsertRow) (view : Snapshot) (caller : Caller) :
    q.taskStrict view caller = settled (q.task view caller) := by
  unfold taskStrict task
  simp only [Snapshot.openStrict_eq, planStrict_eq, Strict.run_settled, Strict.read_some_bind]
  cases view.open q.table caller.role .write <;> rfl

end InsertRow

namespace UpdateRows

/-- The fields after the assignments, each put at the position of its column. -/
def assignStrict (fields : List String) : List (Nat × String) → Option (List String)
  | [] => some fields
  | (i, field) :: rest => do
    let fields ← put? fields i field
    assignStrict fields rest

theorem assignStrict_eq {assigned : List (Nat × String)} {fields : List String}
    (h : ∀ p ∈ assigned, p.1 < fields.length) :
    assignStrict fields assigned = some (assign assigned fields) := by
  induction assigned generalizing fields with
  | nil => rfl
  | cons first rest ih =>
    obtain ⟨i, field⟩ := first
    have hput : put? fields i field = some (fields.set i field) := if_pos (h (i, field) List.mem_cons_self)
    rw [assignStrict, hput, Option.bind_eq_bind, Option.bind_some,
      ih fun p hp => by rw [List.length_set]; exact h p (List.mem_cons_of_mem _ hp)]
    rfl

variable {q : UpdateRows} {d : Definition} {assigned : List (Nat × String)}

theorem positions_lt {assignments : List (String × String)} (h : q.positions d assignments = .ok assigned) :
    ∀ p ∈ assigned, p.1 < d.columns.length := by
  induction assignments generalizing assigned with
  | nil =>
    cases h
    exact nofun
  | cons first rest ih =>
    obtain ⟨column, field⟩ := first
    rw [positions] at h
    split at h
    · cases h
    · next i hi =>
      obtain ⟨others, hothers, rfl⟩ := map_eq_ok.mp h
      exact List.forall_mem_cons.mpr ⟨Definition.field?_lt hi, ih hothers⟩

def updateStrict (q : UpdateRows) (d : Definition) (assigned : List (Nat × String)) (record : String) :
    Strict UpdatedRecord := do
  let fields ← settled (d.fieldsOf record)
  if ← read (d.matchesAllStrict fields q.conditions) then
    let changed ← read (assignStrict fields assigned)
    let line := Record.ofFields changed
    settled ((d.checkRecord line).map fun _ => ⟨line, true⟩)
  else return ⟨record, false⟩

theorem updateStrict_eq (h : ∀ p ∈ assigned, p.1 < d.columns.length) (record : String) :
    q.updateStrict d assigned record = settled (q.update d assigned record) := by
  unfold updateStrict update
  cases hfields : d.fieldsOf record with
  | error e => rfl
  | ok fields =>
    have hlen := (Definition.fieldsOf_eq_ok.mp hfields).2
    rw [Strict.settled_ok_bind, Definition.matchesAllStrict_eq hlen, Strict.read_some_bind,
      assignStrict_eq fun p hp => hlen ▸ h p hp, Strict.read_some_bind]
    dsimp only
    split <;> rfl

/-- The positions of the changed records, the first of which stands at `i`. -/
def changedFrom (i : Nat) : List UpdatedRecord → List Nat
  | [] => []
  | r :: rest => if r.changed then i :: changedFrom (i + 1) rest else changedFrom (i + 1) rest

/-- Checks the rows at some positions against all others, each being taken out while it is checked. -/
def checkChangedStrict (d : Definition) (view : Snapshot) (rows : List (List String)) : List Nat → Strict Unit
  | [] => settled (.ok ())
  | i :: rest => do
    let row ← read rows[i]?
    let others ← read (put? rows i [])
    d.checkAgainstStrict view row others
    let rows ← read (put? others i row)
    checkChangedStrict d view rows rest

/-- A row without fields violates nothing. -/
theorem checkAgainst_blank (view : Snapshot) (fields : List String) (before after : List (List String)) :
    d.checkAgainst view fields (before ++ [] :: after) = d.checkAgainst view fields (before ++ after) := by
  have hunique (c : Column) (i : Nat) (value : String) :
      c.checkUnique i value (before ++ [] :: after) = c.checkUnique i value (before ++ after) := by
    simp [Column.checkUnique, fieldIs]
  have hfrom : ∀ pairs i, Definition.checkFieldsFrom view (before ++ [] :: after) i pairs =
      Definition.checkFieldsFrom view (before ++ after) i pairs := by
    intro pairs
    induction pairs with
    | nil => exact fun _ => rfl
    | cons pair rest ih =>
      intro i
      simp only [Definition.checkFieldsFrom, Column.checkField, hunique, ih]
  exact hfrom _ 0

theorem checkChangedStrict_eq (view : Snapshot) (before : List (List String)) (updated : List UpdatedRecord) :
    checkChangedStrict d view (before ++ updated.map fun r => Record.fields r.record)
      (changedFrom before.length updated) = settled (checkChanged d view before updated) := by
  induction updated generalizing before with
  | nil => rfl
  | cons r rest ih =>
    have hnext := ih (before ++ [Record.fields r.record])
    rw [List.length_append, List.length_singleton, List.append_assoc, List.singleton_append] at hnext
    rw [List.map_cons, changedFrom, checkChanged]
    cases r.changed with
    | false => exact hnext
    | true =>
      have hrow : (before ++ Record.fields r.record :: rest.map (Record.fields ·.record))[before.length]? =
          some (Record.fields r.record) := by simp
      rw [if_pos rfl, checkChangedStrict, hrow, Strict.read_some_bind, put?_append, Strict.read_some_bind,
        Definition.checkAgainstStrict_eq, checkAgainst_blank, put?_append, Strict.read_some_bind, hnext,
        if_pos rfl]
      cases d.checkAgainst view _ _ <;> rfl

def planStrict (q : UpdateRows) (view : Snapshot) (d : Definition) (assigned : List (Nat × String)) :
    Strict Plan := do
  let records ← settled (view.records q.table)
  let updated ← (Record.rows records).mapM (q.updateStrict d assigned)
  let count := updated.countP (·.changed)
  let edits := if count = 0 then [] else [Edit.replace q.table (updated.map (·.record))]
  checkChangedStrict d view (updated.map fun r => Record.fields r.record) (changedFrom 0 updated)
  return ⟨edits, .updated count⟩

theorem planStrict_eq (h : ∀ p ∈ assigned, p.1 < d.columns.length) (view : Snapshot) :
    q.planStrict view d assigned = settled (q.plan view d assigned) := by
  unfold planStrict plan
  cases view.records q.table with
  | error e => rfl
  | ok records =>
    rw [Strict.settled_ok_bind, Strict.mapM_settled fun record _ => updateStrict_eq h record]
    dsimp only
    cases (Record.rows records).mapM (q.update d assigned) with
    | error e => rfl
    | ok updated =>
      have hcheck := checkChangedStrict_eq (d := d) view [] updated
      rw [List.nil_append, List.length_nil] at hcheck
      rw [Strict.settled_ok_bind]
      dsimp only
      rw [hcheck]
      cases checkChanged d view [] updated <;> rfl

def taskStrict (q : UpdateRows) (view : Snapshot) (caller : Caller) : Strict Task := do
  let d ← view.openStrict q.table caller.role .write
  let assigned ← settled (q.positions d q.assignments)
  let plan ← read (q.planStrict view d assigned).run
  return ⟨d.writeLocks, plan⟩

theorem taskStrict_eq (q : UpdateRows) (view : Snapshot) (caller : Caller) :
    q.taskStrict view caller = settled (q.task view caller) := by
  unfold taskStrict task
  rw [Snapshot.openStrict_eq]
  cases view.open q.table caller.role .write with
  | error e => rfl
  | ok d =>
    rw [Strict.settled_ok_bind]
    dsimp only
    cases hpositions : q.positions d q.assignments with
    | error e => rfl
    | ok assigned =>
      rw [Strict.settled_ok_bind, planStrict_eq (positions_lt hpositions)]
      rfl

end UpdateRows

namespace DeleteRows

def deletesStrict (q : DeleteRows) (d : Definition) (record : String) : Strict Bool := do
  let fields ← settled (d.fieldsOf record)
  read (d.matchesAllStrict fields q.conditions)

theorem deletesStrict_eq (q : DeleteRows) (d : Definition) (record : String) :
    q.deletesStrict d record = settled (q.deletes d record) := by
  unfold deletesStrict deletes
  cases hfields : d.fieldsOf record with
  | error e => rfl
  | ok fields =>
    rw [Strict.settled_ok_bind, Definition.matchesAllStrict_eq (Definition.fieldsOf_eq_ok.mp hfields).2]
    rfl

def planStrict (q : DeleteRows) (view : Snapshot) (d : Definition) : Strict Plan := do
  let records ← settled (view.records q.table)
  let rows := Record.rows records
  let marks ← rows.mapM (q.deletesStrict d)
  let kept := ((rows.zip marks).filter (!·.2)).map (·.1)
  let count := marks.countP id
  return ⟨if count = 0 then [] else [.replace q.table kept], .deleted count⟩

theorem planStrict_eq (q : DeleteRows) (view : Snapshot) (d : Definition) :
    q.planStrict view d = settled (q.plan view d) := by
  unfold planStrict plan
  cases view.records q.table with
  | error e => rfl
  | ok records =>
    rw [Strict.settled_ok_bind]
    dsimp only
    rw [Strict.mapM_settled fun record _ => deletesStrict_eq q d record]
    cases (Record.rows records).mapM (q.deletes d) <;> rfl

def taskStrict (q : DeleteRows) (view : Snapshot) (caller : Caller) : Strict Task := do
  let d ← view.openStrict q.table caller.role .write
  let plan ← read (q.planStrict view d).run
  return ⟨[⟨q.table, .write⟩], plan⟩

theorem taskStrict_eq (q : DeleteRows) (view : Snapshot) (caller : Caller) :
    q.taskStrict view caller = settled (q.task view caller) := by
  unfold taskStrict task
  simp only [Snapshot.openStrict_eq, planStrict_eq, Strict.run_settled, Strict.read_some_bind]
  cases view.open q.table caller.role .write <;> rfl

end DeleteRows

/-! ### Selections -/

namespace SelectRows
variable {view : Snapshot} {role : String} {current : Relation}

def readTableStrict (view : Snapshot) (role table : String) : Strict Relation := do
  let d ← view.openStrict table role .read
  let records ← settled (view.records table)
  settled (Relation.ofTable d records)

theorem readTableStrict_eq (view : Snapshot) (role table : String) :
    readTableStrict view role table = settled (readTable view role table) := by
  unfold readTableStrict readTable
  rw [Snapshot.openStrict_eq]
  cases view.open table role .read with
  | error e => rfl
  | ok d =>
    rw [Strict.settled_ok_bind]
    dsimp only
    cases view.records table <;> rfl

def joinAllStrict (view : Snapshot) (role : String) (current : Relation) : List Join → Strict Relation
  | [] => settled (.ok current)
  | j :: rest => do
    let target ← readTableStrict view role j.table
    let joined ← read (current.joinStrict j.kind target j.condition)
    joinAllStrict view role joined rest

theorem joinAllStrict_eq (h : current.Rectangular) (joins : List Join) :
    joinAllStrict view role current joins = settled (joinAll view role current joins) := by
  induction joins generalizing current with
  | nil => rfl
  | cons j rest ih =>
    rw [joinAllStrict, joinAll, readTableStrict_eq]
    cases htarget : readTable view role j.table with
    | error e => rfl
    | ok target =>
      have hwide := lasting_rectangular.readTable htarget
      rw [Strict.settled_ok_bind, Relation.joinStrict_eq h hwide, Strict.read_some_bind,
        ih (h.join hwide j.kind j.condition)]

def planStrict (q : SelectRows) (view : Snapshot) (role : String) (d : Definition) : Strict Plan := do
  let records ← settled (view.records q.table)
  let rows ← settled (Relation.ofTable d records)
  let joined ← joinAllStrict view role rows q.joins
  let result ← read (q.resultStrict joined)
  return ⟨[], .rows result⟩

/-- Planning is cut short if the rows cannot be sorted. -/
theorem planStrict_eq {q : SelectRows} {d : Definition} (hopen : view.open q.table role .read = .ok d) :
    q.planStrict view role d = settled (q.plan view role d) ∨
      (q.planStrict view role d).run = none ∧ q.plan view role d = .error .aborted ∧
        ∃ joined, q.source view role = .ok joined ∧ q.Disordered joined := by
  unfold planStrict plan source readTable
  rw [hopen]
  dsimp only
  cases view.records q.table with
  | error e => exact .inl rfl
  | ok records =>
    rw [Strict.settled_ok_bind]
    dsimp only
    cases hrows : Relation.ofTable d records with
    | error e => exact .inl rfl
    | ok rows =>
      have hrectangular := Relation.rectangular_ofTable hrows
      rw [Strict.settled_ok_bind, joinAllStrict_eq hrectangular]
      dsimp only
      cases hjoined : joinAll view role rows q.joins with
      | error e => exact .inl rfl
      | ok joined =>
        rw [Strict.settled_ok_bind, resultStrict_eq q (lasting_rectangular.joinAll hrectangular hjoined)]
        dsimp only
        cases hresult : q.result joined with
        | error fault =>
          obtain ⟨rfl, hdisordered⟩ := result_eq_error hresult
          exact .inr ⟨rfl, rfl, joined, rfl, hdisordered⟩
        | ok result => exact .inl rfl

def taskStrict (q : SelectRows) (view : Snapshot) (caller : Caller) : Strict Task := do
  let d ← view.openStrict q.table caller.role .read
  let plan ← read (q.planStrict view caller.role d).run
  return ⟨⟨q.table, .read⟩ :: q.joins.map (⟨·.table, .read⟩), plan⟩

theorem taskStrict_eq (q : SelectRows) (view : Snapshot) (caller : Caller) :
    q.taskStrict view caller = settled (q.task view caller) ∨
      (q.taskStrict view caller).run = none ∧
        (∃ locks, q.task view caller = .ok ⟨locks, .error .aborted⟩) ∧
        ∃ joined, q.source view caller.role = .ok joined ∧ q.Disordered joined := by
  unfold taskStrict task
  rw [Snapshot.openStrict_eq]
  cases hopen : view.open q.table caller.role .read with
  | error e => exact .inl rfl
  | ok d =>
    rw [Strict.settled_ok_bind]
    dsimp only
    rcases planStrict_eq hopen with hplan | ⟨hstrict, hplan, hdisordered⟩
    · rw [hplan]
      exact .inl rfl
    · rw [hstrict, hplan]
      exact .inr ⟨rfl, ⟨_, rfl⟩, hdisordered⟩

end SelectRows

/-! ### Runs -/

def Command.taskStrict (view : Snapshot) (caller : Caller) : Command → Strict Task
  | create q => q.taskStrict view
  | insert q => q.taskStrict view caller
  | select q => q.taskStrict view caller
  | update q => q.taskStrict view caller
  | delete q => q.taskStrict view caller

/-- A command that may be cut short: a selection that may fail to sort its rows. -/
def Command.Disordered (view : Snapshot) (caller : Caller) (command : Command) : Prop :=
  ∃ q joined, command = .select q ∧ q.source view caller.role = .ok joined ∧ q.Disordered joined

theorem Command.taskStrict_eq (command : Command) (view : Snapshot) (caller : Caller) :
    command.taskStrict view caller = settled (command.task view caller) ∨
      (command.taskStrict view caller).run = none ∧
        (∃ locks, command.task view caller = .ok ⟨locks, .error .aborted⟩) ∧ command.Disordered view caller := by
  cases command with
  | create q => exact .inl (q.taskStrict_eq view)
  | insert q => exact .inl (q.taskStrict_eq view caller)
  | select q =>
    refine (q.taskStrict_eq view caller).imp_right fun ⟨hstrict, htask, joined, hdisordered⟩ => ?_
    exact ⟨hstrict, htask, q, joined, rfl, hdisordered⟩
  | update q => exact .inl (q.taskStrict_eq view caller)
  | delete q => exact .inl (q.taskStrict_eq view caller)

namespace Engine
variable {σ : Type} [Storage σ]

/-- Runs a command that is planned strictly. -/
def runStrict (e : Engine σ) (caller : Caller) (command : Command) :
    Option (Except QueryError Answer × Engine σ) := do
  match ← (command.taskStrict (Storage.snapshot e.store caller.database) caller).run with
  | .error fault => return (.error fault, e)
  | .ok task =>
    let locked := { e with locks := e.locks.acquire caller.database task.locks }
    match task.plan with
    | .error fault => return (.error fault, locked)
    | .ok plan => return locked.perform caller.database plan

/-- Runs the command that a query text spells when it is read strictly. -/
def executeStrict (e : Engine σ) (caller : Caller) (query : String) :
    Option (Except QueryError Answer × Engine σ) := do
  match ← (Command.ofTextStrict query).run with
  | .error fault => return (.error fault, e)
  | .ok command => e.runStrict caller command

theorem runStrict_eq (e : Engine σ) (caller : Caller) (command : Command) :
    e.runStrict caller command = some (e.run caller command) ∨
      e.runStrict caller command = none ∧ (e.run caller command).1 = .error .aborted ∧
        command.Disordered (Storage.snapshot e.store caller.database) caller := by
  unfold runStrict run
  rcases Command.taskStrict_eq command (Storage.snapshot e.store caller.database) caller with
    htask | ⟨hstrict, ⟨locks, htask⟩, hdisordered⟩
  · rw [htask, Strict.run_settled, Option.bind_eq_bind, Option.bind_some]
    refine .inl ?_
    cases command.task (Storage.snapshot e.store caller.database) caller with
    | error fault => rfl
    | ok task =>
      dsimp only
      cases task.plan <;> rfl
  · rw [hstrict, htask]
    exact .inr ⟨rfl, rfl, hdisordered⟩

/-- A query that may be cut short. -/
def Disordered (e : Engine σ) (caller : Caller) (query : String) : Prop :=
  ∃ command, Command.ofText query = .ok command ∧
    command.Disordered (Storage.snapshot e.store caller.database) caller

/-- A strict run never fails to read, and is the run, unless it is cut short. -/
theorem executeStrict_eq (e : Engine σ) (caller : Caller) (query : String) :
    e.executeStrict caller query = some (e.execute caller query) ∨
      e.executeStrict caller query = none ∧ (e.execute caller query).1 = .error .aborted ∧
        e.Disordered caller query := by
  unfold executeStrict execute Disordered
  rw [Command.ofTextStrict_eq, Strict.run_settled, Option.bind_eq_bind, Option.bind_some]
  cases Command.ofText query with
  | error fault => exact .inl rfl
  | ok command =>
    refine (runStrict_eq e caller command).imp_right fun ⟨hstrict, hrun, hdisordered⟩ => ?_
    exact ⟨hstrict, hrun, command, rfl, hdisordered⟩

variable {e : Engine σ} {caller : Caller} {query : String} {result : ResultSet}

/-- Rows are the result of a selection over a rectangular relation. -/
theorem execute_rows (h : (e.execute caller query).1 = .ok (.rows result)) :
    ∃ q joined, Command.ofText query = .ok (.select q) ∧ joined.Rectangular ∧ q.result joined = .ok result := by
  obtain ⟨command, hcommand, hrun⟩ := execute_eq_ok h
  obtain ⟨plan, hplan, -, hanswer⟩ := run_eq_ok (hrun ▸ h)
  cases command with
  | create q =>
    obtain ⟨_, -, -, -, rfl⟩ := Command.planned_create.mp hplan
    cases hanswer
  | insert q =>
    obtain ⟨_, _, -, -, -, rfl⟩ := Command.planned_insert.mp hplan
    cases hanswer
  | select q =>
    obtain ⟨d, records, rows, joined, found, -, -, hrows, hjoined, hresult, rfl⟩ :=
      Command.planned_select.mp hplan
    cases hanswer
    have hrectangular := SelectRows.lasting_rectangular.joinAll (Relation.rectangular_ofTable hrows) hjoined
    exact ⟨q, joined, hcommand, hrectangular, hresult⟩
  | update q =>
    obtain ⟨_, _, _, _, -, -, -, -, -, rfl⟩ := Command.planned_update.mp hplan
    cases hanswer
  | delete q =>
    obtain ⟨_, _, -, -, -, rfl⟩ := Command.planned_delete.mp hplan
    cases hanswer

/-- What is owed by the answer to a query that returns rows. -/
structure Shaped (query : String) (result : ResultSet) : Prop where
  rectangular : result.Rectangular
  message : result.message = toString result.rows.length ++ " row(s) found"
  /-- A list of fields that does not start with a star and holds an aggregate gives one row. -/
  aggregated : ∀ q, Command.ofText query = .ok (.select q) → q.fields.head? ≠ some "*" →
    (∃ field ∈ q.fields, (Selection.ofText field).isAggregate = true) → result.rows.length = 1

theorem shaped_of_execute (h : (e.execute caller query).1 = .ok (.rows result)) : Shaped query result := by
  obtain ⟨q, joined, hq, hjoined, hresult⟩ := execute_rows h
  refine ⟨SelectRows.rectangular_result hjoined hresult, rfl, fun q' hq' hstar ⟨field, hfield, haggregate⟩ => ?_⟩
  cases hq.symm.trans hq'
  have hall : q.selectsAll = false := by
    unfold SelectRows.selectsAll
    cases hfields : q.fields with
    | nil => exact absurd (hfields ▸ hfield) List.not_mem_nil
    | cons first rest => simpa [hfields] using hstar
  exact SelectRows.length_rows_result hall hfield haggregate hresult

/-- **No query reads out of range, and what it returns is rectangular.** Whatever the text of a query, its
caller and the content of the store are, every position that the query leads to lies in the list or text it is
used on: the run in which each access may fail is the run. It is cut short only where a selection sorts many rows
by a column whose values are in no total preorder. And if a query returns rows, each of them has a value for each
column, the message counts them, and a list of fields with an aggregate gives just one. -/
theorem execute_in_range (e : Engine σ) (caller : Caller) (query : String) :
    (e.executeStrict caller query = some (e.execute caller query) ∨
      e.executeStrict caller query = none ∧ (e.execute caller query).1 = .error .aborted ∧
        e.Disordered caller query) ∧
      ∀ result, (e.execute caller query).1 = .ok (.rows result) → Shaped query result :=
  ⟨e.executeStrict_eq caller query, fun _ h => shaped_of_execute h⟩

/-- A table with two columns of one name. -/
def namesakes : Memory where
  schemas := ⟨[(("kantor", "t"), "a:STRING|a:INT\nuser=read\n")]⟩
  records := ⟨[(("kantor", "t"), ["x|1", " ", "y|2"])]⟩

theorem execute_in_range_namesakes :
    let caller : Caller := ⟨"asep", "user", "kantor"⟩
    let query := "SELECT JUMLAH(a), t.a FROM t RIGHT JOIN t ON t.a = a"
    let result : ResultSet := ⟨["JUMLAH(a)", "t.a"], [[.int 2, .text "x"]]⟩
    ((ofStore namesakes).execute caller query).1 = .ok (.rows result) ∧ Shaped query result := by
  intro caller query result
  have hrun : ((ofStore namesakes).execute caller query).1 = .ok (.rows result) := by decide +kernel
  exact ⟨hrun, (execute_in_range (ofStore namesakes) caller query).2 result hrun⟩

/-- A table of texts that are in no order: 9 is less than 10, 10 than 1a, and 1a than 9. -/
def shuffled : Memory where
  schemas := ⟨[(("kantor", "t"), "a:STRING\nuser=read\n")]⟩
  records := ⟨[(("kantor", "t"), ["9", "1a", "9", "10", "9", "10", "10", "10", "1a", "10", "9", "9", "10", "9", "10",
    "10", "1a", "9", "1a", "10", "10"])]⟩

/-- **Rows in no order may cut a query short.** -/
theorem sorting_cut_short :
    let caller : Caller := ⟨"asep", "user", "kantor"⟩
    let query := "TINGALI t RUNTUYKEUN a"
    (ofStore shuffled).executeStrict caller query = none ∧
      ((ofStore shuffled).execute caller query).1 = .error .aborted := by
  intro caller query
  have hrun : ((ofStore shuffled).execute caller query).1 = .error .aborted := by decide +kernel
  have hstrict : ((ofStore shuffled).executeStrict caller query).isNone = true := by decide +kernel
  exact ⟨Option.isNone_iff_eq_none.mp hstrict, hrun⟩

end Engine

end Leuit
