import Leuit.Proofs.Refusals
import Mathlib

/-! Insertions. A new record goes through checks of several kinds, and the first that fails is reported. The
conditions under which a record is accepted (`InsertRow.Accepted`) and the reasons why it is not
(`InsertRow.Refused`) are all that can come of an insertion: it has a plan exactly if the record is accepted
(`Command.planned_insert_iff_accepted`) and fails with exactly the faults for which the record is refused
(`Command.planned_insert_iff_refused`). -/
namespace Leuit
open Outcome

/-! ### Accepted and refused records -/

namespace InsertRow

/-- Each column of a table, with the field of the new row. -/
def pairs (q : InsertRow) (d : Definition) : List (Column × String) := d.columns.zip (Record.fields q.record)

/-- The table is there, and the role may write it. -/
structure Opened (q : InsertRow) (view : Snapshot) (role : String) (d : Definition) : Prop where
  loaded : view.load q.table = .ok d
  allowed : d.permissions.allows role .write = true

/-- The record has a field for each column, and each that is not null is of the type of its column. -/
structure Fitting (q : InsertRow) (d : Definition) : Prop where
  arity : (Record.fields q.record).length = d.columns.length
  typed : ∀ c f, (c, f) ∈ q.pairs d → isNullField f = false → c.type.accepts f = true

/-- All that a new record has to meet. -/
structure Accepted (q : InsertRow) (view : Snapshot) (role : String) (d : Definition)
    (records : List String) : Prop where
  opened : q.Opened view role d
  fitting : q.Fitting d
  found : view.records q.table = .ok records
  permitted : ∀ (i : Nat) (c : Column) (f : String), (q.pairs d)[i]? = some (c, f) →
    c.Permits view ((Record.rows records).map Record.fields) i f

/-- Why a new record is refused: each reason stands after all that is checked before it. -/
inductive Refused (q : InsertRow) (view : Snapshot) (role : String) : QueryError → Prop where
  | unloadable {fault : QueryError} (h : view.load q.table = .error fault) : Refused q view role fault
  | forbidden {d : Definition} (h : view.load q.table = .ok d)
      (hrole : d.permissions.allows role .write = false) :
      Refused q view role (.permissionDenied role .write q.table)
  | arity {d : Definition} (h : q.Opened view role d)
      (hlen : (Record.fields q.record).length ≠ d.columns.length) :
      Refused q view role (.arity d.columns.length (Record.fields q.record).length)
  | illTyped {d : Definition} {i : Nat} {c : Column} {f : String} (h : q.Opened view role d)
      (hlen : (Record.fields q.record).length = d.columns.length) (hpair : (q.pairs d)[i]? = some (c, f))
      (hnull : isNullField f = false) (htype : c.type.accepts f = false)
      (hbefore : ∀ j c' f', j < i → (q.pairs d)[j]? = some (c', f') → isNullField f' = false →
        c'.type.accepts f' = true) :
      Refused q view role (.typeMismatch c.name c.type f)
  | unreadable {d : Definition} {fault : QueryError} (h : q.Opened view role d) (hfitting : q.Fitting d)
      (hrecords : view.records q.table = .error fault) : Refused q view role fault
  | violating {d : Definition} {records : List String} {i : Nat} {c : Column} {f : String}
      {fault : QueryError} (h : q.Opened view role d) (hfitting : q.Fitting d)
      (hrecords : view.records q.table = .ok records) (hpair : (q.pairs d)[i]? = some (c, f))
      (hrefuses : c.Refuses view ((Record.rows records).map Record.fields) i f fault)
      (hbefore : ∀ (j : Nat) (c' : Column) (f' : String), j < i → (q.pairs d)[j]? = some (c', f') →
        c'.Permits view ((Record.rows records).map Record.fields) j f') :
      Refused q view role fault

variable {q : InsertRow} {view : Snapshot} {role : String} {d : Definition} {fault : QueryError}

theorem Opened.open_eq_ok (h : q.Opened view role d) : view.open q.table role .write = .ok d :=
  Snapshot.open_eq_ok.mpr ⟨h.loaded, h.allowed⟩

theorem fitting_iff : q.Fitting d ↔ d.checkRecord q.record = .ok (Record.fields q.record) := by
  rw [Definition.checkRecord_eq_ok]
  constructor
  · intro h
    exact ⟨rfl, h.arity, fun c f hmem => ColumnType.conforms_iff.mpr (h.typed c f hmem)⟩
  · intro ⟨_, harity, htypes⟩
    exact ⟨harity, fun c f hmem => ColumnType.conforms_iff.mp (htypes c f hmem)⟩

end InsertRow

namespace Command
variable {q : InsertRow} {view : Snapshot} {caller : Caller} {plan : Plan} {fault : QueryError}

/-- An insertion has a plan exactly if its record is accepted. -/
theorem planned_insert_iff_accepted :
    (insert q).planned view caller = .ok plan ↔
      (∃ d records, q.Accepted view caller.role d records) ∧
        plan = ⟨[.append q.table q.record], .inserted q.table⟩ := by
  rw [planned_insert]
  constructor
  · intro ⟨d, fields, hopen, hrecord, hnew, hplan⟩
    obtain ⟨hloaded, hallowed⟩ := Snapshot.open_eq_ok.mp hopen
    obtain ⟨rfl, -⟩ := Definition.checkRecord_eq_ok.mp hrecord
    obtain ⟨records, hfound, hcheck⟩ := Definition.checkNew_eq_ok.mp hnew
    rw [Snapshot.load_name hloaded] at hfound
    exact ⟨⟨d, records, ⟨hloaded, hallowed⟩, InsertRow.fitting_iff.mpr hrecord, hfound,
      fun i c f hpair => Column.checkField_eq_ok.mp (Definition.checkAgainst_eq_ok.mp hcheck i c f hpair)⟩, hplan⟩
  · intro ⟨⟨d, records, h⟩, hplan⟩
    refine ⟨d, _, h.opened.open_eq_ok, InsertRow.fitting_iff.mp h.fitting, ?_, hplan⟩
    refine Definition.checkNew_eq_ok.mpr ⟨records, ?_, Definition.checkAgainst_eq_ok.mpr fun i c f hpair =>
      Column.checkField_eq_ok.mpr (h.permitted i c f hpair)⟩
    rw [Snapshot.load_name h.opened.loaded]
    exact h.found

theorem planned_insert_error_iff :
    (insert q).planned view caller = .error fault ↔
      view.open q.table caller.role .write = .error fault ∨ ∃ d,
        view.open q.table caller.role .write = .ok d ∧
          (d.checkRecord q.record = .error fault ∨ ∃ fields, d.checkRecord q.record = .ok fields ∧
            d.checkNew view fields = .error fault) := by
  simp only [planned, task, InsertRow.task]
  cases view.open q.table caller.role .write with
  | error e => simp [Except.map]
  | ok d =>
    simp only [Except.map, InsertRow.plan]
    cases hrecord : d.checkRecord q.record with
    | error e => simp [hrecord]
    | ok fields => cases hnew : d.checkNew view fields <;> simp [hrecord, hnew]

theorem planned_insert_iff_refused :
    (insert q).planned view caller = .error fault ↔ q.Refused view caller.role fault := by
  rw [planned_insert_error_iff]
  constructor
  · intro h
    -- The table, the record by itself, and the record among those there are.
    obtain hopen | ⟨d, hopen, hrecord | ⟨fields, hrecord, hnew⟩⟩ := h
    · obtain hload | ⟨d, hload, hrole, rfl⟩ := Snapshot.open_eq_error.mp hopen
      · exact .unloadable hload
      · exact .forbidden hload hrole
    · obtain ⟨hloaded, hallowed⟩ := Snapshot.open_eq_ok.mp hopen
      obtain ⟨hlen, rfl⟩ | ⟨hlen, i, ⟨c, f⟩, hpair, hcheck, hbefore⟩ :=
        Definition.checkRecord_eq_error.mp hrecord
      · exact .arity ⟨hloaded, hallowed⟩ hlen
      · obtain ⟨hnull, htype, rfl⟩ := Definition.checkType_eq_error.mp hcheck
        exact .illTyped ⟨hloaded, hallowed⟩ hlen hpair hnull htype
          fun j c' f' hj hpair' => Definition.checkType_eq_ok.mp (hbefore j (c', f') hj hpair')
    · obtain ⟨hloaded, hallowed⟩ := Snapshot.open_eq_ok.mp hopen
      obtain ⟨rfl, -⟩ := Definition.checkRecord_eq_ok.mp hrecord
      have hfitting := InsertRow.fitting_iff.mpr hrecord
      rw [Definition.checkNew_eq_error, Snapshot.load_name hloaded] at hnew
      obtain hfound | ⟨records, hfound, i, ⟨c, f⟩, hpair, hcheck, hbefore⟩ := hnew
      · exact .unreadable ⟨hloaded, hallowed⟩ hfitting hfound
      · exact .violating ⟨hloaded, hallowed⟩ hfitting hfound hpair (Column.checkField_eq_error.mp hcheck)
          fun j c' f' hj hpair' => Column.checkField_eq_ok.mp (hbefore j (c', f') hj hpair')
  · intro h
    cases h with
    | unloadable h => exact .inl (Snapshot.open_eq_error.mpr (.inl h))
    | forbidden h hrole => exact .inl (Snapshot.open_eq_error.mpr (.inr ⟨_, h, hrole, rfl⟩))
    | arity h hlen =>
      exact .inr ⟨_, h.open_eq_ok, .inl (Definition.checkRecord_eq_error.mpr (.inl ⟨hlen, rfl⟩))⟩
    | illTyped h hlen hpair hnull htype hbefore =>
      refine .inr ⟨_, h.open_eq_ok, .inl (Definition.checkRecord_eq_error.mpr (.inr ⟨hlen, _, _, hpair, ?_⟩))⟩
      exact ⟨Definition.checkType_eq_error.mpr ⟨hnull, htype, rfl⟩,
        fun j pair hj hpair' => Definition.checkType_eq_ok.mpr (hbefore j pair.1 pair.2 hj hpair')⟩
    | unreadable h hfitting hrecords =>
      refine .inr ⟨_, h.open_eq_ok, .inr ⟨_, InsertRow.fitting_iff.mp hfitting, ?_⟩⟩
      rw [Definition.checkNew_eq_error, Snapshot.load_name h.loaded]
      exact .inl hrecords
    | violating h hfitting hrecords hpair hrefuses hbefore =>
      refine .inr ⟨_, h.open_eq_ok, .inr ⟨_, InsertRow.fitting_iff.mp hfitting, ?_⟩⟩
      rw [Definition.checkNew_eq_error, Snapshot.load_name h.loaded]
      exact .inr ⟨_, hrecords, _, _, hpair, Column.checkField_eq_error.mpr hrefuses,
        fun j pair hj hpair' => Column.checkField_eq_ok.mpr (hbefore j pair.1 pair.2 hj hpair')⟩

end Command

/-! ### Running -/

theorem Memory.edit_append {m : Memory} {database table : String} {records : List String}
    (h : m.records.get? (database, table) = some records) (record : String) :
    (Storage.edit m database (.append table record)).1 = .ok () := by
  show (m.edit database (.append table record)).1 = .ok ()
  simp only [edit, h]

namespace Engine
variable {e : Engine Memory} {caller : Caller} {q : InsertRow}

/-- What an insertion makes of a store: the record is put behind those of its table as it is written, and all
else stays. -/
structure Appended (e after : Engine Memory) (database : String) (q : InsertRow) (records : List String) :
    Prop where
  added : after.store.records.get? (database, q.table) = some (records ++ [q.record])
  others : ∀ key, key ≠ (database, q.table) → after.store.records.get? key = e.store.records.get? key
  schemas : ∀ key, after.store.schemas.get? key = e.store.schemas.get? key

theorem run_accepted {d : Definition} {records : List String}
    (h : q.Accepted (Storage.snapshot e.store caller.database) caller.role d records) :
    (e.run caller (.insert q)).1 = .ok (.inserted q.table) ∧
      e.Appended (e.run caller (.insert q)).2 caller.database q records := by
  have hfound := (Memory.snapshot_records ..).mp h.found
  obtain ⟨hanswer, hstore⟩ := run_of_planned
    (Command.planned_insert_iff_accepted.mpr ⟨⟨d, records, h⟩, rfl⟩)
  rw [Storage.commit_single] at hanswer hstore
  constructor
  · rw [hanswer, Memory.edit_append hfound]
    rfl
  · refine ⟨?_, fun key hkey => ?_, run_schemas (show "INSERT" ≠ "CREATE" by decide)⟩
    · rw [hstore, Memory.records_edit, Edit.table, if_pos rfl, hfound]
      rfl
    · rw [hstore, Memory.records_edit, Edit.table, if_neg hkey]

/-- How an insertion into a store in memory goes. -/
structure InsertionDecided (e : Engine Memory) (caller : Caller) (q : InsertRow) : Prop where
  succeeds : (∃ answer, (e.run caller (.insert q)).1 = .ok answer) ↔
    ∃ d records, q.Accepted (Storage.snapshot e.store caller.database) caller.role d records
  appends : ∀ d records, q.Accepted (Storage.snapshot e.store caller.database) caller.role d records →
    (e.run caller (.insert q)).1 = .ok (.inserted q.table) ∧
      e.Appended (e.run caller (.insert q)).2 caller.database q records
  fails : ∀ fault, (e.run caller (.insert q)).1 = .error fault ↔
    q.Refused (Storage.snapshot e.store caller.database) caller.role fault
  unchanged : ∀ fault, (e.run caller (.insert q)).1 = .error fault → (e.run caller (.insert q)).2.store = e.store

/-- **An insertion is accepted exactly when it should be, and otherwise reports the first check that fails.**
In any store in memory: it succeeds if and only if the table is loaded, the role may write it, the record has
a field for each column, of its type unless it is null, the records can be read, and each column permits its
field; the record is then added as it is written. It fails with a fault if and only if that is the fault of
the first of these that is not so, of the first column where it is one of the columns, and then nothing is
changed. -/
theorem insertion_decided (e : Engine Memory) (caller : Caller) (q : InsertRow) :
    e.InsertionDecided caller q := by
  -- What has a plan is carried out: records that were read can be added to.
  cases hplanned : (Command.insert q).planned (Storage.snapshot e.store caller.database) caller with
  | error refusal =>
    obtain ⟨hanswer, hstore⟩ := run_of_refused hplanned
    have hnone : ¬ ∃ d records,
        q.Accepted (Storage.snapshot e.store caller.database) caller.role d records := by
      intro haccepted
      cases hplanned.symm.trans (Command.planned_insert_iff_accepted.mpr ⟨haccepted, rfl⟩)
    refine ⟨iff_of_false ?_ hnone, fun d records h => absurd ⟨d, records, h⟩ hnone, fun fault => ?_,
      fun _ _ => hstore⟩
    · intro ⟨answer, h⟩
      cases hanswer.symm.trans h
    · constructor
      · intro h
        cases hanswer.symm.trans h
        exact Command.planned_insert_iff_refused.mp hplanned
      · intro h
        cases hplanned.symm.trans (Command.planned_insert_iff_refused.mpr h)
        exact hanswer
  | ok plan =>
    obtain ⟨⟨d, records, haccepted⟩, -⟩ := Command.planned_insert_iff_accepted.mp hplanned
    have hanswer := (run_accepted haccepted).1
    refine ⟨iff_of_true ⟨_, hanswer⟩ ⟨d, records, haccepted⟩, fun d records h => run_accepted h,
      fun fault => iff_of_false ?_ ?_, fun fault h => ?_⟩
    · intro h
      cases hanswer.symm.trans h
    · intro h
      cases hplanned.symm.trans (Command.planned_insert_iff_refused.mpr h)
    · cases hanswer.symm.trans h

/-- Goods, and the orders for them. -/
def orders : Memory where
  schemas := ⟨[(("kantor", "barang"), "kode:STRING\nuser=read\n"),
    (("kantor", "pesenan"), "id:INT:PK|barang:STRING:FK(barang.KODE)\nuser=write\n")]⟩
  records := ⟨[(("kantor", "barang"), ["kopi", "teh"]), (("kantor", "pesenan"), ["1|kopi", "", "2|NULL"])]⟩

theorem insertion_decided_orders :
    let caller : Caller := ⟨"asep", "user", "kantor"⟩
    let view := Storage.snapshot orders "kantor"
    ((ofStore orders).run caller (.insert ⟨"pesenan", "3| kopi "⟩)).1 = .ok (.inserted "pesenan") ∧
      (∃ d records, InsertRow.Accepted ⟨"pesenan", "3| kopi "⟩ view "user" d records) ∧
      InsertRow.Refused ⟨"pesenan", " 2|gula"⟩ view "user" (.violation (.duplicate .primary "id" "2")) ∧
      InsertRow.Refused ⟨"pesenan", "3|gula"⟩ view "user"
        (.violation (.foreignKey "barang" ⟨"barang", "KODE"⟩ (.valueMissing "gula"))) := by
  intro caller view
  have hinserted : ((ofStore orders).run caller (.insert ⟨"pesenan", "3| kopi "⟩)).1 =
      .ok (.inserted "pesenan") := by decide +kernel
  refine ⟨hinserted, (insertion_decided (ofStore orders) caller _).succeeds.mp ⟨_, hinserted⟩, ?_, ?_⟩
  · exact ((insertion_decided (ofStore orders) caller _).fails _).mp (by decide +kernel)
  · exact ((insertion_decided (ofStore orders) caller _).fails _).mp (by decide +kernel)

end Engine

end Leuit
