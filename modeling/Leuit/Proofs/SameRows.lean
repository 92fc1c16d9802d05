import Leuit.Proofs.Runs
import Leuit.Proofs.StoredRecords

/-! Selections, updates and deletions mean the same rows by the same conditions. A selection looks a
field up in the header of its relation, an update or a deletion in the definition of the table; where the
names of the columns differ from each other the two agree (`Relation.satisfies_headerOf`). All of them
read the same rows first and fail there with the same error (`Command.planned_select_refused`,
`Command.planned_delete_refused`). -/
namespace Leuit
open Outcome

/-! ### Looking up fields -/

namespace Relation

/-- Where at most one element has a property, the last one is the first one. -/
theorem lastIdx?_eq_findIdx? {α β : Type} [DecidableEq β] {f : α → β} {xs : List α}
    (h : (xs.map f).Nodup) (b : β) : lastIdx? (f · == b) xs = xs.findIdx? (f · == b) := by
  induction xs with
  | nil => rfl
  | cons x xs ih =>
    obtain ⟨hx, hxs⟩ := List.nodup_cons.mp h
    rw [lastIdx?, ih hxs, List.findIdx?_cons]
    by_cases hb : f x = b
    · have hnone : xs.findIdx? (f · == b) = none := by
        rw [List.findIdx?_eq_none_iff]
        intro y hy
        rw [beq_eq_false_iff_ne]
        rintro rfl
        exact hx (hb ▸ List.mem_map_of_mem hy)
      simp [hnone, hb]
    · cases xs.findIdx? (f · == b) <;> simp [hb]

variable {d : Definition} {field : String}

/-- The header of a table is searched as its definition is. -/
theorem last?_headerOf (hpoint : ∀ c ∈ d.columns, '.' ∉ c.name.toList)
    (hdistinct : (d.columns.map (·.name)).Nodup) : last? (headerOf d) field = d.field? field := by
  have hbare : lastIdx? (·.name == field) (headerOf d) = d.column? field := by
    rw [lastIdx?_eq_findIdx? (f := HeaderColumn.name) (by simpa [headerOf, Function.comp_def] using hdistinct)]
    simp [headerOf, Definition.column?, List.findIdx?_map, Function.comp_def]
  rw [last?, hbare]
  unfold Definition.field?
  cases hcut : Text.cut? '.' field with
  | none =>
    have hqualified : (headerOf d).findIdx? (·.isQualifiedBy field) = none := by
      simp [HeaderColumn.isQualifiedBy, hcut]
    rw [hqualified]
    cases d.column? field <;> rfl
  | some parts =>
    obtain ⟨table, name⟩ := parts
    -- A field with a point in it is no bare name.
    have hnone : d.column? field = none := by
      rw [Definition.column?, List.findIdx?_eq_none_iff]
      intro c hc
      rw [beq_eq_false_iff_ne]
      rintro rfl
      rw [Text.cut?_of_not_mem (hpoint c hc)] at hcut
      cases hcut
    rw [hnone]
    by_cases ht : table = d.name
    · simp [headerOf, HeaderColumn.isQualifiedBy, hcut, ht, Definition.column?, List.findIdx?_map,
        Function.comp_def]
    · simp [headerOf, HeaderColumn.isQualifiedBy, hcut, ht, Ne.symm ht, List.findIdx?_map,
        Function.comp_def]

/-- A condition holds for a row of the relation as it does for the row of the table. -/
theorem satisfies_headerOf (hpoint : ∀ c ∈ d.columns, '.' ∉ c.name.toList)
    (hdistinct : (d.columns.map (·.name)).Nodup) {row : Row} (hlen : row.length = d.columns.length)
    (c : Condition) : satisfies (headerOf d) row c = d.satisfies row c := by
  unfold satisfies Definition.satisfies
  rw [last?_headerOf hpoint hdistinct]
  cases d.field? c.field with
  | none => rfl
  | some i =>
    by_cases hi : i < d.columns.length
    · have hrow : row[i]? = some row[i] := List.getElem?_eq_getElem (hlen ▸ hi)
      simp [headerOf, hi, hrow, Row.cell]
    · simp [headerOf, hi]

end Relation

/-! ### Reading a table -/

/-- A stored record as a row of values. -/
def Definition.rowOf (d : Definition) (record : String) : Row := d.values (Record.fields record)

/-- Each row has a field for each column. -/
def Definition.Regular (d : Definition) (records : List String) : Prop :=
  ∀ r ∈ Record.rows records, (Record.fields r).length = d.columns.length

/-- The fields of all rows of a table; every command that reads the table fails where this does. -/
def Snapshot.readRows (view : Snapshot) (table : String) (d : Definition) :
    Except QueryError (List (List String)) :=
  match view.records table with
  | .error e => .error e
  | .ok records => (Record.rows records).mapM d.fieldsOf

section
variable {view : Snapshot} {caller : Caller} {d : Definition} {fault : QueryError}

theorem Snapshot.readRows_eq_ok {table : String} {read : List (List String)}
    (h : view.readRows table d = .ok read) :
    ∃ records, view.records table = .ok records ∧ d.Regular records := by
  unfold readRows at h
  split at h
  · cases h
  · next records hr => exact ⟨records, hr, (Definition.mapM_fieldsOf_eq_ok.mp h).1⟩

theorem Relation.ofTable_of_regular {records : List String} (h : d.Regular records) :
    ofTable d records = .ok ⟨headerOf d, (Record.rows records).map d.rowOf⟩ := by
  rw [ofTable, mapM_map_each, Definition.mapM_fieldsOf_eq_ok.mpr ⟨h, rfl⟩]
  simp [Except.map, Definition.rowOf, Function.comp_def]

theorem Command.planned_select_refused {q : SelectRows}
    (hopen : view.open q.table caller.role .read = .ok d)
    (h : view.readRows q.table d = .error fault) : (select q).planned view caller = .error fault := by
  simp only [planned, task, SelectRows.task, hopen, SelectRows.plan]
  unfold Snapshot.readRows at h
  cases hr : view.records q.table with
  | error e =>
    simp only [hr] at h ⊢
    cases h
    rfl
  | ok records =>
    simp only [hr] at h ⊢
    have htable : Relation.ofTable d records = .error fault := by
      rw [Relation.ofTable, mapM_map_each, h]
      rfl
    simp only [htable]

theorem Command.planned_delete_refused {q : DeleteRows}
    (hopen : view.open q.table caller.role .write = .ok d)
    (h : view.readRows q.table d = .error fault) : (delete q).planned view caller = .error fault := by
  simp only [planned, task, DeleteRows.task, hopen, Except.map, DeleteRows.plan]
  unfold Snapshot.readRows at h
  cases hr : view.records q.table with
  | error e =>
    simp only [hr] at h ⊢
    cases h
    rfl
  | ok records =>
    simp only [hr] at h ⊢
    have hmarks : (Record.rows records).mapM (q.deletes d) = .error fault := by
      unfold DeleteRows.deletes
      rw [mapM_map_each, h]
      rfl
    simp only [hmarks]

end

/-! ### Plain selections -/

namespace SelectRows

/-- The selection of fields from the rows of one table for which the conditions hold, and no more. -/
def matching (table : String) (fields : List String) (conditions : List Condition) : SelectRows :=
  { ofFields table fields with conditions }

variable {table : String} {conditions : List Condition}

theorem result_matching_all (r : Relation) :
    (matching table ["*"] conditions).result r =
      .ok ⟨r.header.map HeaderColumn.qualified, (r.filter conditions).rows⟩ := rfl

/-- A count is the number of rows, zero included, and whatever column it is asked of. -/
theorem result_matching_count {field target text : String}
    (h : Selection.ofText field = .aggregate .count target text) (r : Relation) :
    (matching table [field] conditions).result r =
      .ok ⟨[text], [[.int (r.filter conditions).rows.length]]⟩ := by
  have hfield : (field == "*") = false := by
    rw [beq_eq_false_iff_ne]
    rintro rfl
    have hstar : Selection.ofText "*" = .column "*" := by decide
    rw [hstar] at h
    cases h
  have hselections : (matching table [field] conditions).selections = [.aggregate .count target text] := by
    simp [selections, selectsAll, matching, ofFields, hfield, h]
  have hcompute : ∀ entries : List (Option Value),
      Aggregate.compute .count entries = .int entries.length := by
    intro entries
    cases entries <;> simp [Aggregate.compute]
  unfold result
  rw [hselections]
  simp only [List.any_cons, Selection.isAggregate, Bool.true_or, if_true, List.map_cons, List.map_nil,
    Selection.text, Relation.aggregate, hcompute, List.length_map]
  rfl

end SelectRows

/-- The rows of a table that a selection keeps are those an update or a deletion picks. -/
theorem Relation.filter_rows {d : Definition} {records : List String}
    (hpoint : ∀ c ∈ d.columns, '.' ∉ c.name.toList) (hdistinct : (d.columns.map (·.name)).Nodup)
    (h : d.Regular records) (conditions : List Condition) :
    (filter ⟨headerOf d, (Record.rows records).map d.rowOf⟩ conditions).rows =
      ((Record.rows records).filter (d.picks conditions)).map d.rowOf := by
  show ((Record.rows records).map d.rowOf).filter _ = _
  rw [List.filter_map]
  congr 1
  refine List.filter_congr fun r hr => ?_
  have hlen : (d.rowOf r).length = d.columns.length := by
    simp [Definition.rowOf, Definition.values, h r hr]
  show Condition.holdsAll _ conditions = Condition.holdsAll _ conditions
  congr 1
  funext c
  exact satisfies_headerOf hpoint hdistinct hlen c

/-- An update changes the rows it picks. -/
theorem UpdateRows.countP_changed {q : UpdateRows} {d : Definition} {assigned : List (Nat × String)}
    {rows : List String} {updated : List UpdatedRecord}
    (h : rows.mapM (q.update d assigned) = .ok updated) :
    updated.countP (·.changed) = rows.countP (d.picks q.conditions) := by
  have hrows := mapM_eq_ok.mp h
  clear h
  induction hrows with
  | nil => rfl
  | @cons r u rows updated hu _ ih =>
    obtain ⟨fields, hf, hchanged, -⟩ := update_eq_ok.mp hu
    have hpicks : u.changed = d.picks q.conditions r := by
      rw [hchanged, (Definition.fieldsOf_eq_ok.mp hf).1, Definition.picks]
    simp only [List.countP_cons, hpicks, ih]

/-- Whether a record is picked shows in its values. -/
theorem Definition.rowOf_mem_picked {d : Definition} {conditions : List Condition} {rows : List String}
    {r : String} (hr : r ∈ rows) :
    d.rowOf r ∈ (rows.filter (d.picks conditions)).map d.rowOf ↔ d.picks conditions r = true := by
  constructor
  · intro h
    obtain ⟨s, hs, heq⟩ := List.mem_map.mp h
    have hpicked := (List.mem_filter.mp hs).2
    show Condition.holdsAll (d.satisfies (d.rowOf r)) conditions = true
    rw [← heq]
    exact hpicked
  · exact fun h => List.mem_map_of_mem (List.mem_filter.mpr ⟨hr, h⟩)

/-! ### Running -/

namespace Engine

section
variable {σ : Type} [Storage σ] {e : Engine σ} {caller : Caller} {d : Definition} {records : List String}

theorem run_selected {q : SelectRows} {result : ResultSet} (hjoins : q.joins = [])
    (hopen : (Storage.snapshot e.store caller.database).open q.table caller.role .read = .ok d)
    (hrecords : (Storage.snapshot e.store caller.database).records q.table = .ok records)
    (hregular : d.Regular records)
    (hresult : q.result ⟨Relation.headerOf d, (Record.rows records).map d.rowOf⟩ = .ok result) :
    (e.run caller (.select q)).1 = .ok (.rows result) := by
  have hplan := Command.planned_select.mpr ⟨d, records, _, _, result, hopen, hrecords,
    Relation.ofTable_of_regular hregular, by rw [hjoins, SelectRows.joinAll], hresult, rfl⟩
  exact (run_of_planned hplan).1

end

/-- The records a deletion leaves. -/
theorem run_delete {e : Engine Memory} {caller : Caller} {q : DeleteRows} {d : Definition}
    {records : List String}
    (hopen : (Storage.snapshot e.store caller.database).open q.table caller.role .write = .ok d)
    (hrecords : e.store.records.get? (caller.database, q.table) = some records)
    (hregular : d.Regular records) :
    (e.run caller (.delete q)).1 =
        .ok (.deleted ((Record.rows records).countP (d.picks q.conditions))) ∧
      (e.run caller (.delete q)).2.store.schemas.get? (caller.database, q.table) =
        e.store.schemas.get? (caller.database, q.table) ∧
      ∃ now, (e.run caller (.delete q)).2.store.records.get? (caller.database, q.table) = some now ∧
        Record.rows now = (Record.rows records).filter (!d.picks q.conditions ·) := by
  have hplan := Command.planned_delete.mpr
    ⟨d, records, hopen, (Memory.snapshot_records ..).mpr hrecords, hregular, rfl⟩
  obtain ⟨hanswer, hstore⟩ := run_of_planned hplan
  rw [hanswer, hstore]
  by_cases hcount : (Record.rows records).countP (d.picks q.conditions) = 0
  · rw [if_pos hcount]
    refine ⟨rfl, rfl, records, hrecords, ?_⟩
    rw [eq_comm, List.filter_eq_self]
    intro r hr
    simpa using List.countP_eq_zero.mp hcount r hr
  · rw [if_neg hcount, Storage.commit_single]
    refine ⟨rfl, ?_, (Record.rows records).filter (!d.picks q.conditions ·), ?_, ?_⟩
    · simp [Memory.schemas_edit, Edit.schemaAfter]
    · rw [Memory.records_edit, Edit.table, if_pos rfl, Edit.recordsAfter]
    · simp only [Record.rows, List.filter_filter]
      refine List.filter_congr fun r _ => ?_
      cases Text.allBlank r <;> cases d.picks q.conditions r <;> rfl

/-- What the conditions pick from the records of a table, asked for in every way: `rows` is what the
selection of all columns returns. -/
structure SameRows (e : Engine Memory) (caller : Caller) (d : Definition) (conditions : List Condition)
    (records : List String) (rows : List Row) : Prop where
  selected : (e.run caller (.select (.matching d.name ["*"] conditions))).1 =
    .ok (.rows ⟨(Relation.headerOf d).map HeaderColumn.qualified, rows⟩)
  picked : rows = ((Record.rows records).filter (d.rowOf · ∈ rows)).map d.rowOf
  deleted : (e.run caller (.delete ⟨d.name, conditions⟩)).1 = .ok (.deleted rows.length)
  /-- The deletion keeps the other rows as they were written. -/
  kept : ∃ now, (e.run caller (.delete ⟨d.name, conditions⟩)).2.store.records.get?
      (caller.database, d.name) = some now ∧
    Record.rows now = (Record.rows records).filter (d.rowOf · ∉ rows)
  counted : ∀ field target text, Selection.ofText field = .aggregate .count target text →
    (e.run caller (.select (.matching d.name [field] conditions))).1 =
      .ok (.rows ⟨[text], [[.int rows.length]]⟩)
  updated : ∀ assignments answer,
    (e.run caller (.update ⟨d.name, assignments, conditions⟩)).1 = .ok answer →
      answer = .updated rows.length
  /-- After the deletion the same selection finds nothing. -/
  gone : ((e.run caller (.delete ⟨d.name, conditions⟩)).2.run caller
      (.select (.matching d.name ["*"] conditions))).1 =
    .ok (.rows ⟨(Relation.headerOf d).map HeaderColumn.qualified, []⟩)

/-- **Selections, updates and deletions mean the same rows by the same conditions.** For a caller that may
read and write a table whose columns have distinct names, whatever records it holds and whatever the
conditions are: the selection and the deletion fail with the same error, or they are about the same rows,
and so are counts and updates. -/
theorem conditions_pick_same_rows {e : Engine Memory} {caller : Caller} {table document : String}
    {d : Definition} (hschema : e.store.schemas.get? (caller.database, table) = some document)
    (hdecode : Definition.decode table document = .ok d)
    (hdistinct : (d.columns.map (·.name)).Nodup)
    (hread : d.permissions.allows caller.role .read = true)
    (hwrite : d.permissions.allows caller.role .write = true) (conditions : List Condition) :
    (∃ fault, (e.run caller (.select (.matching table ["*"] conditions))).1 = .error fault ∧
      (e.run caller (.delete ⟨table, conditions⟩)).1 = .error fault) ∨
    ∃ records rows, e.store.records.get? (caller.database, table) = some records ∧
      e.SameRows caller d conditions records rows := by
  obtain rfl := Definition.decode_name hdecode
  have hpoint : ∀ c ∈ d.columns, '.' ∉ c.name.toList := fun c hc hmem =>
    ((Column.nameAllowed_iff.mp (Definition.decode_wellFormed hdecode hc).name).2 _ hmem).2.1 rfl
  have hload : (Storage.snapshot e.store caller.database).load d.name = .ok d :=
    Snapshot.load_eq_ok.mpr ⟨document, by rw [Memory.snapshot_schema, hschema], hdecode⟩
  have hopenRead := Snapshot.open_eq_ok.mpr ⟨hload, hread⟩
  have hopenWrite := Snapshot.open_eq_ok.mpr ⟨hload, hwrite⟩
  cases hrows : (Storage.snapshot e.store caller.database).readRows d.name d with
  | error fault =>
    exact .inl ⟨fault, (run_of_refused (Command.planned_select_refused hopenRead hrows)).1,
      (run_of_refused (Command.planned_delete_refused hopenWrite hrows)).1⟩
  | ok read =>
    obtain ⟨records, hview, hregular⟩ := Snapshot.readRows_eq_ok hrows
    have hrecords := (Memory.snapshot_records ..).mp hview
    have hfilter := Relation.filter_rows hpoint hdistinct hregular conditions
    obtain ⟨hdeleted, hschemas, now, hnow, hkept⟩ :=
      run_delete (q := ⟨d.name, conditions⟩) hopenWrite hrecords hregular
    have hmem : ∀ r ∈ Record.rows records,
        (d.rowOf r ∈ ((Record.rows records).filter (d.picks conditions)).map d.rowOf ↔
          d.picks conditions r = true) := fun r hr => Definition.rowOf_mem_picked hr
    refine .inr ⟨records, ((Record.rows records).filter (d.picks conditions)).map d.rowOf, hrecords, ?_⟩
    refine ⟨?selected, ?picked, ?deleted, ⟨now, hnow, ?kept⟩, ?counted, ?updated, ?gone⟩
    case selected =>
      rw [run_selected rfl hopenRead hview hregular (SelectRows.result_matching_all _), hfilter]
    case picked =>
      congr 1
      refine List.filter_congr fun r hr => ?_
      rw [Bool.eq_iff_iff, decide_eq_true_iff]
      exact (hmem r hr).symm
    case deleted => rw [hdeleted, List.length_map, List.countP_eq_length_filter]
    case kept =>
      rw [hkept]
      refine List.filter_congr fun r hr => ?_
      rw [Bool.eq_iff_iff, decide_eq_true_iff, hmem r hr]
      simp
    case counted =>
      intro field target text hfield
      rw [run_selected rfl hopenRead hview hregular (SelectRows.result_matching_count hfield _), hfilter]
    case updated =>
      intro assignments answer hanswer
      obtain ⟨plan, hplan, -, rfl⟩ := run_eq_ok hanswer
      obtain ⟨d', assigned, found, changed, hopen, -, hfound, hupdate, -, rfl⟩ :=
        Command.planned_update.mp hplan
      cases hopenWrite.symm.trans hopen
      cases hview.symm.trans hfound
      rw [UpdateRows.countP_changed hupdate, List.length_map, List.countP_eq_length_filter]
    case gone =>
      have hload' : (Storage.snapshot (e.run caller (.delete ⟨d.name, conditions⟩)).2.store
          caller.database).load d.name = .ok d :=
        Snapshot.load_eq_ok.mpr ⟨document, by rw [Memory.snapshot_schema, hschemas, hschema], hdecode⟩
      have hregular' : d.Regular now := by
        intro r hr
        rw [hkept] at hr
        exact hregular r (List.mem_of_mem_filter hr)
      rw [run_selected rfl (Snapshot.open_eq_ok.mpr ⟨hload', hread⟩)
        ((Memory.snapshot_records ..).mpr hnow) hregular' (SelectRows.result_matching_all _),
        Relation.filter_rows hpoint hdistinct hregular' conditions, hkept, List.filter_filter]
      simp

/-- A table in which two rows have one number, and a blank line stands between the rows. -/
def stock : Memory where
  schemas := Keyed.empty.insert ("kantor", "barang") "id:INT|nami:STRING\nuser=read,write\n"
  records := Keyed.empty.insert ("kantor", "barang") ["1|kopi", "", "2|gula", " 1|teh"]

def stockDefinition : Definition where
  name := "barang"
  columns := [.plain "id" .int, .plain "nami" .string]
  permissions := Definition.readGrants .nobody "user=read,write"

theorem conditions_pick_same_rows_stock :
    let caller : Caller := ⟨"asep", "user", "kantor"⟩
    let conditions : List Condition := [⟨"barang.id", .eq, "1", none⟩]
    ((ofStore stock).run caller (.delete ⟨"barang", conditions⟩)).1 = .ok (.deleted 2) ∧
      ∃ records rows, stock.records.get? ("kantor", "barang") = some records ∧
        (ofStore stock).SameRows caller stockDefinition conditions records rows := by
  intro caller conditions
  have hdeleted : ((ofStore stock).run caller (.delete ⟨"barang", conditions⟩)).1 = .ok (.deleted 2) := by
    decide +kernel
  refine ⟨hdeleted, ?_⟩
  have hschema : (ofStore stock).store.schemas.get? (caller.database, "barang") =
      some "id:INT|nami:STRING\nuser=read,write\n" := rfl
  have hdecode : Definition.decode "barang" "id:INT|nami:STRING\nuser=read,write\n" =
      .ok stockDefinition := by
    decide +kernel
  rcases conditions_pick_same_rows hschema hdecode (by decide) (by decide +kernel) (by decide +kernel)
    conditions with ⟨fault, -, hfault⟩ | hrows
  · rw [hdeleted] at hfault
    cases hfault
  · exact hrows

end Engine

end Leuit
