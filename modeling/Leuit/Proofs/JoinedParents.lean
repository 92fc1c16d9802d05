import Leuit.Proofs.ForeignKeys
import Leuit.Proofs.JoinOrigins
import Leuit.Proofs.KeyLookups
import Mathlib

/-! Joining a row with what it refers to. A foreign key is checked on trimmed texts, and a join compares
values, or what is shown of them if they are of different kinds; for all types but floats both come to what
is shown (`Value.joins_iff_display`). So the join on a foreign key finds a partner for an inserted row
exactly if a record of the other table shows the same as the row does, and the check alone says so only for
types that do not show the blanks around a field, nor the spelling of a number
(`Engine.inserted_row_joins_iff`). -/
namespace Leuit
open Outcome

/-! ### Values of accepted fields -/

namespace Value
variable {type type' : ColumnType} {field field' : String}

theorem isNull_ofField (type : ColumnType) (field : String) :
    (ofField type field).isNull = isNullField field := by
  cases hnull : isNullField field with
  | true =>
    rw [ofField_of_null hnull]
    rfl
  | false =>
    have hne : ofField type field ≠ null := ofField_ne_null hnull
    cases hv : ofField type field with
    | null => exact absurd hv hne
    | _ => rfl

/-- What a field is read as that may be stored in a column of no floats. A date shows the text that it is
read from. -/
theorem ofField_cases (hfloat : type ≠ .float) (hnull : isNullField field = false)
    (ha : type.accepts field = true) :
    (∃ n, ofField type field = int n) ∨ (∃ b, ofField type field = bool b) ∨
      (∃ d, ofField type field = date d ∧ Date.ofText? d.text = some d) ∨
      ∃ s, ofField type field = text s := by
  cases type with
  | int => exact .inl (ofField_int hnull ha)
  | float => exact absurd rfl hfloat
  | bool =>
    have hfield : Text.trim field = "true" ∨ Text.trim field = "false" := by
      simpa [ColumnType.accepts] using ha
    refine .inr (.inl ?_)
    rcases hfield with hf | hf
    · exact ⟨true, by simp [ofField, hnull, hf]⟩
    · exact ⟨false, by simp [ofField, hnull, hf]⟩
  | date =>
    simp only [ColumnType.accepts, Bool.and_eq_true, Option.isSome_iff_exists] at ha
    obtain ⟨hshape, d, hd⟩ := ha
    refine .inr (.inr (.inl ⟨d, by simp [ofField, hnull, hd], ?_⟩))
    rw [Date.text_of_standard hshape hd, hd]
  | char n => exact .inr (.inr (.inr ⟨field, by simp [ofField, hnull]⟩))
  | enum vs => exact .inr (.inr (.inr ⟨field, by simp [ofField, hnull]⟩))
  | string => exact .inr (.inr (.inr ⟨field, by simp [ofField, hnull]⟩))
  | text => exact .inr (.inr (.inr ⟨field, by simp [ofField, hnull]⟩))

/-- Two columns compare equal where they show the same. -/
theorem joins_iff_display (hfloat : type ≠ .float) (hfloat' : type' ≠ .float)
    (hnull : isNullField field = false) (hnull' : isNullField field' = false)
    (ha : type.accepts field = true) (ha' : type'.accepts field' = true) :
    (ofField type field).joins .eq (ofField type' field') = true ↔
      (ofField type field).display = (ofField type' field').display := by
  have hbool : ∀ b b' : Bool,
      b = b' ↔ (if b = true then "true" else "false") = if b' = true then "true" else "false" := by
    decide
  -- Values of one kind are told apart by what they show; those of two kinds are compared by it.
  rcases ofField_cases hfloat hnull ha with ⟨n, hv⟩ | ⟨b, hv⟩ | ⟨d, hv, hd⟩ | ⟨s, hv⟩ <;>
    rcases ofField_cases hfloat' hnull' ha' with ⟨m, hw⟩ | ⟨b', hw⟩ | ⟨d', hw, hd'⟩ | ⟨s', hw⟩ <;>
    rw [hv, hw] <;>
    simp [joins, sameKind, isNull, compares, order?, Operator.holds, Operator.isEquality, display]
  · exact hbool b b'
  · rw [Date.order_eq_eq]
    refine ⟨congrArg Date.text, fun h => Option.some.inj ?_⟩
    rw [← hd, h, hd']

end Value

/-- Whether the fields of a type are shown without the blanks around them. -/
def ColumnType.showsTrimmed : ColumnType → Bool
  | .bool | .date => true
  | _ => false

namespace Value
variable {type type' : ColumnType} {field field' : String}

theorem display_of_showsTrimmed (htype : type.showsTrimmed = true) (hnull : isNullField field = false)
    (ha : type.accepts field = true) : (ofField type field).display = Text.trim field := by
  cases type with
  | bool =>
    have hfield : Text.trim field = "true" ∨ Text.trim field = "false" := by
      simpa [ColumnType.accepts] using ha
    rcases hfield with hf | hf <;> simp [ofField, hnull, hf, display]
  | date =>
    simp only [ColumnType.accepts, Bool.and_eq_true, Option.isSome_iff_exists] at ha
    obtain ⟨hshape, d, hd⟩ := ha
    simp [ofField, hnull, hd, display, Date.text_of_standard hshape hd]
  | _ => cases htype

/-- Fields of two types that do not show blanks, and fields of numbers, show the same if their trimmed
texts are the same. -/
theorem display_of_trim (htypes : type = .int ∧ type' = .int ∨
      type.showsTrimmed = true ∧ type'.showsTrimmed = true)
    (hnull : isNullField field = false) (hnull' : isNullField field' = false)
    (ha : type.accepts field = true) (ha' : type'.accepts field' = true)
    (htrim : Text.trim field' = Text.trim field) :
    (ofField type' field').display = (ofField type field).display := by
  rcases htypes with ⟨rfl, rfl⟩ | ⟨htype, htype'⟩
  · unfold ColumnType.accepts at ha
    obtain ⟨n, hn⟩ := Option.isSome_iff_exists.mp ha
    simp [ofField, hnull, hnull', htrim, hn]
  · rw [display_of_showsTrimmed htype hnull ha, display_of_showsTrimmed htype' hnull' ha', htrim]

end Value

/-! ### Columns by name -/

/-- A column is found by its qualified name, if there is no point in the name of the table. -/
theorem Relation.first?_qualified {d : Definition} {name : String} {i : Nat}
    (hpoint : '.' ∉ d.name.toList) (h : d.column? name = some i) :
    first? (headerOf d) (d.name ++ "." ++ name) = some i := by
  have hcut : Text.cut? '.' (d.name ++ "." ++ name) = some (d.name, name) :=
    Text.cut?_eq_some.mpr ⟨by simp, hpoint⟩
  have hfound : (headerOf d).findIdx? (·.isQualifiedBy (d.name ++ "." ++ name)) = d.column? name := by
    simp [headerOf, HeaderColumn.isQualifiedBy, hcut, Definition.column?, List.findIdx?_map,
      Function.comp_def]
  rw [first?, hfound, h]
  rfl

namespace Definition
variable {d : Definition} {records : List String} {i : Nat} {c : Column}

/-- A column that is found in any letter case is found by its own name. -/
theorem column?_of_ignoringCase {name : String} (h : d.columnIgnoringCase? name = some i)
    (hc : d.columns[i]? = some c) : d.column? c.name = some i := by
  obtain ⟨hi, hget⟩ := List.getElem?_eq_some_iff.mp hc
  unfold columnIgnoringCase? at h
  cases hexact : d.column? name with
  | some k =>
    rw [hexact] at h
    cases h
    have hname := (List.findIdx?_eq_some_iff_getElem.mp hexact).2.1
    rw [hget, beq_iff_eq] at hname
    rw [hname, hexact]
  | none =>
    rw [hexact] at h
    obtain ⟨_, hsame, hbefore⟩ := List.findIdx?_eq_some_iff_getElem.mp h
    rw [hget] at hsame
    refine List.findIdx?_eq_some_iff_getElem.mpr ⟨hi, by simp [hget], fun j hj hname => hbefore j hj ?_⟩
    rw [beq_iff_eq.mp hname]
    exact hsame

/-! ### Conforming records -/

/-- Every row passes the check that a new record must pass. -/
def Conforming (d : Definition) (records : List String) : Prop :=
  ∀ r ∈ Record.rows records, ∃ fields, d.checkRecord r = .ok fields

theorem accepts_of_checkRecord {record field : String} {fields : List String}
    (h : d.checkRecord record = .ok fields) (hc : d.columns[i]? = some c)
    (hf : (Record.fields record)[i]? = some field) (hnull : isNullField field = false) :
    c.type.accepts field = true := by
  obtain ⟨rfl, -, htypes⟩ := checkRecord_eq_ok.mp h
  simpa [ColumnType.conforms, hnull] using
    htypes c field (List.mem_of_getElem? (List.getElem?_zip_eq_some.mpr ⟨hc, hf⟩))

theorem Conforming.regular (h : d.Conforming records) : d.Regular records := by
  intro r hr
  obtain ⟨fields, hfields⟩ := h r hr
  obtain ⟨rfl, hlen, -⟩ := checkRecord_eq_ok.mp hfields
  exact hlen

theorem Regular.concat {record : String} (h : d.Regular records)
    (hlen : (Record.fields record).length = d.columns.length) : d.Regular (records ++ [record]) := by
  intro r hr
  rw [Record.rows, List.filter_append, List.mem_append] at hr
  rcases hr with hr | hr
  · exact h r hr
  · rw [List.mem_singleton.mp (List.mem_of_mem_filter hr)]
    exact hlen

theorem Regular.length_rowOf (h : d.Regular records) {r : String} (hr : r ∈ Record.rows records) :
    (d.rowOf r).length = d.columns.length := by
  simp [rowOf, values, h r hr]

/-- A row has a field at each column. -/
theorem Regular.field (h : d.Regular records) (hc : d.columns[i]? = some c) {r : String}
    (hr : r ∈ Record.rows records) : ∃ g, (Record.fields r)[i]? = some g := by
  obtain ⟨hi, -⟩ := List.getElem?_eq_some_iff.mp hc
  exact ⟨_, List.getElem?_eq_getElem (h r hr ▸ hi)⟩

end Definition

/-! ### Selections from two tables -/

namespace SelectRows

/-- The selection of all columns from two tables that are joined by a condition. -/
def pairing (table other : String) (on : Condition) : SelectRows :=
  { ofFields table ["*"] with joins := [⟨.inner, other, on⟩] }

theorem result_pairing (table other : String) (on : Condition) (r : Relation) :
    (pairing table other on).result r = .ok ⟨r.header.map HeaderColumn.qualified, r.rows⟩ := by
  have hfilter : r.filter [] = r := by
    show (⟨r.header, r.rows.filter fun _ => true⟩ : Relation) = r
    rw [List.filter_true]
  show Except.ok (⟨r.header.map HeaderColumn.qualified, (r.filter []).rows⟩ : ResultSet) = _
  rw [hfilter]

end SelectRows

theorem Engine.run_paired {σ : Type} [Storage σ] {e : Engine σ} {caller : Caller} {table other : String}
    {d parent : Definition} {records parents : List String} (on : Condition)
    (hopen : (Storage.snapshot e.store caller.database).open table caller.role .read = .ok d)
    (hrecords : (Storage.snapshot e.store caller.database).records table = .ok records)
    (hregular : d.Regular records)
    (hopen' : (Storage.snapshot e.store caller.database).open other caller.role .read = .ok parent)
    (hrecords' : (Storage.snapshot e.store caller.database).records other = .ok parents)
    (hregular' : parent.Regular parents) :
    (e.run caller (.select (.pairing table other on))).1 =
      .ok (.rows ⟨(Relation.headerOf d ++ Relation.headerOf parent).map HeaderColumn.qualified,
        (Relation.join ⟨Relation.headerOf d, (Record.rows records).map d.rowOf⟩ .inner
          ⟨Relation.headerOf parent, (Record.rows parents).map parent.rowOf⟩ on).rows⟩) := by
  let rows : Relation := ⟨Relation.headerOf d, (Record.rows records).map d.rowOf⟩
  let others : Relation := ⟨Relation.headerOf parent, (Record.rows parents).map parent.rowOf⟩
  have hread : SelectRows.readTable (Storage.snapshot e.store caller.database) caller.role other =
      .ok others := by
    unfold SelectRows.readTable
    rw [hopen']
    dsimp only
    rw [hrecords']
    exact Relation.ofTable_of_regular hregular'
  have hjoined : SelectRows.joinAll (Storage.snapshot e.store caller.database) caller.role rows
      [⟨.inner, other, on⟩] = .ok (rows.join .inner others on) := by
    rw [SelectRows.joinAll, hread]
    rfl
  have hplan := Command.planned_select.mpr ⟨d, records, rows, _, _, hopen, hrecords,
    Relation.ofTable_of_regular hregular, hjoined, SelectRows.result_pairing table other on _, rfl⟩
  exact (run_of_planned hplan).1

/-! ### Foreign keys that join -/

/-- A table with a foreign key in one of its columns, the column of another table that the key is to, and the
records of both, which conform to their columns. Neither column is of floats. -/
structure Related (view : Snapshot) (table : String) (d parent : Definition) (records parents : List String)
    (key : ForeignKey) (i j : Nat) (c k : Column) : Prop where
  loaded : view.load table = .ok d
  found : view.records table = .ok records
  conforming : d.Conforming records
  column : d.columns[i]? = some c
  named : d.column? c.name = some i
  foreign : c.foreignKey = some key
  parentLoaded : view.load key.table = .ok parent
  parentFound : view.records key.table = .ok parents
  parentConforming : parent.Conforming parents
  resolved : parent.columnIgnoringCase? key.column = some j
  parentColumn : parent.columns[j]? = some k
  exact : c.type ≠ .float
  parentExact : k.type ≠ .float

/-- A record has a field in a column that is not null and shows a text. -/
def Record.Shows (i : Nat) (c : Column) (shown record : String) : Prop :=
  ∃ f, (Record.fields record)[i]? = some f ∧ isNullField f = false ∧ (Value.ofField c.type f).display = shown

/-- The condition that joins two tables on a foreign key. -/
def Condition.onKey (table : String) (key : ForeignKey) (c k : Column) : Condition :=
  ⟨table ++ "." ++ c.name, .eq, key.table ++ "." ++ k.name, none⟩

namespace Related
variable {view : Snapshot} {table : String} {d parent : Definition} {records parents : List String}
  {key : ForeignKey} {i j : Nat} {c k : Column} {rows others : List Row}

/-- The join on the foreign key compares the column that has it with the one it is to. -/
theorem joinTest (h : Related view table d parent records parents key i j c k)
    (hpoint : '.' ∉ table.toList) :
    JoinTest.of ⟨Relation.headerOf d, rows⟩ ⟨Relation.headerOf parent, others⟩ (.onKey table key c k) =
      ⟨some i, some j, .eq, key.table ++ "." ++ k.name⟩ := by
  have hname : d.name = table := Snapshot.load_name h.loaded
  have hname' : parent.name = key.table := Snapshot.load_name h.parentLoaded
  have hpoint' : '.' ∉ key.table.toList := by
    obtain ⟨document, -, hdecode⟩ := Snapshot.load_eq_ok.mp h.loaded
    exact ((Definition.decode_wellFormed hdecode (List.mem_of_getElem? h.column)).reference key
      h.foreign).noPoint
  refine JoinTest.of_named ?_ ?_
  · rw [← hname] at hpoint ⊢
    exact Relation.first?_qualified hpoint h.named
  · show Relation.first? (Relation.headerOf parent) (key.table ++ "." ++ k.name) = some j
    rw [← hname'] at hpoint' ⊢
    exact Relation.first?_qualified hpoint' (Definition.column?_of_ignoringCase h.resolved h.parentColumn)

/-- Two rows match on the foreign key exactly if they show the same. -/
theorem matchRows_iff (h : Related view table d parent records parents key i j c k)
    (hpoint : '.' ∉ table.toList) {record field r : String} {fields : List String}
    (hrecord : d.checkRecord record = .ok fields) (hf : (Record.fields record)[i]? = some field)
    (hnull : isNullField field = false) (hr : r ∈ Record.rows parents) :
    (JoinTest.of ⟨Relation.headerOf d, rows⟩ ⟨Relation.headerOf parent, others⟩
        (.onKey table key c k)).matchRows (Relation.headerOf d) (d.rowOf record) (parent.rowOf r) = true ↔
      Record.Shows j k (Value.ofField c.type field).display r := by
  have ha := Definition.accepts_of_checkRecord hrecord h.column hf hnull
  obtain ⟨g, hg⟩ := h.parentConforming.regular.field h.parentColumn hr
  obtain ⟨others', hothers⟩ := h.parentConforming r hr
  rw [h.joinTest hpoint]
  simp only [JoinTest.matchRows, Definition.cell_rowOf h.column hf, Definition.cell_rowOf h.parentColumn hg,
    Value.isNull_ofField, hnull, Bool.not_false, Bool.true_and]
  unfold Record.Shows
  cases hnull' : isNullField g with
  | true => simp [hg, hnull']
  | false =>
    have ha' := Definition.accepts_of_checkRecord hothers h.parentColumn hg hnull'
    rw [Bool.not_false, Bool.true_and,
      Value.joins_iff_display h.exact h.parentExact hnull hnull' ha ha']
    constructor
    · exact fun heq => ⟨g, hg, hnull', heq.symm⟩
    · rintro ⟨g', hg', -, heq⟩
      cases hg.symm.trans hg'
      exact heq.symm

/-- What the check of a foreign key finds shows the same, if types without blanks or numbers are compared. -/
theorem shows_of_refers (h : Related view table d parent records parents key i j c k)
    (htypes : c.type = .int ∧ k.type = .int ∨ c.type.showsTrimmed = true ∧ k.type.showsTrimmed = true)
    {record field : String} {fields : List String} (hrecord : d.checkRecord record = .ok fields)
    (hf : (Record.fields record)[i]? = some field) (hnull : isNullField field = false)
    (hrefers : view.Refers key (Text.trim field)) :
    ∃ r ∈ Record.rows parents, Record.Shows j k (Value.ofField c.type field).display r := by
  obtain ⟨parent', j', parents', hload, hj, hfound, r, hmem, hfield⟩ := hrefers
  cases h.parentLoaded.symm.trans hload
  cases h.resolved.symm.trans hj
  cases h.parentFound.symm.trans hfound
  have hr : r ∈ Record.rows parents := Record.mem_rows_of_fieldIs (definite_trim hnull) hmem hfield
  obtain ⟨g, hg, htrim⟩ := fieldIs_eq_true.mp hfield
  obtain ⟨others, hothers⟩ := h.parentConforming r hr
  have hnull' : isNullField g = false := (isNullField_congr htrim).trans hnull
  exact ⟨r, hr, g, hg, hnull', Value.display_of_trim htypes hnull hnull'
    (Definition.accepts_of_checkRecord hrecord h.column hf hnull)
    (Definition.accepts_of_checkRecord hothers h.parentColumn hg hnull') htrim⟩

end Related

/-! ### Insertions -/

namespace Engine
variable {e : Engine Memory} {caller reader : Caller} {q : InsertRow} {answer : Answer} {d parent : Definition}
  {records parents : List String} {key : ForeignKey} {i j : Nat} {c k : Column}

/-- An insertion that succeeds is of a record that passed the check. -/
theorem run_insert_conforms (hanswer : (e.run caller (.insert q)).1 = .ok answer)
    (hload : (Storage.snapshot e.store caller.database).load q.table = .ok d) :
    ∃ fields, d.checkRecord q.record = .ok fields := by
  obtain ⟨plan, hplan, -, -⟩ := run_eq_ok hanswer
  obtain ⟨d', fields, hopen, hrecord, -, -⟩ := Command.planned_insert.mp hplan
  cases hload.symm.trans (Snapshot.open_eq_ok.mp hopen).1
  exact ⟨fields, hrecord⟩

/-- **An inserted row is joined with the records that show what it refers to.** After a row was inserted with
a field that is not null and has a foreign key to another table, the join of the two tables on the key
succeeds for whoever may read both, and puts the row together with exactly those records of the other table
that show in the column of the key what the row shows in its own. There is such a record whenever both
columns are of integers, or both of types that do not show blanks. -/
theorem inserted_row_joins_iff
    (h : Related (Storage.snapshot e.store caller.database) q.table d parent records parents key i j c k)
    (hother : key.table ≠ q.table) (hpoint : '.' ∉ q.table.toList)
    (hanswer : (e.run caller (.insert q)).1 = .ok answer) {field : String}
    (hf : (Record.fields q.record)[i]? = some field) (hnull : isNullField field = false)
    (hreader : reader.database = caller.database)
    (hread : d.permissions.allows reader.role .read = true)
    (hread' : parent.permissions.allows reader.role .read = true) :
    ∃ rows, ((e.run caller (.insert q)).2.run reader
          (.select (.pairing q.table key.table (.onKey q.table key c k)))).1 =
        .ok (.rows ⟨(Relation.headerOf d ++ Relation.headerOf parent).map HeaderColumn.qualified, rows⟩) ∧
      (∀ r ∈ Record.rows parents, d.rowOf q.record ++ parent.rowOf r ∈ rows ↔
        Record.Shows j k (Value.ofField c.type field).display r) ∧
      (c.type = .int ∧ k.type = .int ∨ c.type.showsTrimmed = true ∧ k.type.showsTrimmed = true →
        ∃ r ∈ Record.rows parents, d.rowOf q.record ++ parent.rowOf r ∈ rows) := by
  obtain ⟨fields, hrecord⟩ := run_insert_conforms hanswer h.loaded
  obtain ⟨hfields, hlen, -⟩ := Definition.checkRecord_eq_ok.mp hrecord
  obtain ⟨d', records', hload', hbefore, hafter, hcheck⟩ := run_insert hanswer
  cases h.loaded.symm.trans hload'
  cases h.found.symm.trans ((Memory.snapshot_records ..).mpr hbefore)
  -- What the reader sees: one more record of the table, and the other table as it was.
  have hsame : (Storage.snapshot e.store caller.database).SameAt
      (Storage.snapshot (e.run caller (.insert q)).2.store reader.database) key.table := by
    rw [hreader]
    exact run_sameAt hother
  have hopen : (Storage.snapshot (e.run caller (.insert q)).2.store reader.database).open q.table
      reader.role .read = .ok d := by
    refine Snapshot.open_eq_ok.mpr ⟨(Snapshot.load_congr ?_).trans h.loaded, hread⟩
    have hschemas : ∀ k, (e.run caller (.insert q)).2.store.schemas.get? k = e.store.schemas.get? k :=
      run_schemas (show "INSERT" ≠ "CREATE" by decide)
    rw [hreader, Memory.snapshot_schema, Memory.snapshot_schema, hschemas]
  have hopen' : (Storage.snapshot (e.run caller (.insert q)).2.store reader.database).open key.table
      reader.role .read = .ok parent :=
    Snapshot.open_eq_ok.mpr ⟨(Snapshot.load_congr hsame.schema.symm).trans h.parentLoaded, hread'⟩
  have hregular : d.Regular (records ++ [q.record]) := h.conforming.regular.concat (hfields ▸ hlen)
  have hpaired := run_paired (.onKey q.table key c k) hopen
    (by rw [hreader]; exact (Memory.snapshot_records ..).mpr hafter) hregular hopen'
    (hsame.records.symm.trans h.parentFound) h.parentConforming.regular
  have hmem : q.record ∈ Record.rows (records ++ [q.record]) :=
    Record.mem_rows_of_fieldIs (definite_trim hnull) (List.mem_append_right _ List.mem_cons_self)
      (fieldIs_eq_true.mpr ⟨field, hf, rfl⟩)
  have hiff : ∀ r ∈ Record.rows parents, d.rowOf q.record ++ parent.rowOf r ∈ (Relation.join
      ⟨Relation.headerOf d, (Record.rows (records ++ [q.record])).map d.rowOf⟩ .inner
      ⟨Relation.headerOf parent, (Record.rows parents).map parent.rowOf⟩
      (.onKey q.table key c k)).rows ↔ Record.Shows j k (Value.ofField c.type field).display r := by
    intro r hr
    rw [Relation.mem_join_inner, ← h.matchRows_iff hpoint hrecord hf hnull hr]
    constructor
    · rintro ⟨row, hrow, partner, -, hmatch, heq⟩
      obtain ⟨other, hother, rfl⟩ := List.mem_map.mp hrow
      obtain ⟨hrecord, hpartner⟩ := List.append_inj heq
        ((hregular.length_rowOf hmem).trans (hregular.length_rowOf hother).symm)
      rw [hrecord, hpartner]
      exact hmatch
    · exact fun hmatch => ⟨_, List.mem_map_of_mem hmem, _, List.mem_map_of_mem hr, hmatch, rfl⟩
  refine ⟨_, hpaired, hiff, fun htypes => ?_⟩
  have hpoints : d.PointsTo (Record.fields q.record) key (Text.trim field) :=
    ⟨i, c, field, h.column, h.foreign, hf, hnull, rfl⟩
  obtain ⟨r, hr, hshows⟩ := h.shows_of_refers htypes hrecord hf hnull (hpoints.refers hcheck)
  exact ⟨r, hr, (hiff r hr).mpr hshows⟩

/-- Teachers by number, and pupils who each have one. -/
def school : Memory where
  schemas := ⟨[(("kantor", "p"), "k:INT\nuser=read,write\n"),
    (("kantor", "t"), "id:INT|f:INT:FK(p.k)\nuser=read,write\n")]⟩
  records := ⟨[(("kantor", "p"), ["07"]), (("kantor", "t"), [])]⟩

theorem inserted_row_joins_iff_school :
    let caller : Caller := ⟨"asep", "user", "kantor"⟩
    let key : ForeignKey := ⟨"p", "k"⟩
    let f : Column := (Column.plain "f" .int).references "p" "k"
    let q : InsertRow := ⟨"t", "1| 07"⟩
    let d : Definition := ⟨"t", [Column.plain "id" .int, f], ⟨.ofList ["user"], .ofList ["user"]⟩⟩
    let parent : Definition := ⟨"p", [Column.plain "k" .int], ⟨.ofList ["user"], .ofList ["user"]⟩⟩
    Related (Storage.snapshot school "kantor") "t" d parent [] ["07"] key 1 0 f (Column.plain "k" .int) ∧
      ((ofStore school).run caller (.insert q)).1 = .ok (.inserted "t") ∧
      ∃ rows, ((((ofStore school).run caller (.insert q)).2.run caller
            (.select (.pairing "t" "p" (.onKey "t" key f (Column.plain "k" .int))))).1 =
          .ok (.rows ⟨["t.id", "t.f", "p.k"], rows⟩)) ∧
        d.rowOf "1| 07" ++ parent.rowOf "07" ∈ rows := by
  intro caller key f q d parent
  have hrelated : Related (Storage.snapshot school "kantor") "t" d parent [] ["07"] key 1 0 f
      (Column.plain "k" .int) := by
    refine ⟨by decide +kernel, by decide +kernel, nofun, rfl, by decide +kernel, rfl, by decide +kernel,
      by decide +kernel, ?_, by decide +kernel, rfl, nofun, nofun⟩
    exact fun r hr => ⟨["07"], by obtain rfl := List.mem_singleton.mp hr; decide +kernel⟩
  have hinserted : ((ofStore school).run caller (.insert q)).1 = .ok (.inserted "t") := by decide +kernel
  have hfield : (Record.fields q.record)[1]? = some " 07" := by decide +kernel
  have hread : d.permissions.allows caller.role .read = true := by decide +kernel
  obtain ⟨rows, hrows, -, hjoined⟩ := inserted_row_joins_iff hrelated (by decide) (by decide) hinserted hfield
    (by decide +kernel) rfl hread (by decide +kernel)
  refine ⟨hrelated, hinserted, rows, hrows, ?_⟩
  obtain ⟨r, hr, hrow⟩ := hjoined (.inl ⟨rfl, rfl⟩)
  obtain rfl := List.mem_singleton.mp hr
  exact hrow

/-- **A row may refer to a record that it is not joined with.** The foreign key is found without the blank
that the join compares. -/
theorem inserted_row_joins_nothing :
    let caller : Caller := ⟨"asep", "user", "kantor"⟩
    let e : Engine Memory := ofStore {
      schemas := ⟨[(("kantor", "p"), "k:STRING\nuser=read,write\n"),
        (("kantor", "t"), "id:INT|f:STRING:FK(p.k)\nuser=read,write\n")]⟩
      records := ⟨[(("kantor", "p"), ["a"]), (("kantor", "t"), [])]⟩ }
    (e.run caller (.insert ⟨"t", "1| a"⟩)).1 = .ok (.inserted "t") ∧
      ((e.run caller (.insert ⟨"t", "1| a"⟩)).2.run caller
          (.select (.pairing "t" "p" ⟨"t.f", .eq, "p.k", none⟩))).1 =
        .ok (.rows ⟨["t.id", "t.f", "p.k"], []⟩) := by
  decide +kernel

end Engine

end Leuit
