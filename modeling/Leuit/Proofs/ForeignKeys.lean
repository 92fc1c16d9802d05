import Leuit.Proofs.BlankRecords
import Leuit.Proofs.Updates

/-! Foreign keys after a write. A row is checked against the store as it was seen before the write
(`Column.checkReference_eq_ok`). An insertion only adds a record, so what its row refers to is still there.
An update of another table than the parent leaves the parent alone; but an update of a table that refers to
itself may move away the very text that a row it writes refers to, and the row is then left dangling
(`Engine.written_rows_refer` says when, `Engine.update_leaves_dangling` shows a run that does it). -/
namespace Leuit
open Outcome

/-! ### References -/

/-- A record of the table that a foreign key names has the text in the column that it names. -/
def Snapshot.Refers (view : Snapshot) (key : ForeignKey) (value : String) : Prop :=
  ∃ parent i records, view.load key.table = .ok parent ∧
    parent.columnIgnoringCase? key.column = some i ∧ view.records key.table = .ok records ∧
    ∃ record ∈ records, fieldIs i value (Record.fields record) = true

/-- A row has the text, which is not null, in a column with the foreign key. -/
def Definition.PointsTo (d : Definition) (fields : List String) (key : ForeignKey) (value : String) :
    Prop :=
  ∃ (i : Nat) (c : Column) (f : String), d.columns[i]? = some c ∧ c.foreignKey = some key ∧
    fields[i]? = some f ∧ isNullField f = false ∧ Text.trim f = value

section
variable {view view' : Snapshot} {key : ForeignKey} {value : String}

theorem Column.checkReference_eq_ok {c : Column} :
    c.checkReference view key value = .ok () ↔ view.Refers key value := by
  unfold checkReference Snapshot.Refers
  cases view.load key.table with
  | error e => cases e <;> simp
  | ok parent =>
    cases hi : parent.columnIgnoringCase? key.column with
    | none => simp [hi]
    | some i =>
      cases view.records key.table with
      | error e => simp [hi]
      | ok records =>
        by_cases hany : (records.any fun record => fieldIs i value (Record.fields record)) = true
        · simp only [hi, hany, if_true, true_iff]
          obtain ⟨record, hmem, hfield⟩ := List.any_eq_true.mp hany
          exact ⟨parent, i, records, rfl, hi, rfl, record, hmem, hfield⟩
        · simp only [hi, hany, if_false, reduceCtorEq, false_iff]
          rintro ⟨parent', i', records', hparent, hi', hrecords, record, hmem, hfield⟩
          cases hparent
          cases hrecords
          cases hi.symm.trans hi'
          exact hany (List.any_eq_true.mpr ⟨record, hmem, hfield⟩)

namespace Definition
variable {d : Definition} {fields : List String} {others : List (List String)}

theorem PointsTo.definite (h : d.PointsTo fields key value) : Definite value := by
  obtain ⟨i, c, f, -, -, -, hnull, rfl⟩ := h
  exact definite_trim hnull

/-- What a checked row points to is there. -/
theorem PointsTo.refers (h : d.PointsTo fields key value)
    (hcheck : d.checkAgainst view fields others = .ok ()) : view.Refers key value := by
  obtain ⟨i, c, f, hc, hkey, hf, hnull, rfl⟩ := h
  have hfield := checkAgainst_eq_ok.mp hcheck i c f (List.getElem?_zip_eq_some.mpr ⟨hc, hf⟩)
  exact Column.checkReference_eq_ok.mp (((Column.checkField_of_not_null hnull).mp hfield).2 key hkey)

end Definition

namespace Snapshot

theorem Refers.congr (h : view.SameAt view' key.table) : view.Refers key value ↔ view'.Refers key value := by
  unfold Refers
  rw [load_congr h.schema, h.records]

/-- More records of a table with the same definition. -/
theorem Refers.mono (hschema : view.schema key.table = view'.schema key.table)
    (hrecords : ∀ records, view.records key.table = .ok records →
      ∃ more, view'.records key.table = .ok more ∧ records ⊆ more)
    (h : view.Refers key value) : view'.Refers key value := by
  obtain ⟨parent, i, records, hload, hi, hfound, record, hmem, hfield⟩ := h
  obtain ⟨more, hmore, hsub⟩ := hrecords records hfound
  exact ⟨parent, i, more, load_congr hschema ▸ hload, hi, hmore, record, hsub hmem, hfield⟩

end Snapshot

end

/-! ### What an update leaves in a column -/

namespace UpdateRows
variable {q : UpdateRows} {d : Definition} {assigned : List (Nat × String)} {records : List String}
  {i : Nat} {value : String}

/-- What an update leaves of a text in a column: nothing else is assigned to the column, or a record that
is not picked has the text. -/
def Leaves (q : UpdateRows) (d : Definition) (assigned : List (Nat × String)) (records : List String)
    (i : Nat) (value : String) : Prop :=
  (∀ text, assigned? assigned i = some text → Text.trim text = value) ∨
    ∃ r ∈ Record.rows records, d.picks q.conditions r = false ∧ fieldIs i value (Record.fields r) = true

/-- A text that was in a column of a table some of whose rows are updated is still there exactly if the
update leaves it. -/
theorem exists_after_iff (hi : i < d.columns.length)
    (hupdates : ∀ r ∈ Record.rows records, ∃ u, q.update d assigned r = .ok u)
    (hpicked : ∃ r ∈ Record.rows records, d.picks q.conditions r = true)
    (hbefore : ∃ r ∈ Record.rows records, fieldIs i value (Record.fields r) = true) :
    (∃ r ∈ Record.rows records, fieldIs i value (Record.fields (q.after d assigned r)) = true) ↔
      q.Leaves d assigned records i value := by
  have hfields : ∀ r ∈ Record.rows records, d.picks q.conditions r = true →
      Record.fields (q.after d assigned r) = assign assigned (Record.fields r) :=
    fun r hr hp => let ⟨_, hu⟩ := hupdates r hr; fields_after hu hp
  have hsame : ∀ r, d.picks q.conditions r = false → q.after d assigned r = r :=
    fun r hp => if_neg (by simp [hp])
  constructor
  · rintro ⟨r, hr, hfield⟩
    cases hp : d.picks q.conditions r with
    | false => exact .inr ⟨r, hr, hp, hsame r hp ▸ hfield⟩
    | true =>
      refine .inl fun text htext => ?_
      obtain ⟨f, hf, htrim⟩ := fieldIs_eq_true.mp hfield
      rw [hfields r hr hp, getElem?_assign, htext] at hf
      obtain ⟨old, -, rfl⟩ := Option.map_eq_some_iff.mp hf
      exact htrim
  · rintro (hassigned | ⟨r, hr, hp, hfield⟩)
    · cases htext : assigned? assigned i with
      | none =>
        -- Nothing is assigned to the column: the record that had the text still has it.
        obtain ⟨r, hr, hfield⟩ := hbefore
        refine ⟨r, hr, ?_⟩
        cases hp : d.picks q.conditions r with
        | false => rwa [hsame r hp]
        | true =>
          obtain ⟨f, hf, htrim⟩ := fieldIs_eq_true.mp hfield
          refine fieldIs_eq_true.mpr ⟨f, ?_, htrim⟩
          rw [hfields r hr hp, getElem?_assign, htext, hf]
          rfl
      | some text =>
        -- Every record that is picked has the text now.
        obtain ⟨r, hr, hp⟩ := hpicked
        obtain ⟨u, hu⟩ := hupdates r hr
        obtain ⟨fields, hread, -, -⟩ := update_eq_ok.mp hu
        obtain ⟨rfl, hlen⟩ := Definition.fieldsOf_eq_ok.mp hread
        refine ⟨r, hr, fieldIs_eq_true.mpr ⟨text, ?_, hassigned text htext⟩⟩
        rw [hfields r hr hp, getElem?_assign, htext, List.getElem?_eq_getElem (hlen ▸ hi)]
        rfl
    · exact ⟨r, hr, by rwa [hsame r hp]⟩

end UpdateRows

theorem Definition.columnIgnoringCase?_lt {d : Definition} {name : String} {i : Nat}
    (h : d.columnIgnoringCase? name = some i) : i < d.columns.length := by
  unfold columnIgnoringCase? column? at h
  cases hexact : d.columns.findIdx? (·.name == name) with
  | some j =>
    rw [hexact] at h
    cases h
    exact (List.findIdx?_eq_some_iff_getElem.mp hexact).1
  | none =>
    rw [hexact] at h
    exact (List.findIdx?_eq_some_iff_getElem.mp h).1

/-! ### Running -/

namespace Engine
variable {e : Engine Memory} {caller : Caller} {key : ForeignKey} {value : String}

theorem run_sameAt {command : Command} {table : String} (h : table ≠ command.table) :
    (Storage.snapshot e.store caller.database).SameAt
      (Storage.snapshot (e.run caller command).2.store caller.database) table := by
  refine Memory.sameAt_of_stored (Eq.symm ?_)
  by_contra hchanged
  exact h (congrArg Prod.snd (run_changes hchanged).1)

/-- What an insertion finds it leaves, and adds its record. -/
theorem run_insert {q : InsertRow} {answer : Answer} (h : (e.run caller (.insert q)).1 = .ok answer) :
    ∃ d records, (Storage.snapshot e.store caller.database).load q.table = .ok d ∧
      e.store.records.get? (caller.database, q.table) = some records ∧
      (e.run caller (.insert q)).2.store.records.get? (caller.database, q.table) =
        some (records ++ [q.record]) ∧
      d.checkAgainst (Storage.snapshot e.store caller.database) (Record.fields q.record)
        ((Record.rows records).map Record.fields) = .ok () := by
  obtain ⟨plan, hplan, hcommit, -⟩ := run_eq_ok h
  obtain ⟨d, fields, hopen, hrecord, hnew, rfl⟩ := Command.planned_insert.mp hplan
  obtain ⟨hload, -⟩ := Snapshot.open_eq_ok.mp hopen
  obtain ⟨rfl, -⟩ := Definition.checkRecord_eq_ok.mp hrecord
  obtain ⟨records, hrecords, hcheck⟩ := Definition.checkNew_eq_ok.mp hnew
  rw [Snapshot.load_name hload, Memory.snapshot_records] at hrecords
  refine ⟨d, records, hload, hrecords, ?_, hcheck⟩
  rw [Storage.commit_single] at hcommit
  have hstore := Memory.records_edit e.store caller.database (.append q.table q.record)
    (caller.database, q.table)
  rw [hcommit, Edit.table, if_pos rfl, hrecords] at hstore
  exact hstore

/-- An insertion keeps all references. -/
theorem refers_insert {q : InsertRow} {answer : Answer} (h : (e.run caller (.insert q)).1 = .ok answer)
    (hrefers : (Storage.snapshot e.store caller.database).Refers key value) :
    (Storage.snapshot (e.run caller (.insert q)).2.store caller.database).Refers key value := by
  by_cases htable : key.table = q.table
  · obtain ⟨d, records, -, hrecords, hafter, -⟩ := run_insert h
    have hschemas : ∀ k, (e.run caller (.insert q)).2.store.schemas.get? k = e.store.schemas.get? k :=
      run_schemas (show "INSERT" ≠ "CREATE" by decide)
    refine hrefers.mono ?_ fun found hfound => ⟨records ++ [q.record], ?_, ?_⟩
    · rw [Memory.snapshot_schema, Memory.snapshot_schema, hschemas]
    · rw [htable]
      exact (Memory.snapshot_records ..).mpr hafter
    · rw [htable, Memory.snapshot_records, hrecords] at hfound
      cases hfound
      exact List.subset_append_left ..
  · exact (Snapshot.Refers.congr (run_sameAt htable)).mp hrefers

/-- An update keeps a reference exactly if it is not to the updated table or the text is left there. -/
theorem Updated.refers_iff {q : UpdateRows} {d : Definition} {assigned : List (Nat × String)}
    {records now : List String} (h : e.Updated caller q d assigned records now)
    (hpicked : ∃ r ∈ Record.rows records, d.picks q.conditions r = true) (hvalue : Definite value)
    (hrefers : (Storage.snapshot e.store caller.database).Refers key value) :
    (Storage.snapshot (e.run caller (.update q)).2.store caller.database).Refers key value ↔
      (key.table = q.table → ∀ i, d.columnIgnoringCase? key.column = some i →
        q.Leaves d assigned records i value) := by
  by_cases htable : key.table = q.table
  · obtain ⟨parent, i, found, hload, hi, hfound, record, hmem, hfield⟩ := hrefers
    rw [htable] at hload hfound
    cases h.loaded.symm.trans hload
    rw [Memory.snapshot_records, h.found] at hfound
    cases hfound
    have hleaves := UpdateRows.exists_after_iff (Definition.columnIgnoringCase?_lt hi) h.updates hpicked
      ⟨record, Record.mem_rows_of_fieldIs hvalue hmem hfield, hfield⟩
    have hschemas : ∀ k, (e.run caller (.update q)).2.store.schemas.get? k = e.store.schemas.get? k :=
      run_schemas (show "UPDATE" ≠ "CREATE" by decide)
    have hloaded : (Storage.snapshot (e.run caller (.update q)).2.store caller.database).load q.table =
        .ok d := by
      refine (Snapshot.load_congr ?_).trans h.loaded
      rw [Memory.snapshot_schema, Memory.snapshot_schema, hschemas]
    constructor
    · rintro ⟨parent', i', now', hload', hi', hnow, after, hafter, hfield'⟩ _ j hj
      cases hi.symm.trans hj
      rw [htable] at hload' hnow
      cases hloaded.symm.trans hload'
      cases hi.symm.trans hi'
      rw [Memory.snapshot_records, h.left] at hnow
      cases hnow
      -- The record with the text is one that the update wrote or left alone.
      have hrow := Record.mem_rows_of_fieldIs hvalue hafter hfield'
      rw [h.rows] at hrow
      obtain ⟨r, hr, rfl⟩ := List.mem_map.mp (List.mem_of_mem_filter hrow)
      exact hleaves.mp ⟨r, hr, hfield'⟩
    · intro hleft
      obtain ⟨r, hr, hfield'⟩ := hleaves.mpr (hleft htable i hi)
      have hrow : q.after d assigned r ∈ Record.rows now := by
        rw [h.rows]
        exact Record.mem_rows_of_fieldIs hvalue (List.mem_map_of_mem hr) hfield'
      exact ⟨d, i, now, htable ▸ hloaded, hi, htable ▸ (Memory.snapshot_records ..).mpr h.left, _,
        List.mem_of_mem_filter hrow, hfield'⟩
  · exact ⟨fun _ heq => absurd heq htable,
      fun _ => (Snapshot.Refers.congr (run_sameAt htable)).mp hrefers⟩

/-- **Written rows refer to records that are there, unless an update moved those away.** In any store in
memory: the row that an insertion adds refers, in each field that is not null and has a foreign key, to a
record of the parent table as it is after the insertion. A row that an update writes has the assigned texts
and its own others, and refers to a record that is there after the update, exactly if the parent is another
table, or the update leaves the text in the column that is referred to. -/
theorem written_rows_refer (e : Engine Memory) (caller : Caller) :
    (∀ (q : InsertRow) (answer : Answer), (e.run caller (.insert q)).1 = .ok answer →
      ∃ d records, (Storage.snapshot e.store caller.database).load q.table = .ok d ∧
        (e.run caller (.insert q)).2.store.records.get? (caller.database, q.table) =
          some (records ++ [q.record]) ∧
        ∀ key value, d.PointsTo (Record.fields q.record) key value →
          (Storage.snapshot (e.run caller (.insert q)).2.store caller.database).Refers key value) ∧
    ∀ (q : UpdateRows) (answer : Answer), (e.run caller (.update q)).1 = .ok answer →
      ∃ d assigned records now, e.Updated caller q d assigned records now ∧
        ∀ r ∈ Record.rows records, d.picks q.conditions r = true →
          Record.fields (q.after d assigned r) = UpdateRows.assign assigned (Record.fields r) ∧
          ∀ key value, d.PointsTo (Record.fields (q.after d assigned r)) key value →
            ((Storage.snapshot (e.run caller (.update q)).2.store caller.database).Refers key value ↔
              (key.table = q.table → ∀ i, d.columnIgnoringCase? key.column = some i →
                q.Leaves d assigned records i value)) := by
  constructor
  · intro q answer h
    obtain ⟨d, records, hload, -, hafter, hcheck⟩ := run_insert h
    exact ⟨d, records, hload, hafter, fun key value hpoints => refers_insert h (hpoints.refers hcheck)⟩
  · intro q answer h
    obtain ⟨d, assigned, records, now, hupdated⟩ := run_update h
    refine ⟨d, assigned, records, now, hupdated, fun r hr hp => ?_⟩
    obtain ⟨u, hu⟩ := hupdated.updates r hr
    obtain ⟨others, hcheck⟩ := hupdated.checked r hr hp
    rw [← UpdateRows.fields_after hu hp] at hcheck
    exact ⟨UpdateRows.fields_after hu hp, fun key value hpoints =>
      hupdated.refers_iff ⟨r, hr, hp⟩ hpoints.definite (hpoints.refers hcheck)⟩

/-- A family tree, in which everyone but the first names a parent of the same table. -/
def kin : Memory where
  schemas := ⟨[(("kantor", "t"), "id:INT:PK|p:INT:FK(t.id)\nuser=read,write\n")]⟩
  records := ⟨[(("kantor", "t"), ["1|NULL", "2|1"])]⟩

def kinDefinition : Definition where
  name := "t"
  columns := [(Column.plain "id" .int).primary, (Column.plain "p" .int).references "t" "id"]
  permissions := ⟨.ofList ["user"], .ofList ["user"]⟩

theorem written_rows_refer_kin :
    let caller : Caller := ⟨"asep", "user", "kantor"⟩
    let e : Engine Memory := ofStore kin
    let insertion : InsertRow := ⟨"t", "3| 2"⟩
    let q : UpdateRows := ⟨"t", [("p", "2")], [⟨"id", .eq, "2", none⟩]⟩
    (e.run caller (.insert insertion)).1 = .ok (.inserted "t") ∧
      (Storage.snapshot (e.run caller (.insert insertion)).2.store "kantor").Refers ⟨"t", "id"⟩ "2" ∧
      (e.run caller (.update q)).1 = .ok (.updated 1) ∧
      (Storage.snapshot (e.run caller (.update q)).2.store "kantor").Refers ⟨"t", "id"⟩ "2" := by
  intro caller e insertion q
  have hload : (Storage.snapshot e.store "kantor").load "t" = .ok kinDefinition := by decide +kernel
  have hinserted : (e.run caller (.insert insertion)).1 = .ok (.inserted "t") := by decide +kernel
  have hupdated : (e.run caller (.update q)).1 = .ok (.updated 1) := by decide +kernel
  obtain ⟨d, records, hd, -, hrefers⟩ := (written_rows_refer e caller).1 insertion _ hinserted
  cases hload.symm.trans hd
  obtain ⟨d, assigned, records, now, h, hwritten⟩ := (written_rows_refer e caller).2 q _ hupdated
  cases hload.symm.trans h.loaded
  have hassigned : assigned = [(1, "2")] := by
    have hpositions : q.positions kinDefinition q.assignments = .ok [(1, "2")] := by decide +kernel
    exact Except.ok.inj (h.positions.symm.trans hpositions)
  have hrecords : records = ["1|NULL", "2|1"] := by
    have hfound : e.store.records.get? ("kantor", "t") = some ["1|NULL", "2|1"] := by decide +kernel
    exact Option.some.inj (h.found.symm.trans hfound)
  subst hassigned hrecords
  obtain ⟨-, hiff⟩ := hwritten "2|1" (by decide +kernel) (by decide +kernel)
  have hpoints : kinDefinition.PointsTo (Record.fields insertion.record) ⟨"t", "id"⟩ "2" :=
    ⟨1, (Column.plain "p" .int).references "t" "id", " 2", rfl, rfl, by decide +kernel⟩
  have hpoints' : kinDefinition.PointsTo
      (Record.fields (q.after kinDefinition [(1, "2")] "2|1")) ⟨"t", "id"⟩ "2" :=
    ⟨1, (Column.plain "p" .int).references "t" "id", "2", rfl, rfl, by decide +kernel⟩
  refine ⟨hinserted, hrefers _ _ hpoints, hupdated, (hiff _ _ hpoints').mpr fun _ i hi => .inl ?_⟩
  -- Nothing is assigned to the column that is referred to.
  have hid : kinDefinition.columnIgnoringCase? "id" = some 0 := by decide +kernel
  cases hid.symm.trans hi
  exact nofun

/-- What becomes of a table whose only row names itself as its parent when the row is given another
number. -/
def renumbered : Except QueryError Answer × Engine Memory :=
  (ofStore { kin with records := ⟨[(("kantor", "t"), ["1|1"])]⟩ }).run ⟨"asep", "user", "kantor"⟩
    (.update ⟨"t", [("id", "5")], [⟨"id", .eq, "1", none⟩]⟩)

/-- **An update may leave a row it writes dangling.** The row still names its old number, which no record
has any more. -/
theorem update_leaves_dangling :
    renumbered.1 = .ok (.updated 1) ∧
      renumbered.2.store.records.get? ("kantor", "t") = some ["5|1"] ∧
      (Storage.snapshot renumbered.2.store "kantor").load "t" = .ok kinDefinition ∧
      kinDefinition.PointsTo (Record.fields "5|1") ⟨"t", "id"⟩ "1" ∧
      ¬(Storage.snapshot renumbered.2.store "kantor").Refers ⟨"t", "id"⟩ "1" := by
  have hmissing : (Column.plain "p" .int).checkReference (Storage.snapshot renumbered.2.store "kantor")
      ⟨"t", "id"⟩ "1" = .error (.violation (.foreignKey "p" ⟨"t", "id"⟩ (.valueMissing "1"))) := by
    decide +kernel
  refine ⟨by decide +kernel, by decide +kernel, by decide +kernel, ?_, fun hrefers => ?_⟩
  · exact ⟨1, (Column.plain "p" .int).references "t" "id", "1", rfl, rfl, by decide +kernel⟩
  · cases hmissing.symm.trans (Column.checkReference_eq_ok.mpr hrefers)

end Engine

end Leuit
