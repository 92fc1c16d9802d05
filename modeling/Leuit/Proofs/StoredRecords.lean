import Leuit.Proofs.Constraints
import Leuit.Proofs.Runs

/-! The records of a table stay sound. Records are sound for a definition if every row has a field for
each column, of its type and not null where none may be, and no two records share a text in a key column
(`Definition.Sound`). Insertions, updates and deletions keep the records of a table sound, each by its
own checks; since the definition of a table is written once and never again, every run does. -/
namespace Leuit
open Outcome

/-! ### Sound records -/

/-- A row with a field for each column, each of the column's type, and none null where none may be. -/
structure Definition.Fits (d : Definition) (fields : List String) : Prop where
  arity : fields.length = d.columns.length
  typed : ∀ c f, (c, f) ∈ d.columns.zip fields → isNullField f = false → c.type.accepts f = true
  present : ∀ c f, (c, f) ∈ d.columns.zip fields → c.isNotNull = true → isNullField f = false

/-- Two rows do not share a text that is not null at a position. -/
def Apart (i : Nat) (fields others : List String) : Prop :=
  ∀ f g, fields[i]? = some f → others[i]? = some g → isNullField f = false →
    Text.trim f ≠ Text.trim g

structure Definition.Sound (d : Definition) (records : List String) : Prop where
  rows : ∀ r ∈ Record.rows records, d.Fits (Record.fields r)
  keys : ∀ (i : Nat) (c : Column), d.columns[i]? = some c → (c.isPrimary || c.isUnique) = true →
    records.Pairwise fun r s => Apart i (Record.fields r) (Record.fields s)

theorem Apart.symm {i : Nat} {fields others : List String} (h : Apart i fields others) :
    Apart i others fields := by
  intro g f hg hf hnull heq
  exact h f g hf hg (isNullField_congr heq ▸ hnull) heq.symm

/-- A blank record has no text to share. -/
theorem apart_of_allBlank {i : Nat} {record : String} (others : List String)
    (h : Text.allBlank record = true) : Apart i (Record.fields record) others := by
  intro f g hf _ hnull
  rw [Record.fields_of_allBlank h] at hf
  have hmem : f ∈ [record] := List.mem_of_getElem? hf
  rw [List.mem_singleton.mp hmem, isNullField_of_allBlank h] at hnull
  cases hnull

theorem apart_of_fieldIs {i : Nat} {fields other : List String}
    (h : ∀ f, fields[i]? = some f → isNullField f = false → fieldIs i (Text.trim f) other = false) :
    Apart i fields other := by
  intro f g hf hg hnull heq
  have := h f hf hnull
  simp [fieldIs, hg, heq] at this

namespace Definition
variable {d : Definition} {view : Snapshot} {record : String} {fields : List String}
  {others : List (List String)} {records : List String}

theorem fits_of_checks (hrecord : d.checkRecord record = .ok fields)
    (hcheck : d.checkAgainst view fields others = .ok ()) : d.Fits fields := by
  obtain ⟨_, hlen, htypes⟩ := checkRecord_eq_ok.mp hrecord
  refine ⟨hlen, fun c f hmem hnull => ?_, fun c f hmem hnn => ?_⟩
  · simpa [ColumnType.conforms, hnull] using htypes c f hmem
  · obtain ⟨i, hi⟩ := List.mem_iff_getElem?.mp hmem
    cases hnull : isNullField f with
    | false => rfl
    | true =>
      have := (Column.checkField_of_null hnull).mp (checkAgainst_eq_ok.mp hcheck i c f hi)
      rw [hnn] at this
      cases this

/-- A row that passes the checks differs from all others in each key column. -/
theorem apart_of_checkAgainst (hcheck : d.checkAgainst view fields others = .ok ()) {i : Nat}
    {c : Column} (hc : d.columns[i]? = some c) (hkey : (c.isPrimary || c.isUnique) = true)
    {other : List String} (ho : other ∈ others) : Apart i fields other := by
  refine apart_of_fieldIs fun f hf hnull => ?_
  have hi : (d.columns.zip fields)[i]? = some (c, f) := by
    rw [List.getElem?_zip_eq_some]
    exact ⟨hc, hf⟩
  have hfield := (Column.checkField_of_not_null hnull).mp (checkAgainst_eq_ok.mp hcheck i c f hi)
  exact Column.checkUnique_eq_ok.mp hfield.1 hkey other ho

/-! ### What keeps records sound -/

theorem Sound.nil : d.Sound [] :=
  ⟨fun _ h => absurd h List.not_mem_nil, fun _ _ _ _ => .nil⟩

theorem Sound.sublist {kept : List String} (h : d.Sound records) (hsub : kept.Sublist records) :
    d.Sound kept :=
  ⟨fun r hr => h.rows r ((hsub.filter _).subset hr), fun i c hc hkey => (h.keys i c hc hkey).sublist hsub⟩

/-- A new record that is checked against the stored rows. -/
theorem Sound.append (h : d.Sound records) (hrecord : d.checkRecord record = .ok fields)
    (hcheck : d.checkAgainst view fields ((Record.rows records).map Record.fields) = .ok ()) :
    d.Sound (records ++ [record]) := by
  have hfields : fields = Record.fields record := (checkRecord_eq_ok.mp hrecord).1
  constructor
  · intro r hr
    rw [Record.rows, List.filter_append, List.mem_append] at hr
    rcases hr with hr | hr
    · exact h.rows r hr
    · have : r = record := List.mem_singleton.mp (List.mem_of_mem_filter hr)
      rw [this, ← hfields]
      exact fits_of_checks hrecord hcheck
  · intro i c hc hkey
    rw [List.pairwise_append]
    refine ⟨h.keys i c hc hkey, List.pairwise_singleton .., fun r hr s hs => ?_⟩
    rw [List.mem_singleton.mp hs]
    cases hb : Text.allBlank r with
    | true => exact apart_of_allBlank _ hb
    | false =>
      have hrow : r ∈ Record.rows records := List.mem_filter.mpr ⟨hr, by simp [hb]⟩
      rw [← hfields]
      exact (apart_of_checkAgainst hcheck hc hkey (List.mem_map_of_mem hrow)).symm

end Definition

/-! ### Updates -/

namespace UpdateRows
variable {q : UpdateRows} {d : Definition} {view : Snapshot} {assigned : List (Nat × String)}
  {record : String} {u : UpdatedRecord}

/-- A record is changed if the conditions hold for it, and else stays as it is. -/
theorem update_eq_ok :
    q.update d assigned record = .ok u ↔
      ∃ fields, d.fieldsOf record = .ok fields ∧ u.changed = d.matchesAll fields q.conditions ∧
        if u.changed then
          u.record = Record.ofFields (assign assigned fields) ∧ ∃ new, d.checkRecord u.record = .ok new
        else u.record = record := by
  obtain ⟨line, changed⟩ := u
  unfold update
  cases hf : d.fieldsOf record with
  | error e => simp
  | ok fields =>
    cases hm : d.matchesAll fields q.conditions with
    | false =>
      simp only [Bool.false_eq_true, if_false, Except.ok.injEq, UpdatedRecord.mk.injEq,
        exists_eq_left', hm]
      constructor
      · rintro ⟨rfl, rfl⟩
        exact ⟨rfl, rfl⟩
      · rintro ⟨rfl, h⟩
        exact ⟨h.symm, rfl⟩
    | true =>
      simp only [if_true, map_eq_ok, UpdatedRecord.mk.injEq, Except.ok.injEq, exists_eq_left', hm]
      constructor
      · rintro ⟨new, hnew, rfl, rfl⟩
        exact ⟨rfl, rfl, new, hnew⟩
      · rintro ⟨rfl, rfl, new, hnew⟩
        exact ⟨new, hnew, rfl, rfl⟩

/-- Each changed record has been checked against all others. -/
theorem checkChanged_eq_ok {before : List (List String)} {updated : List UpdatedRecord} :
    checkChanged d view before updated = .ok () ↔
      ∀ pre u post, updated = pre ++ u :: post → u.changed = true →
        d.checkAgainst view (Record.fields u.record)
          (before ++ (pre ++ post).map fun other => Record.fields other.record) = .ok () := by
  induction updated generalizing before with
  | nil => simp [checkChanged]
  | cons r rest ih =>
    have hstep : checkChanged d view before (r :: rest) = .ok () ↔
        (r.changed = true → d.checkAgainst view (Record.fields r.record)
          (before ++ rest.map fun other => Record.fields other.record) = .ok ()) ∧
        checkChanged d view (before ++ [Record.fields r.record]) rest = .ok () := by
      rw [checkChanged]
      cases r.changed with
      | false => simp
      | true =>
        cases d.checkAgainst view (Record.fields r.record)
          (before ++ rest.map fun other => Record.fields other.record) <;> simp
    rw [hstep, ih]
    constructor
    · rintro ⟨hr, hrest⟩ pre u post heq hu
      cases pre with
      | nil =>
        cases heq
        exact hr hu
      | cons p pre =>
        cases heq
        simpa using hrest pre u post rfl hu
    · intro h
      refine ⟨fun hr => h [] r rest rfl hr, fun pre u post heq hu => ?_⟩
      simpa using h (r :: pre) u post (by rw [heq, List.cons_append]) hu

/-- Records that an update leaves unchanged are related as they were before. -/
theorem pairwise_unchanged {R : String → String → Prop} {rows : List String}
    {updated : List UpdatedRecord}
    (hrows : List.Forall₂ (fun r u => u.changed = false → u.record = r) rows updated)
    (h : rows.Pairwise R) :
    updated.Pairwise fun u v => u.changed = false → v.changed = false → R u.record v.record := by
  induction hrows with
  | nil => exact .nil
  | @cons r u rows updated hu hrest ih =>
    obtain ⟨hr, hpair⟩ := List.pairwise_cons.mp h
    refine List.pairwise_cons.mpr ⟨fun v hv hcu hcv => ?_, ih hpair⟩
    obtain ⟨s, hs, hsv⟩ := exists_mem_left hrest hv
    rw [hu hcu, hsv hcv]
    exact hr s hs

/-- If each changed record is related to all others, and unchanged ones among each other, all are. -/
theorem pairwise_of_changed {R : UpdatedRecord → UpdatedRecord → Prop}
    (hsymm : ∀ u v, R u v → R v u) {updated : List UpdatedRecord}
    (hchanged : ∀ pre u post, updated = pre ++ u :: post → u.changed = true →
      ∀ v ∈ pre ++ post, R u v)
    (hunchanged : updated.Pairwise fun u v => u.changed = false → v.changed = false → R u v) :
    updated.Pairwise R := by
  induction updated with
  | nil => exact .nil
  | cons u rest ih =>
    obtain ⟨hu, hrest⟩ := List.pairwise_cons.mp hunchanged
    refine List.pairwise_cons.mpr ⟨fun v hv => ?_, ih (fun pre w post heq hw v hv => ?_) hrest⟩
    · cases hcu : u.changed with
      | true => exact hchanged [] u rest rfl hcu v hv
      | false =>
        cases hcv : v.changed with
        | false => exact hu v hv hcu hcv
        | true =>
          obtain ⟨pre, post, rfl⟩ := List.append_of_mem hv
          exact hsymm v u (hchanged (u :: pre) v post rfl hcv u List.mem_cons_self)
    · exact hchanged (u :: pre) w post (by rw [heq, List.cons_append]) hw v
        (List.mem_cons_of_mem u hv)

/-- The records after an update. Those not changed were sound before, and each changed one is checked
against all the others as they are after it. -/
theorem sound_updated {records : List String} {updated : List UpdatedRecord} (h : d.Sound records)
    (hupdate : (Record.rows records).mapM (q.update d assigned) = .ok updated)
    (hcheck : checkChanged d view [] updated = .ok ()) : d.Sound (updated.map (·.record)) := by
  have hrows := mapM_eq_ok.mp hupdate
  have hchecked := checkChanged_eq_ok.mp hcheck
  constructor
  · intro s hs
    obtain ⟨u, hu, rfl⟩ := List.mem_map.mp (List.mem_of_mem_filter hs)
    obtain ⟨r, hr, hru⟩ := exists_mem_left hrows hu
    obtain ⟨fields, hf, -, hrecord⟩ := update_eq_ok.mp hru
    cases hc : u.changed with
    | false =>
      rw [hc] at hrecord
      rw [show u.record = r from hrecord]
      exact h.rows r hr
    | true =>
      rw [hc] at hrecord
      obtain ⟨-, new, hnew⟩ := hrecord
      obtain ⟨pre, post, heq⟩ := List.append_of_mem hu
      have := hchecked pre u post heq hc
      rw [← (Definition.checkRecord_eq_ok.mp hnew).1] at this ⊢
      exact Definition.fits_of_checks hnew this
  · intro i c hc hkey
    rw [List.pairwise_map]
    refine pairwise_of_changed (fun u v huv => huv.symm) (fun pre u post heq hu v hv => ?_) ?_
    · exact Definition.apart_of_checkAgainst (hchecked pre u post heq hu) hc hkey
        (List.mem_map_of_mem hv)
    · refine pairwise_unchanged (R := fun r s => Apart i (Record.fields r) (Record.fields s))
        (hrows.imp fun r u hru hu => ?_) ((h.keys i c hc hkey).filter _)
      obtain ⟨fields, -, -, hrecord⟩ := update_eq_ok.mp hru
      rwa [hu] at hrecord

end UpdateRows

/-! ### Stores -/

/-- What is stored of a table: definition and records are there together, and the records are sound
for the definition if it can be read. -/
structure TableSound (table : String) (schema : Option String) (records : Option (List String)) :
    Prop where
  together : records.isSome = schema.isSome
  sound : ∀ document stored d, schema = some document → records = some stored →
    Definition.decode table document = .ok d → d.Sound stored

/-- Every table of every database is sound. -/
def Memory.Sound (m : Memory) : Prop :=
  ∀ database table, TableSound table (m.schemas.get? (database, table)) (m.records.get? (database, table))

theorem Memory.sound_empty : Memory.empty.Sound := fun _ _ =>
  ⟨rfl, fun _ _ _ h => nomatch h⟩

namespace Memory
variable {m : Memory} {caller : Caller} {plan : Plan} {table : String} {d : Definition}

/-- A command on a table that can be opened finds sound records in it. -/
theorem Sound.of_open {role : String} {action : Action} {records : List String} (h : m.Sound)
    (hopen : (Storage.snapshot m caller.database).open table role action = .ok d)
    (hrecords : m.records.get? (caller.database, table) = some records) :
    ∃ document, m.schemas.get? (caller.database, table) = some document ∧
      Definition.decode table document = .ok d ∧ d.Sound records := by
  obtain ⟨hload, -⟩ := Snapshot.open_eq_ok.mp hopen
  obtain ⟨document, hschema, hdecode⟩ := Snapshot.load_eq_ok.mp hload
  rw [snapshot_schema, Except.ok.injEq] at hschema
  exact ⟨document, hschema, hdecode, (h _ _).sound document records d hschema hrecords hdecode⟩

/-- An edit that gives a table sound records, and does not touch its definition, keeps the store sound. -/
theorem Sound.edit {database : String} {edit : Edit} {document : String} {new : List String} (h : m.Sound)
    (hschema : m.schemas.get? (database, edit.table) = some document)
    (hdecode : Definition.decode edit.table document = .ok d)
    (hkeep : edit.schemaAfter (some document) = some document)
    (hnew : edit.recordsAfter (m.records.get? (database, edit.table)) = some new) (hsound : d.Sound new) :
    (Storage.edit m database edit).2.Sound := by
  intro db t
  rw [schemas_edit, records_edit]
  by_cases hk : (db, t) = (database, edit.table)
  · cases hk
    rw [if_pos rfl, if_pos rfl, hschema, hkeep, hnew]
    refine ⟨rfl, fun document' stored d' hs hr hd => ?_⟩
    cases hs
    cases hr
    cases hdecode.symm.trans hd
    exact hsound
  · rw [if_neg hk, if_neg hk]
    exact h db t

/-- A new table is empty: no records are stored without a definition. -/
theorem Sound.create {database table document : String} (h : m.Sound)
    (hnone : m.schemas.get? (database, table) = none) :
    (Storage.commit m database [.define table document, .provision table]).2.Sound := by
  have hempty : m.records.get? (database, table) = none := by
    have := (h database table).together
    rw [hnone] at this
    exact Option.isSome_eq_false_iff.mp this |> Option.isNone_iff_eq_none.mp
  rw [Storage.commit_cons _ _ _ rfl, Storage.commit_single]
  intro db t
  rw [schemas_edit, records_edit, schemas_edit, records_edit]
  by_cases hk : (db, t) = (database, table)
  · cases hk
    simp only [Edit.table, if_true, hempty, Edit.schemaAfter, Edit.recordsAfter]
    refine ⟨rfl, fun _ stored d _ hs _ => ?_⟩
    cases hs
    exact Definition.Sound.nil
  · simp only [Edit.table, hk, if_false]
    exact h db t

/-- Every plan keeps the store sound: the checks of each command are made for this. -/
theorem Sound.step {command : Command} (h : m.Sound)
    (hp : command.planned (Storage.snapshot m caller.database) caller = .ok plan) :
    (Storage.commit m caller.database plan.edits).2.Sound := by
  cases command with
  | create q =>
    obtain ⟨columns, -, -, hnone, rfl⟩ := Command.planned_create.mp hp
    rw [snapshot_schema, Except.ok.injEq] at hnone
    exact h.create hnone
  | insert q =>
    obtain ⟨d, fields, hopen, hrecord, hnew, rfl⟩ := Command.planned_insert.mp hp
    obtain ⟨records, hrecords, hcheck⟩ := Definition.checkNew_eq_ok.mp hnew
    rw [Snapshot.load_name (Snapshot.open_eq_ok.mp hopen).1, snapshot_records] at hrecords
    obtain ⟨document, hschema, hdecode, hsound⟩ := h.of_open hopen hrecords
    rw [Storage.commit_single]
    exact h.edit hschema hdecode rfl (by rw [Edit.table, hrecords]; rfl) (hsound.append hrecord hcheck)
  | select q =>
    obtain ⟨d, records, rows, joined, result, -, -, -, -, -, rfl⟩ := Command.planned_select.mp hp
    exact h
  | update q =>
    obtain ⟨d, assigned, records, updated, hopen, -, hrecords, hupdate, hcheck, rfl⟩ :=
      Command.planned_update.mp hp
    obtain ⟨document, hschema, hdecode, hsound⟩ := h.of_open hopen ((snapshot_records ..).mp hrecords)
    by_cases hcount : updated.countP (·.changed) = 0
    · rw [if_pos hcount]
      exact h
    · rw [if_neg hcount, Storage.commit_single]
      exact h.edit hschema hdecode rfl rfl (UpdateRows.sound_updated hsound hupdate hcheck)
  | delete q =>
    obtain ⟨d, records, hopen, hrecords, -, rfl⟩ := Command.planned_delete.mp hp
    obtain ⟨document, hschema, hdecode, hsound⟩ := h.of_open hopen ((snapshot_records ..).mp hrecords)
    by_cases hcount : (Record.rows records).countP (d.picks q.conditions) = 0
    · rw [if_pos hcount]
      exact h
    · rw [if_neg hcount, Storage.commit_single]
      exact h.edit hschema hdecode rfl rfl
        (hsound.sublist (List.filter_sublist.trans List.filter_sublist))

/-- A stored definition stays: only a table without one is defined. -/
theorem schema_step {command : Command} {key : String × String} {document : String}
    (h : m.schemas.get? key = some document)
    (hp : command.planned (Storage.snapshot m caller.database) caller = .ok plan) :
    (Storage.commit m caller.database plan.edits).2.schemas.get? key = some document := by
  cases command with
  | create q =>
    obtain ⟨columns, -, -, hnone, rfl⟩ := Command.planned_create.mp hp
    rw [snapshot_schema, Except.ok.injEq] at hnone
    have hk : key ≠ (caller.database, q.table) := by
      rintro rfl
      rw [hnone] at h
      cases h
    rw [Storage.commit_cons _ _ _ rfl, Storage.commit_single]
    simp only [schemas_edit, Edit.table, if_neg hk, h]
  | insert q =>
    obtain ⟨d, fields, -, -, -, rfl⟩ := Command.planned_insert.mp hp
    rw [Storage.commit_single, schemas_edit]
    simp [Edit.schemaAfter, h]
  | select q =>
    obtain ⟨d, records, rows, joined, result, -, -, -, -, -, rfl⟩ := Command.planned_select.mp hp
    exact h
  | update q =>
    obtain ⟨d, assigned, records, updated, -, -, -, -, -, rfl⟩ := Command.planned_update.mp hp
    split
    · exact h
    · rw [Storage.commit_single, schemas_edit]
      simp [Edit.schemaAfter, h]
  | delete q =>
    obtain ⟨d, records, -, -, -, rfl⟩ := Command.planned_delete.mp hp
    split
    · exact h
    · rw [Storage.commit_single, schemas_edit]
      simp [Edit.schemaAfter, h]

end Memory

/-! ### Runs -/

namespace Engine

/-- The engine that was started on an empty store in memory and executed the queries. -/
def reached (inputs : List (Caller × String)) : Engine Memory := (ofStore Memory.empty).executeAll inputs

/-- **Stored data stays sound along every run.** Whatever queries were executed from an empty store, by
whatever callers: a definition once stored is there unchanged after any further queries, and every table
whose definition can be read holds records that are sound for it. -/
theorem stored_data_sound (inputs later : List (Caller × String)) :
    (∀ key document, (reached inputs).store.schemas.get? key = some document →
      (reached (inputs ++ later)).store.schemas.get? key = some document) ∧
    ∀ database table document d, (reached inputs).store.schemas.get? (database, table) = some document →
      Definition.decode table document = .ok d →
        ∃ records, (reached inputs).store.records.get? (database, table) = some records ∧
          d.Sound records := by
  constructor
  · intro key document h
    rw [reached, executeAll_append]
    exact executeAll_keeps (P := fun m : Memory => m.schemas.get? key = some document)
      (fun _ _ _ _ hm hp => Memory.schema_step hm hp) h later
  · intro database table document d hschema hdecode
    have hsound : (reached inputs).store.Sound :=
      executeAll_keeps (fun _ _ _ _ hm hp => hm.step hp) Memory.sound_empty inputs
    have htable := hsound database table
    obtain ⟨records, hrecords⟩ :
        ∃ records, (reached inputs).store.records.get? (database, table) = some records := by
      rw [← Option.isSome_iff_exists, htable.together, hschema]
      rfl
    exact ⟨records, hrecords, htable.sound document records d hschema hrecords hdecode⟩

/-- A table with a key, an insertion and a duplicate that is refused. -/
def keyedQueries : List (Caller × String) :=
  let caller : Caller := ⟨"asep", superRole, "kantor"⟩
  [(caller, "DAMEL t id:INT:PK"), (caller, "SIMPEN t 1"), (caller, "SIMPEN t 1")]

theorem stored_data_sound_keyed :
    ∃ document d, (reached keyedQueries).store.schemas.get? ("kantor", "t") = some document ∧
      Definition.decode "t" document = .ok d ∧ d.columns = [(Column.plain "id" .int).primary] ∧
      (reached keyedQueries).store.records.get? ("kantor", "t") = some ["1"] ∧
      ∃ records, (reached keyedQueries).store.records.get? ("kantor", "t") = some records ∧
        d.Sound records := by
  have hstored : (reached keyedQueries).store.schemas.get? ("kantor", "t") =
        some "id:INT:PK\nadmin=read,write\nsupermaung=read,write\nuser=read\n" ∧
      (reached keyedQueries).store.records.get? ("kantor", "t") = some ["1"] := by
    decide +kernel
  have hdecode : Definition.decode "t" "id:INT:PK\nadmin=read,write\nsupermaung=read,write\nuser=read\n" =
      .ok ⟨"t", [(Column.plain "id" .int).primary], .standard⟩ := by
    decide +kernel
  exact ⟨_, _, hstored.1, hdecode, rfl, hstored.2,
    (stored_data_sound keyedQueries []).2 "kantor" "t" _ _ hstored.1 hdecode⟩

end Engine

end Leuit
