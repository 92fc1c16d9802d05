import Leuit.Proofs.StoredRecords

/-! What a successful update leaves behind. A record that the conditions pick gets the texts assigned, the
last one where a column is assigned several times (`UpdateRows.getElem?_assign`), and reads back as those
fields, because texts with bars in them would have been too many fields (`UpdateRows.update_eq_after`).
The other records stay as they are, and so does every other table (`Engine.run_update`). -/
namespace Leuit
open Outcome

/-! ### Assignments -/

/-- Fields that are as many again after being joined have no bars in them. -/
theorem Record.fields_ofFields {texts : List String} (hne : texts ≠ [])
    (h : (fields (ofFields texts)).length = texts.length) : fields (ofFields texts) = texts := by
  have hline : (ofFields texts).toList = ['|'].intercalate (texts.map String.toList) := by
    simp [ofFields, String.toList_intercalate]
  refine Text.split_of_intercalate hline hne fun text htext => ?_
  rw [fields, Text.split, hline, List.length_map,
    Text.splitOn_intercalate_flatMap (by simpa using hne)] at h
  exact Text.not_mem_of_length_flatMap (by simpa using h.le) _ (List.mem_map_of_mem htext)

namespace UpdateRows
variable {q : UpdateRows} {d : Definition} {assigned : List (Nat × String)} {record : String}
  {u : UpdatedRecord}

/-- The text that is assigned to the column at a position, if any. -/
def assigned? (assigned : List (Nat × String)) (i : Nat) : Option String := assigned.reverse.lookup i

theorem assigned?_cons (i : Nat) (text : String) (rest : List (Nat × String)) (j : Nat) :
    assigned? ((i, text) :: rest) j = (assigned? rest j).or (if j = i then some text else none) := by
  rw [assigned?, List.reverse_cons, List.lookup_append, assigned?, List.lookup_cons]
  by_cases hj : j = i
  · rw [if_pos hj, beq_iff_eq.mpr hj]
  · rw [if_neg hj, beq_eq_false_iff_ne.mpr hj]
    rfl

@[simp] theorem length_assign (assigned : List (Nat × String)) (fields : List String) :
    (assign assigned fields).length = fields.length := by
  induction assigned generalizing fields with
  | nil => rfl
  | cons first rest ih => exact (ih (fields.set first.1 first.2)).trans List.length_set

theorem getElem?_assign (assigned : List (Nat × String)) (fields : List String) (j : Nat) :
    (assign assigned fields)[j]? = fields[j]?.map (assigned? assigned j).getD := by
  induction assigned generalizing fields with
  | nil => exact Option.map_id'.symm
  | cons first rest ih =>
    obtain ⟨i, text⟩ := first
    show (assign rest (fields.set i text))[j]? = _
    rw [ih, assigned?_cons, List.getElem?_set]
    by_cases hj : i = j
    · subst hj
      by_cases hlt : i < fields.length
      · cases assigned? rest i <;> simp [hlt]
      · simp [hlt]
    · rw [if_neg hj, if_neg (Ne.symm hj), Option.or_none]

/-! ### Records after an update -/

/-- What an update makes of a record. -/
def after (q : UpdateRows) (d : Definition) (assigned : List (Nat × String)) (record : String) : String :=
  if d.picks q.conditions record then Record.ofFields (assign assigned (Record.fields record)) else record

theorem update_eq_after (h : q.update d assigned record = .ok u) :
    u = ⟨q.after d assigned record, d.picks q.conditions record⟩ := by
  obtain ⟨fields, hfields, hchanged, hrecord⟩ := update_eq_ok.mp h
  obtain ⟨rfl, -⟩ := Definition.fieldsOf_eq_ok.mp hfields
  obtain ⟨line, changed⟩ := u
  cases hp : d.picks q.conditions record with
  | true =>
    obtain rfl : changed = true := hchanged.trans hp
    rw [after, if_pos hp, ← hrecord.1]
  | false =>
    obtain rfl : changed = false := hchanged.trans hp
    rw [after, if_neg (by simp [hp])]
    exact congrArg (UpdatedRecord.mk · false) hrecord

/-- A record that is picked reads back as its fields with the texts assigned. -/
theorem fields_after (h : q.update d assigned record = .ok u) (hp : d.picks q.conditions record = true) :
    Record.fields (q.after d assigned record) = assign assigned (Record.fields record) := by
  obtain ⟨fields, hfields, hchanged, hrecord⟩ := update_eq_ok.mp h
  obtain ⟨rfl, hlen⟩ := Definition.fieldsOf_eq_ok.mp hfields
  rw [hchanged.trans hp] at hrecord
  obtain ⟨hline, new, hnew⟩ := hrecord
  obtain ⟨rfl, hnew, -⟩ := Definition.checkRecord_eq_ok.mp hnew
  rw [after, if_pos hp]
  refine Record.fields_ofFields ?_ ?_
  · intro hnil
    have hzero := congrArg List.length hnil
    rw [length_assign, Record.fields, Text.split, List.length_map, List.length_nil,
      List.length_eq_zero_iff] at hzero
    exact List.splitOn_ne_nil _ _ hzero
  · rw [length_assign, ← hline, hnew, hlen]

theorem map_after {rows : List String} {updated : List UpdatedRecord}
    (h : rows.mapM (q.update d assigned) = .ok updated) :
    updated.map (·.record) = rows.map (q.after d assigned) := by
  have hrows := mapM_eq_ok.mp h
  clear h
  induction hrows with
  | nil => rfl
  | @cons r u rows updated hu _ ih => rw [List.map_cons, List.map_cons, ih, update_eq_after hu]

end UpdateRows

/-! ### Running -/

/-- An update that succeeded: what it found and what it left. -/
structure Engine.Updated (e : Engine Memory) (caller : Caller) (q : UpdateRows) (d : Definition)
    (assigned : List (Nat × String)) (records now : List String) : Prop where
  loaded : (Storage.snapshot e.store caller.database).load q.table = .ok d
  positions : q.positions d q.assignments = .ok assigned
  found : e.store.records.get? (caller.database, q.table) = some records
  left : (e.run caller (.update q)).2.store.records.get? (caller.database, q.table) = some now
  /-- Blank lines apart, every record is what the update makes of it. -/
  rows : Record.rows now = Record.rows ((Record.rows records).map (q.after d assigned))
  written : ∀ r ∈ Record.rows records, d.picks q.conditions r = true → q.after d assigned r ∈ now
  /-- Every record could be read, and be written if it was picked. -/
  updates : ∀ r ∈ Record.rows records, ∃ u, q.update d assigned r = .ok u
  /-- Every record that was picked passed the checks, against the others as they are now. -/
  checked : ∀ r ∈ Record.rows records, d.picks q.conditions r = true → ∃ others,
    d.checkAgainst (Storage.snapshot e.store caller.database)
      (UpdateRows.assign assigned (Record.fields r)) others = .ok ()

theorem Engine.run_update {e : Engine Memory} {caller : Caller} {q : UpdateRows} {answer : Answer}
    (h : (e.run caller (.update q)).1 = .ok answer) :
    ∃ d assigned records now, e.Updated caller q d assigned records now := by
  obtain ⟨plan, hplan, hcommit, -⟩ := run_eq_ok h
  obtain ⟨d, assigned, records, updated, hopen, hpositions, hview, hupdate, hcheck, rfl⟩ :=
    Command.planned_update.mp hplan
  have hrecords := (Memory.snapshot_records ..).mp hview
  have hrows := mapM_eq_ok.mp hupdate
  have hupdates : ∀ r ∈ Record.rows records, ∃ u ∈ updated, q.update d assigned r = .ok u := by
    intro r hr
    obtain ⟨u, hu, hru⟩ := exists_mem_left hrows.flip hr
    exact ⟨u, hu, hru⟩
  have hstore : (e.run caller (.update q)).2.store = (Storage.commit e.store caller.database
      (if updated.countP (·.changed) = 0 then [] else
        [.replace q.table (updated.map (·.record))])).2 := by rw [hcommit]
  have hleft : ∃ now, (e.run caller (.update q)).2.store.records.get? (caller.database, q.table) = some now ∧
      Record.rows now = Record.rows ((Record.rows records).map (q.after d assigned)) ∧
      ∀ r ∈ Record.rows records, d.picks q.conditions r = true → q.after d assigned r ∈ now := by
    rw [hstore]
    by_cases hcount : updated.countP (·.changed) = 0
    · rw [if_pos hcount]
      have hunpicked : ∀ r ∈ Record.rows records, ¬ d.picks q.conditions r = true := by
        intro r hr
        obtain ⟨u, hu, hru⟩ := hupdates r hr
        have hchanged := List.countP_eq_zero.mp hcount u hu
        rwa [UpdateRows.update_eq_after hru] at hchanged
      have hsame : (Record.rows records).map (q.after d assigned) = Record.rows records :=
        (List.map_congr_left fun r hr => if_neg (hunpicked r hr)).trans (List.map_id _)
      refine ⟨records, hrecords, ?_, fun r hr hp => absurd hp (hunpicked r hr)⟩
      rw [hsame]
      simp [Record.rows, List.filter_filter]
    · rw [if_neg hcount, Storage.commit_single, UpdateRows.map_after hupdate]
      refine ⟨_, ?_, rfl, fun r hr _ => List.mem_map_of_mem hr⟩
      rw [Memory.records_edit, Edit.table, if_pos rfl, Edit.recordsAfter]
  obtain ⟨now, hnow, hnowRows, hwritten⟩ := hleft
  refine ⟨d, assigned, records, now, (Snapshot.open_eq_ok.mp hopen).1, hpositions, hrecords, hnow,
    hnowRows, hwritten, fun r hr => ?_, fun r hr hp => ?_⟩
  · obtain ⟨u, -, hru⟩ := hupdates r hr
    exact ⟨u, hru⟩
  · obtain ⟨u, hu, hru⟩ := hupdates r hr
    obtain ⟨pre, post, heq⟩ := List.append_of_mem hu
    have hu' := UpdateRows.update_eq_after hru
    have hchecked := UpdateRows.checkChanged_eq_ok.mp hcheck pre u post heq (by rw [hu', hp])
    rw [hu', UpdateRows.fields_after hru hp] at hchecked
    exact ⟨_, hchecked⟩

end Leuit
