import Leuit.Proofs.LockSets
import Leuit.Proofs.Numerals
import Leuit.Proofs.SameRows
import Leuit.Proofs.Updates

/-! The rows of a table before and after an update. The rows afterwards are those before, one by one and in
order, with the assigned texts in those that the conditions pick (`UpdateRows.Rewrites`), unless the update
makes rows blank. It can do so only where a table has a single column, by a blank text for that column
(`UpdateRows.Erases`), and then every row that it picks is gone
(`Engine.updated_rows_kept`). -/
namespace Leuit
open Outcome

/-! ### Records of one field -/

theorem Record.eq_of_fields_eq_singleton {record field : String} (h : fields record = [field]) :
    field = record := by
  obtain ⟨piece, hpiece, rfl⟩ := List.map_eq_singleton_iff.mp h
  have hjoined : ['|'].intercalate (record.toList.splitOn '|') = record.toList := List.intercalate_splitOn ..
  rw [hpiece, List.intercalate_singleton] at hjoined
  rw [hjoined, String.ofList_toList]

/-! ### The last assignment -/

namespace UpdateRows
variable {q : UpdateRows} {d : Definition} {assigned : List (Nat × String)} {record : String}
  {u : UpdatedRecord}

/-- The text that is assigned last to the column at a position. -/
def lastAssigned? (q : UpdateRows) (d : Definition) (i : Nat) : Option String :=
  (q.assignments.filter fun a => d.field? a.1 = some i).getLast?.map (·.2)

theorem assigned?_of_positions {assignments : List (String × String)}
    (h : q.positions d assignments = .ok assigned) (i : Nat) :
    assigned? assigned i = (assignments.filter fun a => d.field? a.1 = some i).getLast?.map (·.2) := by
  induction assignments generalizing assigned with
  | nil =>
    cases h
    rfl
  | cons first rest ih =>
    obtain ⟨column, text⟩ := first
    rw [positions] at h
    cases hcolumn : d.field? column with
    | none =>
      rw [hcolumn] at h
      cases h
    | some j =>
      rw [hcolumn, map_eq_ok] at h
      obtain ⟨others, hothers, rfl⟩ := h
      rw [assigned?_cons, ih hothers, List.filter_cons]
      by_cases hij : i = j
      · rw [if_pos hij, if_pos (by simp [hcolumn, hij]), List.getLast?_cons, Option.map_some]
        cases (rest.filter fun a => d.field? a.1 = some i).getLast? <;> rfl
      · rw [if_neg hij, if_neg (by simpa [hcolumn] using Ne.symm hij), Option.or_none]

/-! ### Rewritten rows -/

/-- What an update owes a row. -/
def Rewrites (q : UpdateRows) (d : Definition) (old new : String) : Prop :=
  if d.picks q.conditions old then
    ∀ i, (Record.fields new)[i]? = (Record.fields old)[i]?.map (q.lastAssigned? d i).getD
  else new = old

/-- The only column of a table is given a blank text. -/
def Erases (q : UpdateRows) (d : Definition) : Prop :=
  d.columns.length = 1 ∧ ∃ text, q.lastAssigned? d 0 = some text ∧ Text.allBlank text = true

theorem rewrites_after (hassigned : q.positions d q.assignments = .ok assigned)
    (hu : q.update d assigned record = .ok u) : q.Rewrites d record (q.after d assigned record) := by
  unfold Rewrites
  split
  · next hp =>
    intro i
    rw [fields_after hu hp, getElem?_assign, assigned?_of_positions hassigned, lastAssigned?]
  · next hp => exact if_neg hp

theorem length_fields_of_update (hu : q.update d assigned record = .ok u) :
    (Record.fields record).length = d.columns.length := by
  obtain ⟨fields, hfields, -, -⟩ := update_eq_ok.mp hu
  obtain ⟨rfl, hlen⟩ := Definition.fieldsOf_eq_ok.mp hfields
  exact hlen

/-- What becomes of a picked record of a single field: the text that is assigned, if any is. -/
theorem after_of_single (hassigned : q.positions d q.assignments = .ok assigned)
    (hu : q.update d assigned record = .ok u) (hp : d.picks q.conditions record = true)
    (hone : d.columns.length = 1) : q.after d assigned record = (q.lastAssigned? d 0).getD record := by
  obtain ⟨old, hold⟩ := List.length_eq_one_iff.mp ((length_fields_of_update hu).trans hone)
  obtain rfl := Record.eq_of_fields_eq_singleton hold
  have hnew : Record.fields (q.after d assigned old) = [(q.lastAssigned? d 0).getD old] := by
    rw [fields_after hu hp]
    apply List.ext_getElem?
    intro i
    rw [getElem?_assign, hold, assigned?_of_positions hassigned]
    cases i <;> rfl
  exact (Record.eq_of_fields_eq_singleton hnew).symm

/-- A row becomes blank only if the one field it has does. -/
theorem allBlank_after_iff (hassigned : q.positions d q.assignments = .ok assigned)
    (hu : q.update d assigned record = .ok u) (hrecord : Text.allBlank record = false) :
    Text.allBlank (q.after d assigned record) = true ↔ d.picks q.conditions record = true ∧ q.Erases d := by
  cases hp : d.picks q.conditions record with
  | false =>
    rw [after, if_neg (by simp [hp]), hrecord]
    simp
  | true =>
    constructor
    · intro hblank
      have hone : d.columns.length = 1 := by
        rw [← length_fields_of_update hu, ← length_assign assigned, ← fields_after hu hp,
          Record.fields_of_allBlank hblank, List.length_singleton]
      rw [after_of_single hassigned hu hp hone] at hblank
      cases htext : q.lastAssigned? d 0 with
      | none =>
        -- Nothing is assigned, and the record was not blank before.
        rw [htext, Option.getD_none, hrecord] at hblank
        cases hblank
      | some text => exact ⟨rfl, hone, text, htext, by rwa [htext] at hblank⟩
    · intro herased
      obtain ⟨-, hone, text, htext, hblank⟩ := herased
      rw [after_of_single hassigned hu hp hone, htext]
      exact hblank

end UpdateRows

/-! ### Rows after an update -/

theorem Record.not_allBlank_of_mem_rows {record : String} {records : List String} (h : record ∈ rows records) :
    Text.allBlank record = false := by
  simpa using (List.mem_filter.mp h).2

/-- The message of an update tells how many rows it changed. -/
theorem Answer.updated_inj {n m : Nat} (h : updated n = updated m) : n = m := by
  have htext : toString n ++ " row(s) updated" = toString m ++ " row(s) updated" := Answer.status.inj h
  have hdigits : Nat.toDigits 10 n = Nat.toDigits 10 m := by
    have hnumeral := (String.append_left_inj _).mp htext
    rw [Nat.toString_eq_repr, Nat.toString_eq_repr] at hnumeral
    rw [← Nat.toList_repr, ← Nat.toList_repr, hnumeral]
  have hvalue := Decimal.numeral?_toDigits n
  rw [hdigits, Decimal.numeral?_toDigits] at hvalue
  exact (Option.some.inj hvalue).symm

namespace Engine
variable {e : Engine Memory} {caller : Caller} {q : UpdateRows} {d : Definition}
  {assigned : List (Nat × String)} {records now : List String}

/-- What becomes of a row that is read for an update. -/
theorem Updated.allBlank_after_iff (h : e.Updated caller q d assigned records now) {record : String}
    (hrecord : record ∈ Record.rows records) :
    Text.allBlank (q.after d assigned record) = true ↔ d.picks q.conditions record = true ∧ q.Erases d := by
  obtain ⟨u, hu⟩ := h.updates record hrecord
  exact UpdateRows.allBlank_after_iff h.positions hu (Record.not_allBlank_of_mem_rows hrecord)

/-- An update that erases leaves the rows that it does not pick. -/
theorem Updated.rows_of_erases (h : e.Updated caller q d assigned records now) (herases : q.Erases d) :
    Record.rows now = (Record.rows records).filter (!d.picks q.conditions ·) := by
  have hkept : (Record.rows records).filter ((!Text.allBlank ·) ∘ q.after d assigned) =
      (Record.rows records).filter (!d.picks q.conditions ·) := by
    refine List.filter_congr fun r hr => ?_
    have hblank := h.allBlank_after_iff hr
    simp only [herases, and_true] at hblank
    simp only [Function.comp, Bool.eq_iff_iff.mpr hblank]
  rw [h.rows, Record.rows, List.filter_map, hkept]
  refine (List.map_congr_left fun r hr => ?_).trans (List.map_id _)
  have hunpicked := (List.mem_filter.mp hr).2
  exact if_neg (by simpa using hunpicked)

/-- Any other update leaves what it makes of each row. -/
theorem Updated.rows_of_not_erases (h : e.Updated caller q d assigned records now)
    (hkeeps : (Record.rows records).countP (d.picks q.conditions) = 0 ∨ ¬ q.Erases d) :
    Record.rows now = (Record.rows records).map (q.after d assigned) := by
  rw [h.rows, Record.rows, List.filter_eq_self]
  intro line hline
  obtain ⟨r, hr, rfl⟩ := List.mem_map.mp hline
  have hblank : ¬ Text.allBlank (q.after d assigned r) = true := by
    rw [h.allBlank_after_iff hr]
    intro herased
    obtain ⟨hpicked, herases⟩ := herased
    rcases hkeeps with hnone | hnot
    · exact List.countP_eq_zero.mp hnone r hr hpicked
    · exact hnot herases
  simpa using hblank

/-- One by one the rows are kept exactly if there are as many as before. -/
theorem Updated.kept_iff (h : e.Updated caller q d assigned records now) :
    (List.Forall₂ (q.Rewrites d) (Record.rows records) (Record.rows now) ↔
        (Record.rows records).countP (d.picks q.conditions) = 0 ∨ ¬ q.Erases d) ∧
      ((Record.rows now).length = (Record.rows records).length ↔
        (Record.rows records).countP (d.picks q.conditions) = 0 ∨ ¬ q.Erases d) := by
  have hkept : ((Record.rows records).countP (d.picks q.conditions) = 0 ∨ ¬ q.Erases d) →
      List.Forall₂ (q.Rewrites d) (Record.rows records) (Record.rows now) := by
    intro hkeeps
    rw [h.rows_of_not_erases hkeeps, List.forall₂_map_right_iff, List.forall₂_same]
    intro r hr
    obtain ⟨u, hu⟩ := h.updates r hr
    exact UpdateRows.rewrites_after h.positions hu
  have hlength : (Record.rows now).length = (Record.rows records).length →
      (Record.rows records).countP (d.picks q.conditions) = 0 ∨ ¬ q.Erases d := by
    intro hlen
    by_cases herases : q.Erases d
    · have hsplit := List.length_eq_countP_add_countP (d.picks q.conditions) (l := Record.rows records)
      rw [h.rows_of_erases herases, ← List.countP_eq_length_filter] at hlen
      simp only [Bool.not_eq_true, Bool.decide_eq_false] at hsplit
      omega
    · exact .inr herases
  exact ⟨⟨fun hrows => hlength hrows.length_eq.symm, hkept⟩,
    ⟨hlength, fun hkeeps => (hkept hkeeps).length_eq.symm⟩⟩

/-! ### Running -/

/-- Every row that an update leaves has a field for each column. -/
theorem Updated.regular (h : e.Updated caller q d assigned records now) :
    d.Regular records ∧ d.Regular now := by
  have hbefore : d.Regular records := by
    intro r hr
    obtain ⟨u, hu⟩ := h.updates r hr
    exact UpdateRows.length_fields_of_update hu
  refine ⟨hbefore, fun line hline => ?_⟩
  rw [h.rows] at hline
  obtain ⟨r, hr, rfl⟩ := List.mem_map.mp (List.mem_of_mem_filter hline)
  obtain ⟨u, hu⟩ := h.updates r hr
  cases hp : d.picks q.conditions r with
  | true => rw [UpdateRows.fields_after hu hp, UpdateRows.length_assign, hbefore r hr]
  | false => rw [UpdateRows.after, if_neg (by simp [hp]), hbefore r hr]

/-- The answer to an update counts the rows that the conditions pick. -/
theorem Updated.answer_eq (h : e.Updated caller q d assigned records now) {answer : Answer}
    (hanswer : (e.run caller (.update q)).1 = .ok answer) :
    answer = .updated ((Record.rows records).countP (d.picks q.conditions)) := by
  obtain ⟨plan, hplan, -, rfl⟩ := run_eq_ok hanswer
  obtain ⟨d', assigned', found, updated, hopen, -, hfound, hupdate, -, rfl⟩ :=
    Command.planned_update.mp hplan
  cases h.loaded.symm.trans (Snapshot.open_eq_ok.mp hopen).1
  cases ((Memory.snapshot_records ..).mpr h.found).symm.trans hfound
  exact congrArg Answer.updated (UpdateRows.countP_changed hupdate)

/-- The selection of all rows of a table returns as many as there are. -/
theorem run_select_all {table : String} {reader : Caller}
    (hopen : (Storage.snapshot e.store reader.database).open table reader.role .read = .ok d)
    (hrecords : e.store.records.get? (reader.database, table) = some records) (hregular : d.Regular records) :
    ∃ result, (e.run reader (.select (.ofFields table ["*"]))).1 = .ok (.rows result) ∧
      result.rows.length = (Record.rows records).length := by
  have hrun := run_selected (q := .matching table ["*"] []) rfl hopen
    ((Memory.snapshot_records ..).mpr hrecords) hregular (SelectRows.result_matching_all _)
  refine ⟨_, hrun, ?_⟩
  simp [Relation.filter, Condition.holdsAll]

/-- Before and after an update a role that may read the table sees the rows there are. -/
theorem Updated.selected (h : e.Updated caller q d assigned records now) {reader : Caller}
    (hdatabase : reader.database = caller.database) (hread : d.permissions.allows reader.role .read = true) :
    ∃ before later : ResultSet,
      (e.run reader (.select (.ofFields q.table ["*"]))).1 = .ok (.rows before) ∧
      ((e.run caller (.update q)).2.run reader (.select (.ofFields q.table ["*"]))).1 = .ok (.rows later) ∧
      before.rows.length = (Record.rows records).length ∧ later.rows.length = (Record.rows now).length := by
  have hverb : (Command.update q).verb ≠ "CREATE" := show "UPDATE" ≠ "CREATE" by decide
  have hloaded : (Storage.snapshot (e.run caller (.update q)).2.store reader.database).load q.table = .ok d := by
    rw [run_load hverb, hdatabase]
    exact h.loaded
  obtain ⟨hregular, hregular'⟩ := h.regular
  obtain ⟨before, hbefore, hlength⟩ := run_select_all
    (Snapshot.open_eq_ok.mpr ⟨hdatabase ▸ h.loaded, hread⟩) (hdatabase ▸ h.found) hregular
  obtain ⟨later, hlater, hlength'⟩ := run_select_all
    (Snapshot.open_eq_ok.mpr ⟨hloaded, hread⟩) (hdatabase ▸ h.left) hregular'
  exact ⟨before, later, hbefore, hlater, hlength, hlength'⟩

/-- What a table is like before and after an update that reports `n` rows. -/
structure RowsUpdated (e after : Engine Memory) (database : String) (q : UpdateRows) (n : Nat)
    (d : Definition) (records now : List String) : Prop where
  loaded : (Storage.snapshot e.store database).load q.table = .ok d
  found : e.store.records.get? (database, q.table) = some records
  left : after.store.records.get? (database, q.table) = some now
  count : n = (Record.rows records).countP (d.picks q.conditions)
  /-- The rows are those before, one by one and in order, unless some were picked and made blank. -/
  kept : List.Forall₂ (q.Rewrites d) (Record.rows records) (Record.rows now) ↔ n = 0 ∨ ¬ q.Erases d
  erased : q.Erases d → Record.rows now = (Record.rows records).filter (!d.picks q.conditions ·)
  /-- So it is with the number of rows that a role that may read the table gets to see. -/
  selected : ∀ reader : Caller, reader.database = database →
    d.permissions.allows reader.role .read = true → ∃ before later : ResultSet,
      (e.run reader (.select (.ofFields q.table ["*"]))).1 = .ok (.rows before) ∧
      (after.run reader (.select (.ofFields q.table ["*"]))).1 = .ok (.rows later) ∧
      (later.rows.length = before.rows.length ↔ n = 0 ∨ ¬ q.Erases d)

/-- **An update changes what it says, and keeps every row that it does not make blank.** In any store in
memory: the rows that the conditions pick get the text assigned last to each column and keep their other
texts, the other rows stay as they are, and each row has its place. Rows are lost exactly if some are picked
in a table of a single column that is assigned a blank text, and then it is those that are picked. -/
theorem updated_rows_kept {query : String} {n : Nat} (hq : Command.ofText query = .ok (.update q))
    (h : (e.execute caller query).1 = .ok (.updated n)) :
    ∃ d records now, e.RowsUpdated (e.execute caller query).2 caller.database q n d records now := by
  rw [execute_of_ofText hq] at h ⊢
  obtain ⟨d, assigned, records, now, hupdated⟩ := run_update h
  have hcount := Answer.updated_inj (hupdated.answer_eq h)
  have hkept := hupdated.kept_iff
  rw [← hcount] at hkept
  refine ⟨d, records, now, hupdated.loaded, hupdated.found, hupdated.left, hcount, hkept.1,
    hupdated.rows_of_erases, fun reader hdatabase hread => ?_⟩
  obtain ⟨before, later, hbefore, hlater, hlength, hlength'⟩ := hupdated.selected hdatabase hread
  refine ⟨before, later, hbefore, hlater, ?_⟩
  rw [hlength, hlength']
  exact hkept.2

/-- A table of notes, and one of a single column. -/
def notes : Memory where
  schemas := ⟨[(("kantor", "catetan"), "id:INT|eusi:TEXT\nuser=read,write\n"),
    (("kantor", "t"), "a:STRING\nuser=read,write\n")]⟩
  records := ⟨[(("kantor", "catetan"), ["1|kopi", "", " 2 | teh ", "3|"]), (("kantor", "t"), ["x", "y"])]⟩

theorem updated_rows_kept_notes :
    let caller : Caller := ⟨"asep", "user", "kantor"⟩
    let query := "OMEAN catetan JADI eusi=gula, id=7, catetan.eusi= DIMANA id = 2 ATAWA id = 3"
    let q : UpdateRows := ⟨"catetan", [("eusi", "gula"), ("id", "7"), ("catetan.eusi", "")],
      [⟨"id", .eq, "2", some .or⟩, ⟨"id", .eq, "3", none⟩]⟩
    Command.ofText query = .ok (.update q) ∧ ((ofStore notes).execute caller query).1 = .ok (.updated 2) ∧
      ∃ d records now, (ofStore notes).RowsUpdated ((ofStore notes).execute caller query).2 "kantor" q 2
        d records now := by
  intro caller query q
  have hq : Command.ofText query = .ok (.update q) := by decide +kernel
  have hrun : ((ofStore notes).execute caller query).1 = .ok (.updated 2) := by decide +kernel
  exact ⟨hq, hrun, updated_rows_kept hq hrun⟩

/-- **An update may make rows vanish.** The row is reported as updated, is a blank line from then on, and no
selection finds it. -/
theorem update_loses_row :
    let caller : Caller := ⟨"asep", "user", "kantor"⟩
    let after := (ofStore notes).execute caller "OMEAN t JADI a= DIMANA a = x"
    after.1 = .ok (.updated 1) ∧ notes.records.get? ("kantor", "t") = some ["x", "y"] ∧
      after.2.store.records.get? ("kantor", "t") = some ["", "y"] ∧
      ((ofStore notes).execute caller "TINGALI t").1 = .ok (.rows ⟨["t.a"], [[.text "x"], [.text "y"]]⟩) ∧
      (after.2.execute caller "TINGALI t").1 = .ok (.rows ⟨["t.a"], [[.text "y"]]⟩) := by
  decide +kernel

end Engine

end Leuit
