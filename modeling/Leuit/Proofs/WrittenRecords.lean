import Leuit.Proofs.CreatedTables
import Leuit.Proofs.RecordFiles
import Leuit.Proofs.Updates

/-! Records that commands write fit on a line each. The words of a query have no line ends in them, so
neither has the record that an insertion spells nor a text that an update assigns
(`Command.unbroken_texts`); and what a plan writes is made of these texts and of the records that were there
(`Command.written_unbroken`). -/
namespace Leuit
open Outcome

/-! ### Texts without line ends -/

namespace Text

/-- No character of the text ends a line. -/
def Unbroken (cs : List Char) : Prop := ∀ c ∈ cs, c ≠ '\n' ∧ c ≠ '\r'

theorem Unbroken.sublist {a b : List Char} (h : Unbroken b) (hsub : a.Sublist b) : Unbroken a :=
  fun c hc => h c (hsub.subset hc)

theorem Bare.unbroken {cs : List Char} (h : Bare cs) : Unbroken cs := by
  intro c hc
  constructor <;> rintro rfl <;> exact absurd (h _ hc) (by decide)

theorem unbroken_intercalate {sep : Char} (hsep : sep ≠ '\n' ∧ sep ≠ '\r') {pieces : List (List Char)}
    (h : ∀ piece ∈ pieces, Unbroken piece) : Unbroken ([sep].intercalate pieces) := by
  intro c hc
  rcases mem_intercalate hc with rfl | ⟨piece, hpiece, hmem⟩
  · exact hsep
  · exact h piece hpiece c hmem

theorem Unbroken.line {text : String} (h : Unbroken text.toList) : Line text :=
  ⟨fun hmem => (h _ hmem).1 rfl, fun hlast => (h _ (List.mem_of_getLast? hlast)).2 rfl⟩

end Text

/-! ### Texts of a command -/

namespace Command

/-- The texts of a command that are written to records. -/
def texts : Command → List String
  | insert q => [q.record]
  | update q => q.assignments.map (·.2)
  | _ => []

theorem unbroken_join {words : List String} (h : ∀ word ∈ words, Text.Bare word.toList) :
    Text.Unbroken (" ".intercalate words).toList := by
  rw [String.toList_intercalate]
  refine Text.unbroken_intercalate (by decide) fun piece hpiece => ?_
  obtain ⟨word, hword, rfl⟩ := List.mem_map.mp hpiece
  exact (h word hword).unbroken

theorem assignment?_sublist {s column field : String} (h : assignment? s = some (column, field)) :
    field.toList.Sublist s.toList := by
  unfold assignment? at h
  split at h
  · next before after hcut =>
    rw [Option.ite_none_right_eq_some, Option.some.injEq, Prod.mk.injEq] at h
    obtain ⟨-, -, rfl⟩ := h
    rw [Text.stripQuotes, String.toList_ofList, Text.toList_trim, (Text.cut?_eq_some.mp hcut).1]
    exact (Text.dropEnds_sublist.trans Text.dropEnds_sublist).trans
      ((List.sublist_cons_self ..).trans (List.sublist_append_right ..))
  · cases h

theorem unbroken_insert {words : List String} {q : InsertRow} (hbare : ∀ word ∈ words, Text.Bare word.toList)
    (h : InsertRow.ofWords words = .ok q) : Text.Unbroken q.record.toList := by
  match words with
  | table :: word :: rest =>
    cases h
    exact unbroken_join fun w hw => hbare w (List.mem_cons_of_mem table hw)

theorem unbroken_update {words : List String} {q : UpdateRows} (hbare : ∀ word ∈ words, Text.Bare word.toList)
    (h : UpdateRows.ofWords words = .ok q) : ∀ pair ∈ q.assignments, Text.Unbroken pair.2.toList := by
  unfold UpdateRows.ofWords at h
  split at h
  · next table set word rest =>
    split at h
    · dsimp only at h
      split at h
      · cases h
      · obtain ⟨conditions, -, rfl⟩ := map_eq_ok.mp h
        intro pair hpair
        dsimp only at hpair
        obtain ⟨piece, hpiece, hassigned⟩ := List.mem_filterMap.mp hpair
        have hjoined : Text.Unbroken (" ".intercalate ((word :: rest).takeWhile
            (!Keyword.where.isSpelled ·))).toList :=
          unbroken_join fun w hw => hbare w (List.mem_cons_of_mem table
            (List.mem_cons_of_mem set ((List.takeWhile_sublist _).subset hw)))
        exact hjoined.sublist ((assignment?_sublist hassigned).trans (Text.sublist_of_mem_split hpiece))
    · cases h
  · cases h

/-- The words of a query have no line ends, and neither have the texts made of them. -/
theorem unbroken_texts {s : String} {command : Command} (h : ofText s = .ok command) :
    ∀ text ∈ command.texts, Text.Unbroken text.toList := by
  obtain ⟨words, hwords, hcommand⟩ := ofText_eq_ok h
  have hbare := bare_of_queryWords hwords
  unfold ofWords at hcommand
  split at hcommand
  · cases hcommand
  · next verb rest =>
    have hrest : ∀ word ∈ rest, Text.Bare word.toList :=
      fun word hword => hbare word (List.mem_cons_of_mem verb hword)
    split at hcommand
    · obtain ⟨q, -, rfl⟩ := map_eq_ok.mp hcommand
      exact fun text htext => absurd htext List.not_mem_nil
    · obtain ⟨q, hq, rfl⟩ := map_eq_ok.mp hcommand
      intro text htext
      rw [List.mem_singleton.mp htext]
      exact unbroken_insert hrest hq
    · obtain ⟨q, -, rfl⟩ := map_eq_ok.mp hcommand
      exact fun text htext => absurd htext List.not_mem_nil
    · obtain ⟨q, hq, rfl⟩ := map_eq_ok.mp hcommand
      intro text htext
      obtain ⟨pair, hpair, rfl⟩ := List.mem_map.mp htext
      exact unbroken_update hrest hq pair hpair
    · obtain ⟨q, -, rfl⟩ := map_eq_ok.mp hcommand
      exact fun text htext => absurd htext List.not_mem_nil
    · cases hcommand

end Command

/-! ### Records of a plan -/

/-- The records that an edit writes. -/
def Edit.written : Edit → List String
  | append _ record => [record]
  | replace _ records => records
  | _ => []

namespace UpdateRows
variable {q : UpdateRows} {d : Definition} {assigned : List (Nat × String)}

theorem mem_assign {fields : List String} {field : String} (h : field ∈ assign assigned fields) :
    field ∈ fields ∨ ∃ i, (i, field) ∈ assigned := by
  induction assigned generalizing fields with
  | nil => exact .inl h
  | cons first rest ih =>
    rcases ih h with hmem | ⟨i, hmem⟩
    · rcases List.mem_or_eq_of_mem_set hmem with hmem | rfl
      · exact .inl hmem
      · exact .inr ⟨first.1, List.mem_cons_self⟩
    · exact .inr ⟨i, List.mem_cons_of_mem first hmem⟩

theorem positions_texts {assignments : List (String × String)}
    (h : q.positions d assignments = .ok assigned) {i : Nat} {text : String}
    (hmem : (i, text) ∈ assigned) : text ∈ assignments.map (·.2) := by
  induction assignments generalizing assigned with
  | nil =>
    cases h
    cases hmem
  | cons first rest ih =>
    obtain ⟨column, field⟩ := first
    rw [positions] at h
    split at h
    · cases h
    · obtain ⟨others, hothers, rfl⟩ := map_eq_ok.mp h
      rcases List.mem_cons.mp hmem with heq | hmem
      · cases heq
        exact List.mem_cons_self
      · exact List.mem_cons_of_mem _ (ih hothers hmem)

/-- A record after an update is made of its own text and of texts assigned. -/
theorem unbroken_after (htexts : ∀ i text, (i, text) ∈ assigned → Text.Unbroken text.toList) {record : String}
    (h : Text.Unbroken record.toList) : Text.Unbroken (q.after d assigned record).toList := by
  unfold after
  split
  · rw [Record.ofFields, String.toList_intercalate]
    refine Text.unbroken_intercalate (by decide) fun piece hpiece => ?_
    obtain ⟨field, hfield, rfl⟩ := List.mem_map.mp hpiece
    rcases mem_assign hfield with hmem | ⟨i, hmem⟩
    · exact h.sublist (Text.sublist_of_mem_split hmem)
    · exact htexts i field hmem
  · exact h

end UpdateRows

/-- What a plan writes has no line ends, if neither the texts of the command nor the stored records have. -/
theorem Command.written_unbroken {command : Command} {view : Snapshot} {caller : Caller} {plan : Plan}
    (h : command.planned view caller = .ok plan)
    (htexts : ∀ text ∈ command.texts, Text.Unbroken text.toList)
    (hstored : ∀ records, view.records command.table = .ok records →
      ∀ r ∈ records, Text.Unbroken r.toList) :
    ∀ edit ∈ plan.edits, ∀ r ∈ edit.written, Text.Unbroken r.toList := by
  intro edit hedit r hr
  cases command with
  | create q =>
    obtain ⟨columns, -, -, -, rfl⟩ := planned_create.mp h
    rcases List.mem_cons.mp hedit with rfl | hedit
    · cases hr
    · rw [List.mem_singleton.mp hedit] at hr
      cases hr
  | insert q =>
    obtain ⟨d, fields, -, -, -, rfl⟩ := planned_insert.mp h
    rw [List.mem_singleton.mp hedit] at hr
    rw [List.mem_singleton.mp hr]
    exact htexts _ List.mem_cons_self
  | select q =>
    obtain ⟨d, records, rows, joined, result, -, -, -, -, -, rfl⟩ := planned_select.mp h
    cases hedit
  | update q =>
    obtain ⟨d, assigned, records, updated, -, hpositions, hrecords, hupdate, -, rfl⟩ := planned_update.mp h
    dsimp only at hedit
    split at hedit
    · cases hedit
    · rw [List.mem_singleton.mp hedit, Edit.written, UpdateRows.map_after hupdate] at hr
      obtain ⟨old, hold, rfl⟩ := List.mem_map.mp hr
      exact UpdateRows.unbroken_after
        (fun i text hmem => htexts text (UpdateRows.positions_texts hpositions hmem))
        (hstored records hrecords old (List.mem_of_mem_filter hold))
  | delete q =>
    obtain ⟨d, records, -, hrecords, -, rfl⟩ := planned_delete.mp h
    dsimp only at hedit
    split at hedit
    · cases hedit
    · rw [List.mem_singleton.mp hedit] at hr
      exact hstored records hrecords r (List.mem_of_mem_filter (List.mem_of_mem_filter hr))

end Leuit
