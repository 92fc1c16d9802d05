import Leuit.Proofs.Pieces
import Leuit.Record
import Leuit.Store.Directory

/-! The text of a file of records. Such a text is empty or ends with a line, so what is added at its end
becomes further lines (`Text.lines_append`), and a list of records that was written is read back, but for a
single empty record, which leaves no line (`Directory.lines_recordText`). -/
namespace Leuit

/-! ### Lines -/

namespace Text
variable {text : String}

/-- A text that can be one line: no line feed is in it, and no carriage return at its end, which would be
dropped. -/
structure Line (text : String) : Prop where
  whole : '\n' ∉ text.toList
  last : text.toList.getLast? ≠ some '\r'

/-- A text that ends with a line, if it is not empty. -/
def Ended (text : String) : Prop := text = "" ∨ ∃ start, text = start ++ "\n"

theorem ended_append_line (text line : String) : Ended (text ++ (line ++ "\n")) :=
  .inr ⟨text ++ line, (String.append_assoc ..).symm⟩

/-- The lines before the last line feed, and what follows it. -/
theorem lines_of_splitOn {pieces : List (List Char)} {last : List Char}
    (h : text.toList.splitOn '\n' = pieces ++ [last]) :
    lines text = pieces.map (fun line => String.ofList (dropReturn line)) ++
      if last = [] then [] else [String.ofList last] := by
  unfold lines
  rw [h]
  simp only [List.dropLast_concat, List.getLast?_concat]
  cases last <;> simp

/-- Lines are added at the end of a text that ends with a line. -/
theorem lines_append (h : Ended text) (more : String) : lines (text ++ more) = lines text ++ lines more := by
  rcases h with rfl | ⟨start, rfl⟩
  · simp [lines]
  · have hpieces := (List.dropLast_concat_getLast (List.splitOn_ne_nil '\n' more.toList)).symm
    have hstart : (start ++ "\n").toList.splitOn '\n' = start.toList.splitOn '\n' ++ [[]] := by
      rw [String.toList_append]
      exact List.splitOn_append_cons_self ..
    have hwhole : (start ++ "\n" ++ more).toList.splitOn '\n' =
        start.toList.splitOn '\n' ++ more.toList.splitOn '\n' := by
      rw [String.toList_append, String.toList_append, List.append_assoc]
      exact List.splitOn_append_cons_self ..
    rw [hpieces, ← List.append_assoc] at hwhole
    rw [lines_of_splitOn hwhole, lines_of_splitOn hstart, lines_of_splitOn hpieces, if_pos rfl,
      List.append_nil, List.map_append, List.append_assoc]

theorem lines_line {line : String} (h : Line line) : lines (line ++ "\n") = [line] := by
  have hlines : lines (line ++ "\n" ++ "") = line :: lines "" := lines_cons h.whole h.last
  rwa [String.append_empty] at hlines

end Text

/-! ### Records -/

namespace Directory
variable {records : List String}

theorem intercalate_eq_empty : "\n".intercalate records = "" ↔ records = [] ∨ records = [""] := by
  rw [← String.toList_eq_nil_iff, String.toList_intercalate]
  match records with
  | [] => simp
  | [record] => simp
  | first :: second :: rest => simp [List.intercalate_cons_cons]

theorem recordText_of_intercalate (h : "\n".intercalate records ≠ "") :
    recordText records = "\n".intercalate records ++ "\n" := if_neg h

theorem ended_recordText (records : List String) : Text.Ended (recordText records) := by
  by_cases h : "\n".intercalate records = ""
  · exact .inl (if_pos h)
  · exact .inr ⟨_, recordText_of_intercalate h⟩

theorem lines_intercalate (hne : records ≠ []) (h : ∀ record ∈ records, Text.Line record) :
    Text.lines ("\n".intercalate records ++ "\n") = records := by
  induction records with
  | nil => exact absurd rfl hne
  | cons record rest ih =>
    obtain ⟨hrecord, hrest⟩ := List.forall_mem_cons.mp h
    by_cases hempty : rest = []
    · subst hempty
      rw [String.intercalate_singleton, Text.lines_line hrecord]
    · rw [String.intercalate_cons_of_ne_nil hempty, String.append_assoc, Text.lines_cons hrecord.whole
        hrecord.last, ih hempty hrest]

/-- Records that were written are read back. -/
theorem lines_recordText (h : ∀ record ∈ records, Text.Line record) (hempty : records ≠ [""]) :
    Text.lines (recordText records) = records := by
  by_cases hne : records = []
  · subst hne
    rfl
  · rw [recordText_of_intercalate (by simp [intercalate_eq_empty, hne, hempty]), lines_intercalate hne h]

theorem rows_recordText (h : ∀ record ∈ records, Text.Line record) :
    Record.rows (Text.lines (recordText records)) = Record.rows records := by
  by_cases hempty : records = [""]
  · subst hempty
    decide
  · rw [lines_recordText h hempty]

end Directory

end Leuit
