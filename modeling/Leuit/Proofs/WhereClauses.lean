import Leuit.Proofs.SameRows
import Leuit.Proofs.StrictQueries

/-! Clauses that restrict a deletion or an update. What such a query means is what it means without its
clause, with the conditions that the words of the clause spell (`Command.Restrictable.ofWords_where`). Three
words are one condition or a fault, so a clause of three words or more is never passed over; a shorter one
spells no condition, and the query then concerns every row of the table
(`Command.where_clause_restricts`). -/
namespace Leuit
open Outcome

/-! ### Conditions of a clause -/

/-- A clause spells no condition only if it is too short for one. -/
theorem Condition.listOfWords_eq_nil_iff {words : List String} {conditions : List Condition}
    (h : listOfWords words = .ok conditions) : conditions = [] ↔ words.length < 3 := by
  rcases words with _ | ⟨field, _ | ⟨symbol, _ | ⟨literal, rest⟩⟩⟩
  case cons.cons.cons =>
    unfold listOfWords at h
    cases hsymbol : Operator.ofText symbol with
    | error fault => simp [hsymbol] at h
    | ok operator =>
      simp only [hsymbol, map_eq_ok] at h
      obtain ⟨others, -, rfl⟩ := h
      simp
  all_goals
    rw [listOfWords_short (by simp), Except.ok.injEq] at h
    simp [← h]

/-! ### Updates with and without a clause -/

namespace UpdateRows
variable {table word : String} {assigned rest : List String}

/-- The update of all rows that words between those for SET and WHERE spell. -/
def ofAssigned (table : String) (assigned : List String) : Except QueryError UpdateRows :=
  match (Text.split ',' (" ".intercalate assigned)).filterMap assignment? with
  | [] => .error (missing .update)
  | assignments => .ok ⟨table, assignments, []⟩

theorem ofWords_append (hword : Keyword.set.isSpelled word = true)
    (hassigned : ∀ w ∈ assigned, Keyword.where.isSpelled w = false)
    (hrest : ∀ w ∈ rest.head?, Keyword.where.isSpelled w = true) :
    ofWords (table :: word :: (assigned ++ rest)) =
      match ofAssigned table assigned with
      | .error fault => .error fault
      | .ok q => (Condition.listOfWords (rest.drop 1)).map fun conditions => { q with conditions } := by
  have hassigned : ∀ w ∈ assigned, (!Keyword.where.isSpelled w) = true := fun w hw => by simp [hassigned w hw]
  have htake : (assigned ++ rest).takeWhile (!Keyword.where.isSpelled ·) = assigned := by
    rw [List.takeWhile_append_of_pos hassigned]
    cases rest with
    | nil => simp
    | cons w rest => simp [hrest w rfl]
  have hdrop : (assigned ++ rest).dropWhile (!Keyword.where.isSpelled ·) = rest := by
    rw [List.dropWhile_append_of_pos hassigned]
    cases rest with
    | nil => rfl
    | cons w rest => simp [hrest w rfl]
  cases hall : assigned ++ rest with
  | nil =>
    -- Nothing follows, and an empty text assigns nothing.
    rw [(List.append_eq_nil_iff.mp hall).1]
    rfl
  | cons first others =>
    rw [hall] at htake hdrop
    simp only [ofWords, hword, if_true, htake, hdrop, ofAssigned]
    cases (Text.split ',' (" ".intercalate assigned)).filterMap assignment? <;> rfl

end UpdateRows

namespace Command

/-- The conditions of a command on the rows of a table. -/
def conditions : Command → List Condition
  | create _ | insert _ => []
  | select q => q.conditions
  | update q => q.conditions
  | delete q => q.conditions

/-- The words of a deletion up to its table, or those of an update up to the end of its assignments. -/
inductive Restrictable : List String → Prop
  | delete {verb word table : String} (hverb : Keyword.delete.isSpelled verb = true)
      (hword : Keyword.from.isSpelled word = true) : Restrictable [verb, word, table]
  | update {verb table word : String} {assigned : List String}
      (hverb : Keyword.update.isSpelled verb = true) (hword : Keyword.set.isSpelled word = true)
      (hassigned : ∀ w ∈ assigned, Keyword.where.isSpelled w = false) :
      Restrictable (verb :: table :: word :: assigned)

variable {written clause : List String} {word : String}

/-- What is written before a clause is at fault, or a command of which the clause changes the conditions
only. -/
theorem Restrictable.ofWords_where (h : Restrictable written) (hwhere : Keyword.where.isSpelled word = true)
    (clause : List String) :
    (∃ fault, ofWords written = .error fault ∧ ofWords (written ++ word :: clause) = .error fault) ∨
      ∃ restrict : List Condition → Command, (∀ cs, (restrict cs).conditions = cs) ∧
        ofWords written = .ok (restrict []) ∧
        ofWords (written ++ word :: clause) = (Condition.listOfWords clause).map restrict := by
  cases h with
  | @delete verb word table hverb hword =>
    refine .inr ⟨fun conditions => Command.delete ⟨table, conditions⟩, fun _ => rfl, ?_, ?_⟩
    · simp only [ofWords, of_decide_eq_true hverb, DeleteRows.ofWords, hword, if_true]
      rfl
    · simp only [List.cons_append, List.nil_append, ofWords, of_decide_eq_true hverb, DeleteRows.ofWords, hword,
        hwhere, if_true]
      cases Condition.listOfWords clause <;> rfl
  | @update verb table word assigned hverb hword hassigned =>
    have hbare : UpdateRows.ofWords (table :: word :: (assigned ++ [])) = _ :=
      UpdateRows.ofWords_append hword hassigned (by simp)
    have hclause : UpdateRows.ofWords (table :: word :: (assigned ++ _ :: clause)) = _ :=
      UpdateRows.ofWords_append hword hassigned (by simpa using hwhere)
    rw [List.append_nil, List.drop_nil, Condition.listOfWords_short (by simp)] at hbare
    rw [List.drop_succ_cons, List.drop_zero] at hclause
    simp only [List.cons_append, ofWords, of_decide_eq_true hverb, hbare, hclause]
    cases UpdateRows.ofAssigned table assigned with
    | error fault => exact .inl ⟨fault, rfl, rfl⟩
    | ok q =>
      refine .inr ⟨fun conditions => Command.update { q with conditions }, fun _ => rfl, rfl, ?_⟩
      cases Condition.listOfWords clause <;> rfl

/-- **A clause of three words or more restricts a deletion or an update, and a shorter one does not.** Whatever
the words after a word for WHERE are, the query is at fault or has conditions, if there are three of them at
least. Fewer words are passed over: the query is what it is without the clause, and has no conditions. -/
theorem where_clause_restricts {query : String} (hwords : queryWords query = .ok (written ++ word :: clause))
    (hwritten : Restrictable written) (hword : Keyword.where.isSpelled word = true) :
    ((∃ fault, ofText query = .error fault) ∨
      ∃ command, ofText query = .ok command ∧ (command.conditions ≠ [] ↔ 3 ≤ clause.length)) ∧
    (clause.length < 3 → ofText query = ofWords written) := by
  have hquery : ofText query = ofWords (written ++ word :: clause) := by
    unfold ofText
    rw [hwords]
  rw [hquery]
  rcases hwritten.ofWords_where hword clause with ⟨fault, hbare, hclause⟩ | ⟨restrict, hrestrict, hbare, hclause⟩
  · rw [hbare, hclause]
    exact ⟨.inl ⟨fault, rfl⟩, fun _ => rfl⟩
  · rw [hbare, hclause]
    constructor
    · cases hconditions : Condition.listOfWords clause with
      | error fault => exact .inl ⟨fault, rfl⟩
      | ok conditions =>
        have hnil := Condition.listOfWords_eq_nil_iff hconditions
        refine .inr ⟨restrict conditions, rfl, ?_⟩
        rw [hrestrict, Ne, hnil]
        omega
    · intro hshort
      rw [Condition.listOfWords_short (by omega)]
      rfl

theorem where_clause_restricts_homes :
    let query := "robih warga janten kota = 'Cianjur', umur=3 Where umur > 2 sareng"
    let written := ["robih", "warga", "janten", "kota", "=", "'Cianjur',", "umur=3"]
    queryWords query = .ok (written ++ "Where" :: ["umur", ">", "2", "sareng"]) ∧
      ((∃ fault, ofText query = .error fault) ∨
        ∃ command, ofText query = .ok command ∧
          (command.conditions ≠ [] ↔ 3 ≤ ["umur", ">", "2", "sareng"].length)) := by
  intro query written
  have hwords : queryWords query = .ok (written ++ "Where" :: ["umur", ">", "2", "sareng"]) := by decide +kernel
  have hwritten : Restrictable written := .update (by decide +kernel) (by decide +kernel) (by decide +kernel)
  exact ⟨hwords, (where_clause_restricts hwords hwritten (by decide +kernel)).1⟩

/-- **A clause of fewer words is passed over.** Written without blanks, a condition is one word: the deletion
of the rows with a number deletes every row, those with other numbers too. -/
theorem short_clause_deletes_all :
    let query := "MICEUN TI barang DIMANA id=1"
    let run := (Engine.ofStore Engine.stock).execute ⟨"asep", "user", "kantor"⟩ query
    queryWords query = .ok (["MICEUN", "TI", "barang"] ++ "DIMANA" :: ["id=1"]) ∧
      Restrictable ["MICEUN", "TI", "barang"] ∧ Keyword.where.isSpelled "DIMANA" = true ∧
      ofText query = .ok (.delete ⟨"barang", []⟩) ∧ run.1 = .ok (.deleted 3) ∧
      run.2.store.records.get? ("kantor", "barang") = some [] := by
  refine ⟨by decide +kernel, .delete (by decide +kernel) (by decide +kernel), ?_⟩
  decide +kernel

end Command

end Leuit
