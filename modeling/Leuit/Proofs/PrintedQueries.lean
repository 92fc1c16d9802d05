import Leuit.Proofs.PrintedClauses

/-! Reading undoes printing (`Command.ofText_printed`): a command that can be written is what its text is
read as, whatever spellings are chosen, whichever words are left out, and in whatever order the clauses
stand. -/
namespace Leuit

/-! ### Creating -/

theorem flagValue?_flag (action other : Action) (roles : String) :
    flagValue? action.flag (other.flag ++ roles) = if action = other then some roles else none := by
  have hread : readFlag.toList = ['-', '-', 'r', 'e', 'a', 'd', '='] ∧ readFlag.length = 7 := ⟨rfl, rfl⟩
  have hwrite : writeFlag.toList = ['-', '-', 'w', 'r', 'i', 't', 'e', '='] ∧ writeFlag.length = 8 := ⟨rfl, rfl⟩
  cases action <;> cases other <;> simp [flagValue?, Action.flag, hread, hwrite]

theorem NameSet.ofList_names (s : NameSet) : NameSet.ofList s.names = s :=
  NameSet.ext_mem fun _ => NameSet.mem_ofList

theorem flagRoles?_printed {columns : String} {p : Permissions} (action : Action)
    (hcolumns : flagValue? action.flag columns = none)
    (hroles : ∀ role ∈ (p.roles action).names, Identifier role) :
    flagRoles? action.flag (columns :: Action.all.map (printedFlag p)) = some (p.roles action) := by
  have hvalues : (columns :: Action.all.map (printedFlag p)).filterMap (flagValue? action.flag) =
      [",".intercalate (p.roles action).names] := by
    cases action <;> simp [Action.all, printedFlag, flagValue?_flag, hcolumns]
  rw [flagRoles?, hvalues, List.getLast?_singleton, Option.map_some, commaList_intercalate hroles,
    NameSet.ofList_names]

/-- Flags are words of a query. -/
theorem word_printedFlag {p : Permissions} {action : Action}
    (hroles : ∀ role ∈ (p.roles action).names, Identifier role) : Text.Word (printedFlag p action) := by
  have hflag : Text.Word action.flag := by cases action <;> decide
  have hlist : (printedFlag p action).toList =
      action.flag.toList ++ [','].intercalate ((p.roles action).names.map String.toList) := by
    simp [printedFlag, String.toList_intercalate]
  refine ⟨fun hempty => ?_, fun c hc => ?_⟩
  · rw [hempty] at hlist
    exact hflag.nonempty (String.toList_eq_nil_iff.mp (List.append_eq_nil_iff.mp hlist.symm).1)
  · rw [hlist, List.mem_append] at hc
    rcases hc with hc | hc
    · exact hflag.bare c hc
    · rcases Text.mem_intercalate hc with rfl | ⟨piece, hpiece, hmem⟩
      · decide
      · obtain ⟨role, hrole, rfl⟩ := List.mem_map.mp hpiece
        exact (hroles role hrole).isWord.bare c hmem

namespace CreateTable
variable {q : CreateTable}

theorem Writable.flagValue? (hw : q.Writable) (action : Action) : flagValue? action.flag q.columns = none := by
  have hflag := hw.unflagged
  rw [isFlag, Bool.or_eq_false_iff] at hflag
  cases action with
  | read => exact Option.isSome_eq_false_iff.mp hflag.1 |> Option.isNone_iff_eq_none.mp
  | write => exact Option.isSome_eq_false_iff.mp hflag.2 |> Option.isNone_iff_eq_none.mp

theorem Writable.filter_flags (hw : q.Writable) : (q.columns :: q.flags).filter (!isFlag ·) = [q.columns] := by
  have hflags : ∀ word ∈ q.flags, isFlag word = true := by
    intro word hword
    obtain ⟨p, -, hword⟩ := List.mem_flatMap.mp hword
    obtain ⟨action, -, rfl⟩ := List.mem_map.mp hword
    cases action with
    | read => simp [isFlag, printedFlag, show readFlag = Action.read.flag from rfl, flagValue?_flag]
    | write => simp [isFlag, printedFlag, show writeFlag = Action.write.flag from rfl, flagValue?_flag]
  rw [List.filter_cons_of_pos (by simp [hw.unflagged]), List.filter_eq_nil_iff.mpr]
  exact fun word hword => by simp [hflags word hword]

theorem Writable.flagPermissions (hw : q.Writable) :
    flagPermissions (q.columns :: q.flags) = q.permissions := by
  unfold Leuit.flagPermissions flags
  cases hp : q.permissions with
  | none =>
    have hnone : ∀ action : Action, flagRoles? action.flag [q.columns] = none := fun action =>
      flagRoles?_eq_none.mpr (List.forall_mem_singleton.mpr (hw.flagValue? action))
    have hread : flagRoles? readFlag [q.columns] = none := hnone .read
    have hwrite : flagRoles? writeFlag [q.columns] = none := hnone .write
    simp [hread, hwrite]
  | some p =>
    have hroles : ∀ action : Action,
        flagRoles? action.flag (q.columns :: Action.all.map (printedFlag p)) = some (p.roles action) :=
      fun action => flagRoles?_printed action (hw.flagValue? action) (hw.roles p hp action)
    have hread : flagRoles? readFlag _ = some p.readers := hroles .read
    have hwrite : flagRoles? writeFlag _ = some p.writers := hroles .write
    simp [hread, hwrite, Permissions.set]

theorem Writable.forall_word (hw : q.Writable) : ∀ word ∈ q.table :: q.columns :: q.flags, Text.Word word := by
  refine List.forall_mem_cons.mpr ⟨hw.table.isWord, List.forall_mem_cons.mpr ⟨hw.columns, fun word hword => ?_⟩⟩
  obtain ⟨p, hp, hword⟩ := List.mem_flatMap.mp hword
  obtain ⟨action, -, rfl⟩ := List.mem_map.mp hword
  exact word_printedFlag (hw.roles p (Option.mem_toList.mp hp) action)

theorem ofWords_printed (hw : q.Writable) : CreateTable.ofWords (q.table :: q.columns :: q.flags) = .ok q := by
  unfold CreateTable.ofWords
  dsimp only
  rw [if_neg (by simp [Keyword.isSpelled_of_none hw.table.free])]
  dsimp only
  rw [hw.filter_flags, hw.flagPermissions]
  simp [String.join]

end CreateTable

/-! ### Inserting, updating and deleting -/

theorem InsertRow.ofWords_printed {q : InsertRow} (hw : q.Writable) :
    InsertRow.ofWords (q.table :: Text.words q.record) = .ok q := by
  cases hwords : Text.words q.record with
  | nil =>
    have hspaced := hw.spaced
    rw [hwords] at hspaced
    exact absurd hspaced.symm hw.nonempty
  | cons word rest => rw [InsertRow.ofWords, ← hwords, hw.spaced]

theorem assignment?_printed {pair : String × String} (h : Assignable pair) :
    assignment? (printedAssignment pair) = some pair := by
  have hcut : Text.cut? '=' (printedAssignment pair) = some (pair.1, Text.quoted pair.2) :=
    Text.cut?_eq_some.mpr ⟨by simp [printedAssignment], h.single⟩
  have hcolumn : Text.trim pair.1 = pair.1 := h.column.isWord.bare.trim
  have hliteral : Text.trim (Text.quoted pair.2) = Text.quoted pair.2 := (Text.bare_quoted h.literal).trim
  rw [assignment?, hcut]
  dsimp only
  rw [hcolumn, hliteral, Text.stripQuotes_quoted h.literal, if_pos h.column.isWord.nonempty]

theorem Assignable.token {allowed : Keyword → Prop} {pair : String × String} (h : Assignable pair) :
    Token allowed (printedAssignment pair) := by
  have hlist : (printedAssignment pair).toList = pair.1.toList ++ '=' :: (Text.quoted pair.2).toList := by
    simp [printedAssignment]
  have hequals : '=' ∈ (printedAssignment pair).toList := by simp [hlist]
  refine .of_none ⟨fun hempty => ?_, fun c hc => ?_⟩
      (Keyword.ofWord?_of_mem (by decide +kernel) (by decide +kernel) hequals)
  · rw [hempty] at hequals
    cases hequals
  · rw [hlist, List.mem_append, List.mem_cons] at hc
    rcases hc with hc | rfl | hc
    · exact h.column.isWord.bare c hc
    · decide
    · exact Text.bare_quoted h.literal c hc

theorem Assignable.comma_not_mem {pair : String × String} (h : Assignable pair) :
    ',' ∉ (printedAssignment pair).toList := by
  simp [printedAssignment, Text.quoted, h.column.unmarked, h.unmarked]

namespace UpdateRows
variable {q : UpdateRows}

theorem Writable.token_assignments (hw : q.Writable) :
    Token (fun _ => False) (",".intercalate (q.assignments.map printedAssignment)) := by
  refine .commas (by simpa using hw.nonempty) fun word hword => ?_
  obtain ⟨pair, hpair, rfl⟩ := List.mem_map.mp hword
  exact (hw.assignments pair hpair).token

theorem Writable.filterMap_assignments (hw : q.Writable) :
    (Text.split ',' (",".intercalate (q.assignments.map printedAssignment))).filterMap assignment? =
      q.assignments := by
  have hsplit : Text.split ',' (",".intercalate (q.assignments.map printedAssignment)) =
      q.assignments.map printedAssignment := by
    refine Text.split_of_intercalate (by simp [String.toList_intercalate]) (by simpa using hw.nonempty) ?_
    intro piece hpiece
    obtain ⟨pair, hpair, rfl⟩ := List.mem_map.mp hpiece
    exact (hw.assignments pair hpair).comma_not_mem
  have hread : q.assignments.filterMap (assignment? ∘ printedAssignment) = q.assignments.filterMap some :=
    List.filterMap_congr fun pair hpair => assignment?_printed (hw.assignments pair hpair)
  rw [hsplit, List.filterMap_map, hread, List.filterMap_some]

theorem ofWords_printed {set : String} {words : List String} (hw : q.Writable)
    (hset : Keyword.set.SpelledAs set) (hwords : Condition.PrintsEnd q.conditions words) :
    UpdateRows.ofWords (q.table :: set :: ",".intercalate (q.assignments.map printedAssignment) :: words) =
      .ok q := by
  have hassigned : Keyword.where.isSpelled (",".intercalate (q.assignments.map printedAssignment)) = false :=
    hw.token_assignments.isSpelled not_false
  have htake : (",".intercalate (q.assignments.map printedAssignment) :: words).takeWhile
      (!Keyword.where.isSpelled ·) = [",".intercalate (q.assignments.map printedAssignment)] := by
    rw [List.takeWhile_cons_of_pos (by simp [hassigned]), hwords.split.1]
  have hdrop : (",".intercalate (q.assignments.map printedAssignment) :: words).dropWhile
      (!Keyword.where.isSpelled ·) = words := by
    rw [List.dropWhile_cons_of_pos (by simp [hassigned]), hwords.split.2]
  unfold UpdateRows.ofWords
  dsimp only
  rw [if_pos hset.isSpelled, htake, hdrop, String.intercalate_singleton, hw.filterMap_assignments,
    hwords.listOfWords hw.conditions]
  obtain ⟨table, assignments, conditions⟩ := q
  cases assignments with
  | nil => exact absurd rfl hw.nonempty
  | cons pair rest => rfl

end UpdateRows

theorem DeleteRows.ofWords_printed {q : DeleteRows} {word : String} {words : List String} (hw : q.Writable)
    (hword : Keyword.from.SpelledAs word) (hwords : Condition.PrintsEnd q.conditions words) :
    DeleteRows.ofWords (word :: q.table :: words) = .ok q := by
  unfold DeleteRows.ofWords
  dsimp only
  rw [if_pos hword.isSpelled]
  obtain ⟨table, conditions⟩ := q
  cases hwords with
  | absent => rfl
  | present hwhere hwords =>
    dsimp only
    rw [if_pos hwhere.isSpelled, hwords.listOfWords hw.conditions]
    rfl

/-! ### Commands -/

namespace Command
variable {command : Command} {pieces : List String}

theorem ofText_of_verb {k : Keyword} {verb : String} (hverb : k.SpelledAs verb) (pieces : List String) :
    ofText (" ".intercalate (verb :: pieces) ++ ";") = ofWords (verb :: pieces.flatMap Text.words) := by
  unfold ofText
  rw [queryWords_intercalate hverb.isWord]

/-- **Reading undoes printing.** A command that can be written is what its pieces, with spaces between them
and a semicolon at the end, are read as. -/
theorem ofText_printed (hw : command.Writable) (h : command.Prints pieces) :
    ofText (" ".intercalate pieces ++ ";") = .ok command := by
  cases h with
  | create hverb =>
    rw [ofText_of_verb hverb, Text.flatMap_words hw.forall_word, ofWords, hverb.ofWord?]
    exact congrArg (Except.map create) (CreateTable.ofWords_printed hw)
  | @insert q verb hverb =>
    have hwords : [q.table, q.record].flatMap Text.words = q.table :: Text.words q.record := by
      simp [hw.table.isWord.words]
    rw [ofText_of_verb hverb, hwords, ofWords, hverb.ofWord?]
    exact congrArg (Except.map insert) (InsertRow.ofWords_printed hw)
  | select hverb hwords =>
    rw [ofText_of_verb hverb, Text.flatMap_words (hwords.forall_word hw), ofWords, hverb.ofWord?]
    exact congrArg (Except.map select) (hwords.ofWords hw)
  | @update q verb set words hverb hset hwords =>
    have hall : ∀ word ∈ q.table :: set :: ",".intercalate (q.assignments.map printedAssignment) :: words,
        Text.Word word :=
      List.forall_mem_cons.mpr ⟨hw.table.isWord, List.forall_mem_cons.mpr ⟨hset.isWord,
        List.forall_mem_cons.mpr ⟨hw.token_assignments.isWord, hwords.forall_word hw.conditions⟩⟩⟩
    rw [ofText_of_verb hverb, Text.flatMap_words hall, ofWords, hverb.ofWord?]
    exact congrArg (Except.map update) (UpdateRows.ofWords_printed hw hset hwords)
  | @delete q verb word words hverb hword hwords =>
    have hall : ∀ w ∈ word :: q.table :: words, Text.Word w :=
      List.forall_mem_cons.mpr ⟨hword.isWord, List.forall_mem_cons.mpr ⟨hw.table.isWord,
        hwords.forall_word hw.conditions⟩⟩
    rw [ofText_of_verb hverb, Text.flatMap_words hall, ofWords, hverb.ofWord?]
    exact congrArg (Except.map delete) (DeleteRows.ofWords_printed hw hword hwords)

/-- A selection with a clause of every kind. -/
def census : SelectRows where
  table := "warga"
  fields := ["nama", "kota.nama"]
  joins := [⟨.left, "kota", ⟨"warga.kota", .eq, "kota.id", none⟩⟩]
  conditions := [⟨"umur", .ge, "17", some .and⟩, ⟨"nama", .like, "a%", none⟩]
  sorting := some ⟨"nama", true⟩
  limit := some 10
  offset := 2

theorem census_writable : census.Writable where
  table := by decide +kernel
  nonempty := by decide
  fields := by decide +kernel
  joins := List.forall_mem_singleton.mpr ⟨by decide +kernel, ⟨by decide +kernel, by decide +kernel⟩, rfl⟩
  conditions := List.forall_mem_cons.mpr ⟨⟨by decide +kernel, by decide +kernel⟩,
    List.forall_mem_singleton.mpr ⟨by decide +kernel, by decide +kernel⟩⟩
  sorting := by decide +kernel
  limit := by decide +kernel
  offset := by decide +kernel

theorem ofText_printed_census :
    ofText ("tenjo nama,kota.nama TI warga LIWATAN 2 where umur >= '17' Sareng nama jiga 'a%' kenca GABUNG " ++
      "kota dina warga.kota == 'kota.id' RUNTUYKEUN nama turun Limit 10;") = .ok (.select census) := by
  have hoffset : (Clause.offset 2).Prints ["LIWATAN", toString 2] := .offset (by decide +kernel)
  have hconditions : (Clause.conditions census.conditions).Prints
      ["where", "umur", ">=", Text.quoted "17", "Sareng", "nama", "jiga", Text.quoted "a%"] :=
    .conditions (by decide +kernel)
      (.cons (c := ⟨"umur", .ge, "17", some .and⟩) (by decide +kernel)
        (show Connective.Prints (some .and) ["Sareng"] from .some (by decide +kernel))
        (.cons (c := ⟨"nama", .like, "a%", none⟩) (by decide +kernel) .none .nil))
  have hjoin : (Clause.join ⟨.left, "kota", ⟨"warga.kota", .eq, "kota.id", none⟩⟩).Prints
      ["kenca", "GABUNG", "kota", "dina", "warga.kota", "==", Text.quoted "kota.id"] :=
    .join (j := ⟨.left, "kota", ⟨"warga.kota", .eq, "kota.id", none⟩⟩) (show JoinKind.left.Prints ["kenca"] from .named (by decide +kernel))
      (show Keyword.join.SpelledAs "GABUNG" by decide +kernel)
      (show Keyword.on.SpelledAs "dina" by decide +kernel)
      (show Operator.eq.SpelledAs "==" by decide +kernel)
  have hsorting : (Clause.sorting ⟨"nama", true⟩).Prints ["RUNTUYKEUN", "nama", "turun"] :=
    .descending (by decide +kernel) .absent (by decide +kernel)
  have hlimit : (Clause.limit 10).Prints ["Limit", toString 10] := .limit (by decide +kernel)
  have harranged : census.Arranged [.offset 2, .conditions census.conditions,
      .join ⟨.left, "kota", ⟨"warga.kota", .eq, "kota.id", none⟩⟩, .sorting ⟨"nama", true⟩, .limit 10] :=
    ⟨by decide +kernel, rfl⟩
  have hread : ofText _ = .ok (.select census) := ofText_printed census_writable <|
    .select (show Keyword.select.SpelledAs "tenjo" by decide +kernel) <|
      .fields (show Keyword.from.SpelledAs "TI" by decide +kernel) harranged <|
        .cons hoffset <| .cons hconditions <| .cons hjoin <| .cons hsorting <| .cons hlimit .nil
  refine Eq.trans (congrArg ofText ?_) hread
  decide +kernel

end Command

end Leuit
