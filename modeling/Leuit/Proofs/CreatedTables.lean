import Leuit.Proofs.Atomicity
import Leuit.Proofs.Definitions

/-! Created tables are loaded again. The words of a query have no blanks, so the columns of a new table
come from descriptors without blanks, and each store gives back the document it was given
(`DefiningStorage`). What may go wrong is the document: bars in the values of an enumeration or in a
foreign key are taken for ends of columns, and colons of a foreign key outside parentheses for ends of
constraints. A created table is loaded with its columns exactly if there are none of these
(`Column.Storable`). -/
namespace Leuit
open Outcome

/-! ### The words of a query -/

theorem Text.bare_of_mem_words {s word : String} (h : word ∈ words s) : Bare word.toList := by
  obtain ⟨piece, hpiece, rfl⟩ := List.mem_map.mp h
  rw [String.toList_ofList]
  exact of_mem_splitOnP (List.mem_filter.mp hpiece).1

theorem bare_of_queryWords {s : String} {words : List String} (h : queryWords s = .ok words) :
    ∀ word ∈ words, Text.Bare word.toList := by
  unfold queryWords at h
  dsimp only at h
  split at h
  · cases h
  · rw [Except.ok.injEq] at h
    subst h
    exact fun word hword => Text.bare_of_mem_words hword

/-- The table is the first word that is not the word for a table; the flags and the descriptors follow. -/
theorem CreateTable.ofWords_eq_ok {words : List String} {q : CreateTable} (h : ofWords words = .ok q) :
    ∃ before rest, words = before ++ q.table :: rest ∧
      (∀ word ∈ before, Keyword.create.isSpelled word = true) ∧
      q.columns = String.join (rest.filter (!isFlag ·)) ∧ q.permissions = flagPermissions rest := by
  unfold ofWords at h
  dsimp only at h
  split at h
  · cases h
  · next table rest hwords =>
    split at h
    · cases h
    · rw [Except.ok.injEq] at h
      subst h
      split at hwords
      · next first others =>
        split at hwords
        · next hspelled =>
          rw [hwords]
          exact ⟨[first], rest, rfl, fun word hword => List.mem_singleton.mp hword ▸ hspelled, rfl, rfl⟩
        · exact ⟨[], rest, hwords, fun word hword => absurd hword List.not_mem_nil, rfl, rfl⟩
      · cases hwords

theorem CreateTable.bare_columns {words : List String} {q : CreateTable}
    (hbare : ∀ word ∈ words, Text.Bare word.toList) (h : ofWords words = .ok q) :
    Text.Bare q.columns.toList := by
  obtain ⟨before, rest, rfl, -, hcolumns, -⟩ := ofWords_eq_ok h
  intro c hc
  rw [hcolumns, String.toList_join, List.mem_flatMap] at hc
  obtain ⟨word, hword, hmem⟩ := hc
  exact hbare word (List.mem_append_right _ (List.mem_cons_of_mem _ (List.mem_filter.mp hword).1)) c hmem

theorem Command.ofWords_create {words : List String} {q : CreateTable}
    (h : ofWords words = .ok (create q)) :
    ∃ verb rest, words = verb :: rest ∧ Keyword.ofWord? verb = some .create ∧
      CreateTable.ofWords rest = .ok q := by
  unfold ofWords at h
  split at h
  · cases h
  · next verb rest =>
    split at h
    · next hverb =>
      obtain ⟨found, hfound, heq⟩ := map_eq_ok.mp h
      rw [create.injEq] at heq
      exact ⟨verb, rest, rfl, hverb, heq ▸ hfound⟩
    · obtain ⟨_, -, heq⟩ := map_eq_ok.mp h
      cases heq
    · obtain ⟨_, -, heq⟩ := map_eq_ok.mp h
      cases heq
    · obtain ⟨_, -, heq⟩ := map_eq_ok.mp h
      cases heq
    · obtain ⟨_, -, heq⟩ := map_eq_ok.mp h
      cases heq
    · cases h

theorem Command.ofText_eq_ok {text : String} {command : Command} (h : ofText text = .ok command) :
    ∃ words, queryWords text = .ok words ∧ ofWords words = .ok command := by
  unfold ofText at h
  cases hwords : queryWords text with
  | error e =>
    simp only [hwords] at h
    cases h
  | ok words =>
    simp only [hwords] at h
    exact ⟨words, rfl, h⟩

/-- The column descriptors of a query have no blanks. -/
theorem Command.bare_columns {text : String} {q : CreateTable} (h : ofText text = .ok (create q)) :
    Text.Bare q.columns.toList := by
  obtain ⟨words, hwords, hcommand⟩ := ofText_eq_ok h
  obtain ⟨verb, rest, rfl, -, hcreate⟩ := ofWords_create hcommand
  exact CreateTable.bare_columns
    (fun word hword => bare_of_queryWords hwords word (List.mem_cons_of_mem verb hword)) hcreate

/-! ### Columns that can be stored -/

/-- A column that survives being stored: its values and its foreign key have no bar in them, and every
colon of the foreign key stands inside parentheses in the stored form. -/
structure Column.Storable (c : Column) : Prop where
  values : ∀ v ∈ c.type.values, '|' ∉ v.toList
  key : ∀ key ∈ c.foreignKey, '|' ∉ key.table.toList ∧ '|' ∉ key.column.toList
  keySealed : c.KeySealed

instance (c : Column) : Decidable c.KeySealed :=
  inferInstanceAs (Decidable (∀ key ∈ c.foreignKey,
    Text.isSealed ':' (c.depth + 1) key.describe.toList = true))

instance (c : Column) : Decidable c.Storable :=
  decidable_of_iff ((∀ v ∈ c.type.values, '|' ∉ v.toList) ∧
      (∀ key ∈ c.foreignKey, '|' ∉ key.table.toList ∧ '|' ∉ key.column.toList) ∧ c.KeySealed)
    ⟨fun ⟨hvalues, hkey, hsealed⟩ => ⟨hvalues, hkey, hsealed⟩,
      fun ⟨hvalues, hkey, hsealed⟩ => ⟨hvalues, hkey, hsealed⟩⟩

/-- Bars come from the values of an enumeration or from the foreign key. -/
theorem Column.bar_mem_describe {c : Column} (h : c.WellFormed) :
    '|' ∈ c.describe.toList ↔
      (∃ v ∈ c.type.values, '|' ∈ v.toList) ∨
        ∃ key ∈ c.foreignKey, '|' ∈ key.table.toList ∨ '|' ∈ key.column.toList := by
  rw [mem_describe_iff (by decide) (by decide)]
  have hname : '|' ∉ c.name.toList := fun hmem => ((nameAllowed_iff.mp h.name).2 _ hmem).2.2 rfl
  simp [hname]

theorem Column.storable_iff {c : Column} (h : c.WellFormed) :
    c.Storable ↔ '|' ∉ c.describe.toList ∧ c.KeySealed := by
  rw [bar_mem_describe h, not_or]
  constructor
  · rintro ⟨hvalues, hkey, hsealed⟩
    refine ⟨⟨?_, ?_⟩, hsealed⟩
    · rintro ⟨v, hv, hbar⟩
      exact hvalues v hv hbar
    · rintro ⟨key, hk, hbar | hbar⟩
      · exact (hkey key hk).1 hbar
      · exact (hkey key hk).2 hbar
  · rintro ⟨⟨hvalues, hkey⟩, hsealed⟩
    refine ⟨fun v hv hbar => hvalues ⟨v, hv, hbar⟩, fun key hk => ?_, hsealed⟩
    exact ⟨fun hbar => hkey ⟨key, hk, .inl hbar⟩, fun hbar => hkey ⟨key, hk, .inr hbar⟩⟩

/-- The columns of a new table are read back from its document exactly if each can be stored. -/
theorem Definition.decode_encode_iff {s : String} {columns : List Column} (hbare : Text.Bare s.toList)
    (h : Column.listOfText s = .ok columns) (table : String) (permissions : Permissions) :
    (∃ d, decode table (encode ⟨table, columns, permissions⟩) = .ok d ∧ d.columns = columns) ↔
      ∀ c ∈ columns, c.Storable := by
  obtain ⟨hne, hread⟩ := Column.listOfText_eq_ok hbare h
  obtain ⟨hwf, hline⟩ := Column.listOfText_oneLine hbare h
  refine (decode_encode_columns ⟨table, columns, permissions⟩ hne hwf hline).trans ?_
  rw [split_header_iff hne]
  refine forall₂_congr fun c hc => ?_
  obtain ⟨text, htext, hof⟩ := hread c hc
  rw [Column.storable_iff (hwf c hc), Column.ofText_describe_iff htext hof]

/-- A bar in a foreign key adds a column that was not asked for. -/
example :
    let c : Column := { Column.plain "a" .int with foreignKey := some ⟨"(t", "x)|b:INT:FK(u.y"⟩ }
    (Definition.decode "t" (Definition.encode ⟨"t", [c], .nobody⟩)).map (·.columns.map (·.name)) =
      .ok ["a", "b"] := by
  decide +kernel

/-! ### Stores -/

/-- A store in which a new table has the definition that was stored for it. -/
class DefiningStorage (σ : Type) [Storage σ] : Prop where
  defined : ∀ (store : σ) (database table document : String),
    (Storage.commit store database [.define table document, .provision table]).1 = .ok () →
    (Storage.snapshot (Storage.commit store database [.define table document, .provision table]).2
      database).schema table = .ok (some document)

instance : DefiningStorage Memory where
  defined store database table document _ := by
    rw [Storage.commit_cons _ _ _ rfl, Storage.commit_single, Memory.snapshot_schema]
    simp [Memory.schemas_edit, Edit.table, Edit.schemaAfter]

namespace Directory
variable {d : Directory} {database table : String}

theorem edit_eq_ok {e : Edit} (h : (d.edit database e).1 = .ok ()) :
    d.checkTable database e.table = .ok () ∧ (d.editFiles database e).1 = .ok () ∧
      (d.edit database e).2 = { d with tree := (d.editFiles database e).2 } := by
  cases hcheck : d.checkTable database e.table with
  | error fault =>
    unfold edit at h
    rw [hcheck] at h
    cases h
  | ok u =>
    rw [edit_of_checked hcheck] at h ⊢
    refine ⟨rfl, ?_, rfl⟩
    cases hfiles : (d.editFiles database e).1 with
    | ok u => rfl
    | error fault =>
      rw [hfiles] at h
      cases h

/-- A table is found where it was as long as the folders are there. -/
theorem checkTable_kept {tree : FileTree} (hkeep : d.tree.KeepsFolders tree)
    (h : d.checkTable database table = .ok ()) :
    ({ d with tree } : Directory).checkTable database table = .ok () := by
  unfold checkTable at h ⊢
  cases hdatabase : Definition.checkName "database" database with
  | error e => simp [hdatabase] at h
  | ok u =>
    cases htable : Definition.checkName "table" table with
    | error e => simp [hdatabase, htable] at h
    | ok u =>
      simp only [hdatabase, htable, check] at h ⊢
      by_cases hfolder : d.hasDatabase database = true
      · have hkept : ({ d with tree } : Directory).hasDatabase database = true := hkeep.isFolder hfolder
        rw [if_pos hkept]
      · rw [if_neg hfolder] at h
        cases h

theorem readSchema_of_read {text : String} (hcheck : d.checkTable database table = .ok ())
    (hread : d.tree.read (d.file database table schemaExtension) = .ok text) :
    d.readSchema database table = .ok (some text) := by
  unfold readSchema
  rw [hcheck, hread]

end Directory

instance : DefiningStorage Directory where
  defined store database table document h := by
    obtain ⟨hdefine, hprovision⟩ := Storage.commit_cons_eq_ok _ _ h
    rw [Storage.commit_single] at hprovision
    rw [Storage.commit_cons _ _ _ hdefine, Storage.commit_single]
    obtain ⟨hcheck, hreplaced, hdefined⟩ := Directory.edit_eq_ok (e := .define table document) hdefine
    obtain ⟨hread, hkeep⟩ := FileTree.read_replaced hreplaced
    change (Directory.edit (store.edit database (.define table document)).2 database
      (.provision table)).1 = .ok () at hprovision
    show Directory.readSchema (Directory.edit (store.edit database (.define table document)).2 database
      (.provision table)).2 database table = _
    obtain ⟨hcheck', -, hprovided⟩ := Directory.edit_eq_ok hprovision
    rw [hprovided]
    refine Directory.readSchema_of_read
      (Directory.checkTable_kept (FileTree.KeepsFolders.makeFile _ _) hcheck') (FileTree.read_makeFile ?_)
    rw [hdefined]
    exact hread

/-! ### Creating -/

namespace Engine
variable {σ : Type} [Storage σ]

/-- What is loaded after a table was created is what was stored for it. -/
theorem created_loads_iff [DefiningStorage σ] (e : Engine σ) (caller : Caller) {text : String}
    {q : CreateTable} (h : Command.ofText text = .ok (.create q)) {answer : Answer}
    (hanswer : (e.execute caller text).1 = .ok answer) :
    ∃ columns, Definition.checkName "table" q.table = .ok () ∧ Column.listOfText q.columns = .ok columns ∧
      ∀ d, (Storage.snapshot (e.execute caller text).2.store caller.database).load q.table = .ok d ↔
        Definition.decode q.table (Definition.encode ⟨q.table, columns, q.permissions.getD .standard⟩) =
          .ok d := by
  obtain ⟨command, hcommand, hrun⟩ := execute_eq_ok hanswer
  cases h.symm.trans hcommand
  rw [hrun] at hanswer ⊢
  obtain ⟨plan, hplan, hcommit, -⟩ := run_eq_ok hanswer
  obtain ⟨columns, hname, hcolumns, -, rfl⟩ := Command.planned_create.mp hplan
  have hschema := DefiningStorage.defined e.store caller.database q.table
    (Definition.encode ⟨q.table, columns, q.permissions.getD .standard⟩) (by rw [hcommit])
  rw [hcommit] at hschema
  refine ⟨columns, hname, hcolumns, fun d => ?_⟩
  rw [Snapshot.load_eq_ok]
  exact ⟨fun ⟨_, hs, hd⟩ => by cases hschema.symm.trans hs; exact hd, fun hd => ⟨_, hschema, hd⟩⟩

/-- What becomes of the columns of a new table: if the query is accepted, the table can be loaded with
the columns that were asked for exactly if each of them can be stored. -/
def ReadsBack (e : Engine σ) (caller : Caller) (text : String) (q : CreateTable) : Prop :=
  ∀ answer, (e.execute caller text).1 = .ok answer →
    ∃ columns, Column.listOfText q.columns = .ok columns ∧
      ((∃ d, (Storage.snapshot (e.execute caller text).2.store caller.database).load q.table = .ok d ∧
          d.columns = columns) ↔ ∀ c ∈ columns, c.Storable)

theorem readsBack_of_storage [DefiningStorage σ] (e : Engine σ) (caller : Caller) {text : String}
    {q : CreateTable} (h : Command.ofText text = .ok (.create q)) : e.ReadsBack caller text q := by
  intro answer hanswer
  obtain ⟨columns, -, hcolumns, hloads⟩ := created_loads_iff e caller h hanswer
  refine ⟨columns, hcolumns, ?_⟩
  rw [← Definition.decode_encode_iff (Command.bare_columns h) hcolumns q.table
    (q.permissions.getD .standard)]
  exact exists_congr fun d => and_congr_left fun _ => hloads d

/-- **A created table is loaded with its columns exactly if each of them can be stored.** This holds of a
store in memory and of a folder of files, whatever they hold. -/
theorem created_columns_read_back (caller : Caller) {text : String} {q : CreateTable}
    (h : Command.ofText text = .ok (.create q)) :
    (∀ e : Engine Memory, e.ReadsBack caller text q) ∧ ∀ e : Engine Directory, e.ReadsBack caller text q :=
  ⟨fun e => e.readsBack_of_storage caller h, fun e => e.readsBack_of_storage caller h⟩

/-- An enumeration that refers to another table. -/
def stateColumn : Column := { Column.plain "s" (.enum ["a", "b"]) with foreignKey := some ⟨"u", "v"⟩ }

theorem created_columns_read_back_states :
    let caller : Caller := ⟨"asep", superRole, "kantor"⟩
    let text := "DAMEL t s:ENUM(a,b):FK(u.v)"
    ((ofStore Memory.empty).execute caller text).1 = .ok (.created "t") ∧
      ∃ d, (Storage.snapshot ((ofStore Memory.empty).execute caller text).2.store "kantor").load "t" =
        .ok d ∧ d.columns = [stateColumn] := by
  intro caller text
  let q : CreateTable := ⟨"t", "s:ENUM(a,b):FK(u.v)", none⟩
  have hparsed : Command.ofText text = .ok (.create q) := by decide +kernel
  have haccepted : ((ofStore Memory.empty).execute caller text).1 = .ok (.created "t") := by
    rw [execute_of_ofText hparsed]
    decide +kernel
  have hasked : Column.listOfText q.columns = .ok [stateColumn] := by decide +kernel
  obtain ⟨columns, hcolumns, hiff⟩ :=
    (created_columns_read_back caller hparsed).1 (ofStore Memory.empty) _ haccepted
  cases hasked.symm.trans hcolumns
  exact ⟨haccepted, hiff.mpr (by decide)⟩

/-- A bar in a value of an enumeration is accepted, but then the table cannot be loaded. -/
theorem created_table_not_loaded :
    let caller : Caller := ⟨"asep", superRole, "kantor"⟩
    let text := "DAMEL t a:ENUM(x|y)"
    ((ofStore Memory.empty).execute caller text).1 = .ok (.created "t") ∧
      (Storage.snapshot ((ofStore Memory.empty).execute caller text).2.store "kantor").load "t" =
        .error (.syntaxFault (.unbalancedType "ENUM(x")) := by
  decide +kernel

end Engine

end Leuit
