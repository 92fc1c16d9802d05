import Leuit.CommandLine.Run
import Leuit.Proofs.CreatedTables
import Leuit.Proofs.DataFolders

/-! What creating a table does to a data folder, whatever is in it. The definition is stored first, and room is
made for the records after that. The name of its file is the longest, so where it could be looked for the other
files can be named too (`Directory.unmade`); so the second step fails only where a folder, or a file that may
not be opened, stands in place of the records (`Directory.Torn`), and then the definition stays. In all other
cases a creation that fails changes nothing, and one that succeeds makes both
(`Engine.creation_makes_or_keeps`), even if what it takes for the records is no text. -/
namespace Leuit
open Outcome

namespace Directory
variable {d : Directory} {database table : String} {place : Place} {extension : String}

/-! ### Places of a table that is not there -/

theorem readSchema_eq_none :
    d.readSchema database table = .ok none ↔
      d.checkTable database table = .ok () ∧
        d.tree.read (d.file database table schemaExtension) = .error .notFound := by
  unfold readSchema
  cases d.checkTable database table with
  | error e => simp
  | ok u =>
    rcases d.tree.read (d.file database table schemaExtension) with e | text
    · cases e <;> simp
    · simp

/-- Where no definition is found, one could be stored. -/
theorem unmade (h : d.readSchema database table = .ok none) :
    ∃ place, d.At database place ∧ d.Nameable database table ∧
      d.tree.node? (place ++ [fileName table schemaExtension]) = none := by
  obtain ⟨hcheck, hread⟩ := readSchema_eq_none.mp h
  obtain ⟨hdatabase, hallowed⟩ := checkTable_eq_ok.mp hcheck
  obtain ⟨place, hhere⟩ := check_eq_ok.mp hdatabase
  have hresolve := hhere.resolve_file_eq hallowed (show schemaExtension ∈ extensions by decide)
  split at hresolve
  · rw [FileTree.read, FileTree.find, hresolve] at hread
    cases hread
  · next hshort =>
    rw [not_or, Nat.not_lt, Nat.not_lt] at hshort
    refine ⟨place, hhere, ⟨hallowed, hshort.2, hshort.1⟩, ?_⟩
    rw [FileTree.read, FileTree.find, hresolve] at hread
    rcases hnode : d.tree.node? (place ++ [fileName table schemaExtension]) with _ | _ | content
    · rfl
    · simp [hnode] at hread
    · cases content <;> simp [hnode, Content.read] at hread

/-- What keeps a file of a table from being opened to write to it. -/
def barrier? (d : Directory) (database table extension : String) : Option FileFault :=
  match d.tree.find (d.file database table extension) with
  | .ok node => node.barrier?
  | .error _ => none

theorem At.barrier?_file (h : d.At database place) (hn : d.Nameable database table)
    (he : extension ∈ extensions) :
    d.barrier? database table extension = d.tree.barrier? (place ++ [fileName table extension]) := by
  rw [barrier?, FileTree.find, h.resolve_file hn he, FileTree.barrier?]
  dsimp only
  cases d.tree.node? (place ++ [fileName table extension]) <;> rfl

/-- Bytes that are no text stand in place of the records of a table. -/
def Unread (d : Directory) (database table : String) : Prop :=
  d.tree.read (d.file database table recordExtension) = .error .noText

theorem At.unread_iff (h : d.At database place) (hn : d.Nameable database table) :
    d.Unread database table ↔ ∃ bytes unread,
      d.tree.node? (place ++ [fileName table recordExtension]) = some (.file (.foreign bytes unread)) := by
  rw [Unread, FileTree.read, FileTree.find, h.resolve_file hn (by decide)]
  rcases hnode : d.tree.node? (place ++ [fileName table recordExtension]) with _ | _ | content
  · simp [hnode]
  · simp [hnode]
  · cases content with
    | foreign bytes unread => simpa [hnode, Content.read] using unread
    | _ => simp [hnode, Content.read]

/-! ### The two steps -/

/-- A table cannot be made as a whole: what stands in place of its records cannot be opened, and nothing keeps
its definition from being stored. -/
structure Torn (d : Directory) (database table : String) (barrier : FileFault) : Prop where
  undefined : d.readSchema database table = .ok none
  temporary : d.barrier? database table temporaryExtension = none
  records : d.barrier? database table recordExtension = some barrier

/-- An edit of a tree of files that fails is one of the data folder that fails. -/
theorem At.edit_of_fault (h : d.At database place) {e : Edit} (hn : d.Nameable database e.table)
    {fault : FileFault} (hfiles : d.editFiles database e = (.error fault, d.tree)) :
    d.edit database e = (.error (editFault e fault), d) := by
  rw [edit_of_checked (h.checkTable hn.allowed), hfiles]
  rfl

variable {barrier : FileFault}

/-- No room is made where what stands in place of the records cannot be opened. -/
theorem At.edit_provision_blocked (h : d.At database place) (hn : d.Nameable database table)
    (hblocked : d.barrier? database table recordExtension = some barrier) :
    d.edit database (.provision table) = (.error (faultOf barrier), d) := by
  have hmem : recordExtension ∈ extensions := by decide
  rw [h.barrier?_file hn hmem, FileTree.barrier?, Option.bind_eq_some_iff] at hblocked
  obtain ⟨node, hnode, hbarrier⟩ := hblocked
  refine h.edit_of_fault (e := .provision table) hn ?_
  simp only [editFiles, FileTree.makeFile, h.resolve_file hn hmem, hnode, hbarrier]

/-- No definition is stored where what stands in place of the temporary file cannot be opened. -/
theorem At.edit_define_blocked (h : d.At database place) (hn : d.Nameable database table)
    (hblocked : d.barrier? database table temporaryExtension = some barrier) (document : String) :
    d.edit database (.define table document) = (.error (faultOf barrier), d) := by
  have hmem : temporaryExtension ∈ extensions := by decide
  rw [h.barrier?_file hn hmem, FileTree.barrier?] at hblocked
  refine h.edit_of_fault (e := .define table document) hn ?_
  have hwrite : d.tree.write (d.file database table temporaryExtension) document =
      (.error barrier, d.tree) := by
    simp only [FileTree.write, h.resolve_file hn hmem, hblocked]
  rw [editFiles, FileTree.replace, hwrite]

theorem At.readRecords_of_unread (h : d.At database place) (hn : d.Nameable database table)
    (hunread : d.Unread database table) : d.readRecords database table = .error (faultOf .noText) := by
  rw [readRecords, h.checkTable hn.allowed, hunread]

/-- A table is there: its definition can be read, and so can its records unless, in the data folder before,
what stood in their place was no text. -/
structure Made (before after : Directory) (database table document : String) : Prop where
  schema : after.readSchema database table = .ok (some document)
  records : ¬before.Unread database table → ∃ records, after.readRecords database table = .ok records
  unread : before.Unread database table → after.readRecords database table = .error (faultOf .noText)

/-- What making a table leaves. -/
abbrev making (d : Directory) (database table document : String) : Except QueryError Unit × Directory :=
  Storage.commit d database [.define table document, .provision table]

section
variable (h : d.readSchema database table = .ok none) (document : String)
include h

/-- A definition is stored if the temporary file can be opened, and the place of the records is left alone. -/
theorem edit_define_new (hfree : d.barrier? database table temporaryExtension = none) :
    ∃ after place, d.edit database (.define table document) = (.ok (), after) ∧
      after.At database place ∧ after.Nameable database table ∧
      after.tree.node? (place ++ [fileName table schemaExtension]) = some (.file document) ∧
      (after.barrier? database table recordExtension = d.barrier? database table recordExtension ∧
        (after.Unread database table ↔ d.Unread database table)) := by
  obtain ⟨place, hhere, hn, hunmade⟩ := unmade h
  rw [hhere.barrier?_file hn (by decide)] at hfree
  obtain ⟨tree, hdefine, hkeep, hnodes⟩ := hhere.edit_define hn document hfree (by rw [hunmade]; simp)
  have hhere' : ({ d with tree } : Directory).At database place := hhere.mono hkeep
  have hn' : ({ d with tree } : Directory).Nameable database table := hn.of_root rfl
  have hsame : tree.node? (place ++ [fileName table recordExtension]) =
      d.tree.node? (place ++ [fileName table recordExtension]) := by
    rw [hnodes, if_neg (place_ne (by decide) (by decide) (by decide)),
      if_neg (place_ne (by decide) (by decide) (by decide))]
  refine ⟨_, place, hdefine, hhere', hn', (hnodes _).trans (if_pos rfl), ?_, ?_⟩
  · rw [hhere'.barrier?_file hn' (by decide), hhere.barrier?_file hn (by decide), FileTree.barrier?,
      FileTree.barrier?, hsame]
  · rw [hhere'.unread_iff hn', hhere.unread_iff hn, hsame]

/-- The definition stays where what stands in place of the records cannot be opened. -/
theorem making_torn (hfree : d.barrier? database table temporaryExtension = none)
    (hblocked : d.barrier? database table recordExtension = some barrier) :
    (d.making database table document).1 = .error (faultOf barrier) ∧
      (d.making database table document).2.readSchema database table = .ok (some document) := by
  obtain ⟨after, place, hdefine, hhere, hn, hschema, hsame, -⟩ := edit_define_new h document hfree
  have hprovision := hhere.edit_provision_blocked hn (hsame.trans hblocked)
  have hmade : d.making database table document = (.error (faultOf barrier), after) := by
    rw [making, Storage.commit_cons_eq, show Storage.edit d database (.define table document) = _ from hdefine]
    exact (Storage.commit_single ..).trans hprovision
  rw [hmade]
  exact ⟨rfl, hhere.readSchema_of_file hn hschema⟩

/-- Elsewhere the definition and the records are made, and what was no text is taken for the records. -/
theorem making_whole (hfree : d.barrier? database table temporaryExtension = none)
    (hwhole : d.barrier? database table recordExtension = none) :
    (d.making database table document).1 = .ok () ∧
      d.Made (d.making database table document).2 database table document := by
  obtain ⟨after, place, hdefine, hhere, hn, hschema, hsame, hunread⟩ := edit_define_new h document hfree
  have hplace : after.tree.barrier? (place ++ [fileName table recordExtension]) = none := by
    rw [← hhere.barrier?_file hn (by decide), hsame, hwhole]
  obtain ⟨tree, hprovision, hkeep, hnodes⟩ := hhere.edit_provision hn hplace
  have hhere' : ({ after with tree } : Directory).At database place := hhere.mono hkeep
  have hn' : ({ after with tree } : Directory).Nameable database table := hn.of_root rfl
  have hmade : d.making database table document = (.ok (), { after with tree }) := by
    rw [making, Storage.commit_cons_eq, show Storage.edit d database (.define table document) = _ from hdefine]
    exact (Storage.commit_single ..).trans hprovision
  rw [hmade]
  refine ⟨rfl, hhere'.readSchema_of_file hn' ?schema, ?written, ?unread⟩
  case schema =>
    exact (hnodes _).trans ((if_neg (place_ne (by decide) (by decide) (by decide))).trans hschema)
  case written =>
    intro hread
    have hrecords := (hnodes _).trans (if_pos rfl)
    rcases hnode : after.tree.node? (place ++ [fileName table recordExtension]) with _ | _ | content
    · rw [hnode] at hrecords
      exact ⟨_, hhere'.readRecords_of_file hn' hrecords⟩
    · simp [FileTree.barrier?, hnode, Node.barrier?] at hplace
    · rw [hnode] at hrecords
      cases content with
      | text text => exact ⟨_, hhere'.readRecords_of_file hn' hrecords⟩
      | foreign bytes unread =>
        exact absurd (hunread.mp ((hhere.unread_iff hn).mpr ⟨bytes, unread, hnode⟩)) hread
      | sealed => simp [FileTree.barrier?, hnode, Node.barrier?] at hplace
  case unread =>
    intro hforeign
    obtain ⟨bytes, unread, hnode⟩ := (hhere.unread_iff hn).mp (hunread.mpr hforeign)
    refine hhere'.readRecords_of_unread hn' ((hhere'.unread_iff hn').mpr ⟨bytes, unread, ?_⟩)
    exact (hnodes _).trans ((if_pos rfl).trans (by rw [hnode]; rfl))

/-- Making a table changes nothing, stops half way, or makes all of it. -/
theorem making_cases :
    (∃ barrier, d.making database table document = (.error (faultOf barrier), d)) ∨
      (∃ barrier, d.Torn database table barrier ∧
        (d.making database table document).1 = .error (faultOf barrier)) ∨
      ((d.making database table document).1 = .ok () ∧
        d.Made (d.making database table document).2 database table document) := by
  cases hfree : d.barrier? database table temporaryExtension with
  | some barrier =>
    obtain ⟨place, hhere, hn, -⟩ := unmade h
    refine .inl ⟨barrier, ?_⟩
    rw [making, Storage.commit_cons_eq, show Storage.edit d database (.define table document) = _ from
      hhere.edit_define_blocked hn hfree document]
  | none =>
    cases hwhole : d.barrier? database table recordExtension with
    | some barrier =>
      exact .inr (.inl ⟨barrier, ⟨h, hfree, hwhole⟩, (making_torn h document hfree hwhole).1⟩)
    | none => exact .inr (.inr (making_whole h document hfree hwhole))

end

end Directory

/-! ### Creating -/

namespace Engine

/-- What a query that creates a table does to a data folder. -/
structure Creation (e : Engine Directory) (caller : Caller) (query : String) (q : CreateTable) : Prop where
  /-- If it succeeds, the definition and the records are there and can be read, unless bytes that are no text
  stood in place of the records. -/
  made : ∀ answer, (e.execute caller query).1 = .ok answer → ∃ columns,
    Column.listOfText q.columns = .ok columns ∧
      e.store.Made (e.execute caller query).2.store caller.database q.table
        (Definition.encode ⟨q.table, columns, q.permissions.getD .standard⟩)
  /-- If it fails, nothing has changed, unless the folder lets only the first of its two steps be taken. -/
  kept : ∀ fault, (e.execute caller query).1 = .error fault →
    (∀ barrier, ¬e.store.Torn caller.database q.table barrier) → (e.execute caller query).2.store = e.store
  /-- Then the definition has been stored, and the same query fails from then on. -/
  torn : ∀ barrier, e.store.Torn caller.database q.table barrier →
    ∀ columns, Column.listOfText q.columns = .ok columns →
    (e.execute caller query).1 = .error (Directory.faultOf barrier) ∧
      (e.execute caller query).2.store.readSchema caller.database q.table =
        .ok (some (Definition.encode ⟨q.table, columns, q.permissions.getD .standard⟩)) ∧
      ((e.execute caller query).2.execute caller query).1 = .error (.alreadyExists (.table q.table))

section
variable {e : Engine Directory} {caller : Caller} {q : CreateTable} {columns : List Column}

/-- A table that has a definition is not created. -/
theorem run_create_defined {document : String} (hcolumns : Column.listOfText q.columns = .ok columns)
    (h : e.store.readSchema caller.database q.table = .ok (some document)) :
    (e.run caller (.create q)).1 = .error (.alreadyExists (.table q.table)) := by
  have hcheck : e.store.checkTable caller.database q.table = .ok () := by
    cases hcheck : e.store.checkTable caller.database q.table with
    | ok u => rfl
    | error fault => simp [Directory.readSchema, hcheck] at h
  have hname : Definition.checkName "table" q.table = .ok () :=
    if_pos (Directory.checkTable_eq_ok.mp hcheck).2
  have hschema : (Storage.snapshot e.store caller.database).schema q.table = .ok (some document) := h
  refine (run_of_refused ?_).1
  simp only [Command.planned, Command.task, CreateTable.task, hname, hcolumns, Except.map, CreateTable.plan,
    hschema]

/-- A table that has none is made, as far as the folder lets it. -/
theorem run_create_undefined (hcolumns : Column.listOfText q.columns = .ok columns)
    (h : e.store.readSchema caller.database q.table = .ok none) :
    let making := e.store.making caller.database q.table
      (Definition.encode ⟨q.table, columns, q.permissions.getD .standard⟩)
    (e.run caller (.create q)).1 = making.1.map (fun _ => .created q.table) ∧
      (e.run caller (.create q)).2.store = making.2 := by
  have hallowed := (Directory.checkTable_eq_ok.mp (Directory.readSchema_eq_none.mp h).1).2
  exact run_of_planned (Command.planned_create.mpr ⟨columns, if_pos hallowed, hcolumns, h, rfl⟩)

end

/-- **Creating a table makes all of it or nothing**, unless a folder or a file that may not be opened stands in
place of its records. A text that spells no command does nothing. -/
theorem creation_makes_or_keeps (e : Engine Directory) (caller : Caller) (query : String) :
    (∀ fault, Command.ofText query = .error fault → e.execute caller query = (.error fault, e)) ∧
      ∀ q, Command.ofText query = .ok (.create q) → e.Creation caller query q := by
  refine ⟨fun fault h => ?_, fun q h => ?_⟩
  · unfold execute
    rw [h]
  refine ⟨?made, ?kept, ?torn⟩
  case torn =>
    intro barrier htorn columns hcolumns
    obtain ⟨hanswer, hstore⟩ := run_create_undefined hcolumns htorn.undefined
    obtain ⟨hfault, hschema⟩ := Directory.making_torn htorn.undefined
      (Definition.encode ⟨q.table, columns, q.permissions.getD .standard⟩) htorn.temporary htorn.records
    rw [← hstore] at hschema
    rw [hfault] at hanswer
    rw [execute_of_ofText h, execute_of_ofText h]
    exact ⟨hanswer, hschema, run_create_defined hcolumns hschema⟩
  case made =>
    intro answer hok
    rw [execute_of_ofText h] at hok ⊢
    obtain ⟨plan, hplan, -, -⟩ := run_eq_ok hok
    obtain ⟨columns, -, hcolumns, hnone, -⟩ := Command.planned_create.mp hplan
    obtain ⟨hanswer, hstore⟩ := run_create_undefined hcolumns hnone
    obtain ⟨u, hmade, -⟩ := map_eq_ok.mp (hanswer.symm.trans hok)
    rcases Directory.making_cases hnone
      (Definition.encode ⟨q.table, columns, q.permissions.getD .standard⟩) with
      ⟨barrier, hkept⟩ | ⟨barrier, -, hfault⟩ | ⟨-, hwhole⟩
    · rw [hkept] at hmade
      cases hmade
    · rw [hfault] at hmade
      cases hmade
    · exact ⟨columns, hcolumns, hstore ▸ hwhole⟩
  case kept =>
    intro fault hfault hwhole
    rw [execute_of_ofText h] at hfault ⊢
    cases hplan : (Command.create q).planned (Storage.snapshot e.store caller.database) caller with
    | error refusal => exact (run_of_refused hplan).2
    | ok plan =>
      obtain ⟨columns, -, hcolumns, hnone, -⟩ := Command.planned_create.mp hplan
      obtain ⟨hanswer, hstore⟩ := run_create_undefined hcolumns hnone
      have hunmade := map_eq_error.mp (hanswer.symm.trans hfault)
      rcases Directory.making_cases hnone
        (Definition.encode ⟨q.table, columns, q.permissions.getD .standard⟩) with
        ⟨barrier, hkept⟩ | ⟨barrier, htorn, -⟩ | ⟨hmade, -⟩
      · rw [hstore, hkept]
      · exact absurd htorn (hwhole barrier)
      · rw [hmade] at hunmade
        cases hunmade

/-- A data folder in which someone left, where the records of tables are kept, a folder, a file that may not be
opened and bytes that are no text. -/
def occupiedTable : Directory where
  root := ⟨"data"⟩
  tree := FileTree.empty
    |>.put ["data"] .folder
    |>.put ["data", "db_kantor"] .folder
    |>.put ["data", "db_kantor", "t.mg"] .folder
    |>.put ["data", "db_kantor", "v.mg"] (.file .sealed)
    |>.put ["data", "db_kantor", "w.mg"] (.file strayBytes)

/-- Two tables are torn there, one cannot be read once it is made, and one of another name can. -/
theorem creation_makes_or_keeps_occupied :
    Command.ofText "DAMEL u id:INT" = .ok (.create ⟨"u", "id:INT", none⟩) ∧
      (ofStore occupiedTable).Creation ⟨"asep", "user", "kantor"⟩ "DAMEL u id:INT" ⟨"u", "id:INT", none⟩ ∧
      ((ofStore occupiedTable).execute ⟨"asep", "user", "kantor"⟩ "DAMEL u id:INT").1 =
        .ok (.created "u") ∧
      occupiedTable.Torn "kantor" "t" .isFolder ∧ occupiedTable.Torn "kantor" "v" .denied ∧
      occupiedTable.Unread "kantor" "w" := by
  have hparsed : Command.ofText "DAMEL u id:INT" = .ok (.create ⟨"u", "id:INT", none⟩) := by decide +kernel
  exact ⟨hparsed, (creation_makes_or_keeps _ _ _).2 _ hparsed, by decide +kernel,
    ⟨by decide +kernel, by decide +kernel, by decide +kernel⟩,
    ⟨by decide +kernel, by decide +kernel, by decide +kernel⟩, by unfold Directory.Unread; decide +kernel⟩

/-- A run that lists tables, with its data folder where the standard one keeps the records of a table. -/
def listedRun : CommandLine.Report × FileTree :=
  CommandLine.run .empty .empty ["--data-dir", "maung_data/db_default/t.mg", "query", ".tables"] ""

/-- The run after that, which creates a table in the standard data folder. -/
def creatingRun : CommandLine.Report × FileTree :=
  CommandLine.run listedRun.2 .empty ["query", "DAMEL t id:INT"] ""

/-- The creation fails and leaves a definition behind where there was none. -/
theorem torn_creation_keeps_definition :
    listedRun.1 = ⟨0, "(no tables)\n", ""⟩ ∧
      listedRun.2.node? ["maung_data", "db_default", "t.schema"] = none ∧
      creatingRun.1 = ⟨1, "", "Error: Storage error: Is a directory (os error 21)\n"⟩ ∧
      creatingRun.2.node? ["maung_data", "db_default", "t.schema"] =
        some (.file "id:INT\nadmin=read,write\nsupermaung=read,write\nuser=read\n") := by
  refine ⟨?_, ?_, ?_, ?_⟩ <;> decide +kernel

end Engine

end Leuit
