import Leuit.Administration.Databases
import Leuit.Proofs.BlankRecords
import Leuit.Proofs.TableFiles
import Leuit.Proofs.WrittenRecords

/-! A database in files is as good as one in memory. The two mirror each other (`Mirrors`) if each table has
the same definition in both, and the same records but for blank ones. Then they show commands the same, so
these plan the same; and the edits of a plan succeed in both and leave them mirroring each other
(`Mirrors.step`), because what is written fits on lines and the files are named apart. By induction over a
run the answers are the same at every step (`Engine.files_refine_memory`). -/
namespace Leuit
open Outcome Directory

/-! ### Mirroring stores -/

/-- A file of records and a list hold the same records, but for blank ones. -/
inductive MirrorsRecords : Option Node → Option (List String) → Prop where
  | absent : MirrorsRecords none none
  | present {text : String} {records : List String} (ended : Text.Ended text)
      (rows : Record.rows (Text.lines text) = Record.rows records) :
      MirrorsRecords (some (.file text)) (some records)

theorem MirrorsRecords.not_folder {node : Option Node} {records : Option (List String)}
    (h : MirrorsRecords node records) : node ≠ some .folder := by
  cases h <;> simp

theorem MirrorsRecords.barrier {node : Option Node} {records : Option (List String)}
    (h : MirrorsRecords node records) : node.bind Node.barrier? = none := by
  cases h <;> rfl

/-- A database in memory and one in a folder, which stands at a place, hold the same. What is stored could
be written to files: the tables have names for it, and the records no line ends. -/
structure Mirrors (m : Memory) (d : Directory) (database : String) (place : Place) : Prop where
  here : d.At database place
  schema : ∀ table, d.tree.node? (place ++ [fileName table schemaExtension]) =
    (m.schemas.get? (database, table)).map (.file ·)
  records : ∀ table, MirrorsRecords (d.tree.node? (place ++ [fileName table recordExtension]))
    (m.records.get? (database, table))
  temporary : ∀ table, d.tree.node? (place ++ [fileName table temporaryExtension]) = none
  nameable : ∀ table document, m.schemas.get? (database, table) = some document →
    d.Nameable database table
  /-- So may the tables that foreign keys refer to. -/
  parents : ∀ table definition, (Storage.snapshot m database).load table = .ok definition →
    ∀ parent ∈ definition.parents, d.Nameable database parent
  unbroken : ∀ table records, m.records.get? (database, table) = some records →
    ∀ r ∈ records, Text.Unbroken r.toList

namespace Mirrors
variable {m : Memory} {d : Directory} {database table : String} {place : Place}

/-- Both stores show the same of a table, but for blank records. -/
theorem alike (h : Mirrors m d database place) (hn : d.Nameable database table) :
    (Storage.snapshot m database).tidied.SameAt (Storage.snapshot d database).tidied table := by
  constructor
  · show Except.ok (m.schemas.get? (database, table)) = d.readSchema database table
    have hnode := h.schema table
    cases hs : m.schemas.get? (database, table) with
    | none => rw [hs] at hnode; exact (h.here.readSchema_of_none hn hnode).symm
    | some document => rw [hs] at hnode; exact (h.here.readSchema_of_file hn hnode).symm
  · show ((m.snapshot database).records table).map Record.rows =
      (d.readRecords database table).map Record.rows
    have hnode := h.records table
    generalize hn' : d.tree.node? (place ++ [fileName table recordExtension]) = node at hnode
    generalize hr : m.records.get? (database, table) = stored at hnode
    cases hnode with
    | absent =>
      rw [h.here.readRecords_of_none hn hn']
      simp [Memory.snapshot, hr, Except.map]
    | present ended rows =>
      rw [h.here.readRecords_of_file hn hn']
      simp [Memory.snapshot, hr, Except.map, rows]

/-- Both stores list the same tables. -/
theorem tables (h : Mirrors m d database place) :
    Storage.tables m database = Storage.tables d database := by
  obtain ⟨listed, htables, hmem⟩ := h.here.tables
  refine Eq.trans ?_ htables.symm
  show Except.ok (m.tables database) = _
  congr 1
  refine congrArg NameSet.names (NameSet.ext_mem fun table => ?_)
  rw [NameSet.mem_ofList, hmem, h.schema, Option.isSome_map, Keyed.isSome_get?_iff]
  constructor
  · intro hlisted
    obtain ⟨⟨db, t⟩, hfound, rfl⟩ := List.mem_map.mp hlisted
    obtain ⟨hkey, hdb⟩ := List.mem_filter.mp hfound
    obtain rfl : db = database := by simpa using hdb
    obtain ⟨document, hdocument⟩ := Option.isSome_iff_exists.mp (Keyed.isSome_get?_iff.mpr hkey)
    refine ⟨?_, hkey⟩
    rintro rfl
    exact absurd (h.nameable _ _ hdocument).allowed (by decide)
  · rintro ⟨-, hkey⟩
    exact List.mem_map.mpr ⟨(database, table), List.mem_filter.mpr ⟨hkey, by simp⟩, rfl⟩

/-! ### Edits -/

/-- Edits succeed in both stores, in the folder that it was, and they mirror each other after them. -/
def Follow (m : Memory) (d : Directory) (database : String) (place : Place) (edits : List Edit) : Prop :=
  (Storage.commit m database edits).1 = .ok () ∧ ∃ tree,
    Storage.commit d database edits = (.ok (), { d with tree }) ∧
    Mirrors (Storage.commit m database edits).2 { d with tree } database place

theorem follow_nil (h : Mirrors m d database place) : Follow m d database place [] := ⟨rfl, d.tree, rfl, h⟩

/-- Edits follow each other. -/
theorem Follow.cons {edit : Edit} {rest : List Edit} (h : Follow m d database place [edit])
    (hrest : ∀ tree, Mirrors (Storage.edit m database edit).2 { d with tree } database place →
      Follow (Storage.edit m database edit).2 { d with tree } database place rest) :
    Follow m d database place (edit :: rest) := by
  unfold Follow at h
  rw [Storage.commit_single, Storage.commit_single] at h
  obtain ⟨hok, tree, hedit, hmirrors⟩ := h
  have hok' : (Storage.edit d database edit).1 = .ok () := by rw [hedit]
  unfold Follow
  rw [Storage.commit_cons _ _ _ hok, Storage.commit_cons _ _ _ hok', hedit]
  exact hrest tree hmirrors

variable (table) in
/-- It is enough to look at the table that the edit is of, if the edit touches no files but its own. -/
theorem follow_of_table (h : Mirrors m d database place) {edit : Edit} {tree : FileTree}
    (htable : edit.table = table) (hok : (Storage.edit m database edit).1 = .ok ())
    (hedit : d.edit database edit = (.ok (), { d with tree })) (hkeep : d.tree.KeepsFolders tree)
    (hothers : ∀ t, t ≠ table → ∀ extension ∈ extensions,
      tree.node? (place ++ [fileName t extension]) = d.tree.node? (place ++ [fileName t extension]))
    (hn : d.Nameable database table)
    (hschema : tree.node? (place ++ [fileName table schemaExtension]) =
      (edit.schemaAfter (m.schemas.get? (database, table))).map (.file ·))
    (hrecords : MirrorsRecords (tree.node? (place ++ [fileName table recordExtension]))
      (edit.recordsAfter (m.records.get? (database, table))))
    (htemporary : tree.node? (place ++ [fileName table temporaryExtension]) = none)
    (hparents : ∀ document, edit.schemaAfter (m.schemas.get? (database, table)) = some document →
      ∀ definition, Definition.decode table document = .ok definition →
        ∀ parent ∈ definition.parents, d.Nameable database parent)
    (hunbroken : ∀ records, edit.recordsAfter (m.records.get? (database, table)) = some records →
      ∀ r ∈ records, Text.Unbroken r.toList) : Follow m d database place [edit] := by
  subst htable
  unfold Follow
  rw [Storage.commit_single, Storage.commit_single]
  have hschemas : ∀ t, (Storage.edit m database edit).2.schemas.get? (database, t) =
      if t = edit.table then edit.schemaAfter (m.schemas.get? (database, t))
      else m.schemas.get? (database, t) := fun t => by simp [Memory.schemas_edit]
  have hstored : ∀ t, (Storage.edit m database edit).2.records.get? (database, t) =
      if t = edit.table then edit.recordsAfter (m.records.get? (database, t))
      else m.records.get? (database, t) := fun t => by simp [Memory.records_edit]
  have hmono : ∀ {t}, d.Nameable database t → ({ d with tree } : Directory).Nameable database t :=
    fun hn => hn.of_root rfl
  refine ⟨hok, tree, hedit, h.here.mono hkeep, ?schema, ?records, ?temporary, ?nameable, ?parents, ?unbroken⟩
  case schema =>
    intro t
    rw [hschemas]
    split
    · next ht => rw [ht]; exact hschema
    · next ht => rw [← h.schema]; exact hothers t ht _ (by decide)
  case records =>
    intro t
    rw [hstored]
    split
    · next ht => rw [ht]; exact hrecords
    · next ht =>
      have hsame := hothers t ht recordExtension (by decide)
      show MirrorsRecords (tree.node? _) _
      rw [hsame]
      exact h.records t
  case temporary =>
    intro t
    by_cases ht : t = edit.table
    · rw [ht]; exact htemporary
    · exact (hothers t ht _ (by decide)).trans (h.temporary t)
  case nameable =>
    intro t document hdocument
    rw [hschemas] at hdocument
    split at hdocument
    · next ht => exact hmono (ht ▸ hn)
    · exact hmono (h.nameable t document hdocument)
  case parents =>
    intro t definition hload parent hparent
    obtain ⟨document, hdocument, hdecode⟩ := Snapshot.load_eq_ok.mp hload
    rw [Memory.snapshot_schema, Except.ok.injEq, hschemas] at hdocument
    split at hdocument
    · next ht =>
      subst ht
      exact hmono (hparents document hdocument definition hdecode parent hparent)
    · refine hmono (h.parents t definition (Snapshot.load_eq_ok.mpr ⟨document, ?_, hdecode⟩) parent hparent)
      rw [Memory.snapshot_schema, hdocument]
  case unbroken =>
    intro t records hfound
    rw [hstored] at hfound
    split at hfound
    · next ht =>
      subst ht
      exact hunbroken records hfound
    · exact h.unbroken t records hfound

/-- Parents of the definition that a table has. -/
theorem parents_of_schema (h : Mirrors m d database place) (document : String)
    (hdocument : m.schemas.get? (database, table) = some document) (definition : Definition)
    (hdecode : Definition.decode table document = .ok definition) :
    ∀ parent ∈ definition.parents, d.Nameable database parent :=
  h.parents table definition (Snapshot.load_eq_ok.mpr
    ⟨document, by rw [Memory.snapshot_schema, hdocument], hdecode⟩)

theorem define (h : Mirrors m d database place) (hn : d.Nameable database table) (document : String)
    (hparents : ∀ definition, Definition.decode table document = .ok definition →
      ∀ parent ∈ definition.parents, d.Nameable database parent) :
    Follow m d database place [.define table document] := by
  obtain ⟨tree, hedit, hkeep, hnodes⟩ := h.here.edit_define hn document
    (by simp [FileTree.barrier?, h.temporary]) (by simp [h.schema])
  refine h.follow_of_table table rfl rfl hedit hkeep (fun t ht extension he => ?_) hn ?_ ?_ ?_ ?_ ?_
  · rw [hnodes, if_neg (place_ne_of_table he (by decide) ht), if_neg (place_ne_of_table he (by decide) ht)]
  · rw [hnodes, if_pos rfl]
    rfl
  · rw [hnodes, if_neg (place_ne (by decide) (by decide) (by decide)),
      if_neg (place_ne (by decide) (by decide) (by decide))]
    exact h.records table
  · rw [hnodes, if_neg (place_ne (by decide) (by decide) (by decide)), if_pos rfl]
  · rintro _ ⟨⟩
    exact hparents
  · exact h.unbroken table

theorem provision (h : Mirrors m d database place) (hn : d.Nameable database table) :
    Follow m d database place [.provision table] := by
  obtain ⟨tree, hedit, hkeep, hnodes⟩ := h.here.edit_provision hn (h.records table).barrier
  have hok : (Storage.edit m database (.provision table)).1 = .ok () := by
    show (m.edit database (.provision table)).1 = _
    rw [Memory.edit]
    split <;> rfl
  refine h.follow_of_table table rfl hok hedit hkeep (fun t ht extension he => ?_) hn ?_ ?_ ?_
    h.parents_of_schema ?_
  · rw [hnodes, if_neg (place_ne_of_table he (by decide) ht)]
  · rw [hnodes, if_neg (place_ne (by decide) (by decide) (by decide)), h.schema]
    rfl
  · rw [hnodes, if_pos rfl]
    have hrecords := h.records table
    generalize d.tree.node? (place ++ [fileName table recordExtension]) = node at hrecords
    generalize m.records.get? (database, table) = stored at hrecords
    cases hrecords with
    | absent => exact .present (.inl rfl) rfl
    | present ended rows => exact .present ended rows
  · rw [hnodes, if_neg (place_ne (by decide) (by decide) (by decide)), h.temporary]
  · intro records hstored r hr
    cases hold : m.records.get? (database, table) with
    | none =>
      rw [hold] at hstored
      cases hstored
      cases hr
    | some old =>
      rw [hold] at hstored
      cases hstored
      exact h.unbroken table _ hold r hr

theorem append (h : Mirrors m d database place) (hn : d.Nameable database table) {record : String}
    {records : List String} (hstored : m.records.get? (database, table) = some records)
    (hunbroken : Text.Unbroken record.toList) : Follow m d database place [.append table record] := by
  have hrecords := h.records table
  rw [hstored] at hrecords
  generalize hnode : d.tree.node? (place ++ [fileName table recordExtension]) = node at hrecords
  cases hrecords with
  | @present text _ ended rows =>
    obtain ⟨tree, hedit, hkeep, hnodes⟩ := h.here.edit_append hn record hnode
    have hok : (Storage.edit m database (.append table record)).1 = .ok () := by
      show (m.edit database (.append table record)).1 = _
      rw [Memory.edit, hstored]
    refine h.follow_of_table table rfl hok hedit hkeep (fun t ht extension he => ?_) hn ?_ ?_ ?_
      h.parents_of_schema ?_
    · rw [hnodes, if_neg (place_ne_of_table he (by decide) ht)]
    · rw [hnodes, if_neg (place_ne (by decide) (by decide) (by decide)), h.schema]
      rfl
    · rw [hnodes, if_pos rfl, hstored]
      refine .present (Text.ended_append_line ..) ?_
      rw [Text.lines_append ended, Text.lines_line hunbroken.line]
      simp only [Record.rows, List.filter_append] at rows ⊢
      rw [rows]
    · rw [hnodes, if_neg (place_ne (by decide) (by decide) (by decide)), h.temporary]
    · rw [hstored]
      rintro _ ⟨⟩ r hr
      rcases List.mem_append.mp hr with hr | hr
      · exact h.unbroken table records hstored r hr
      · rw [List.mem_singleton.mp hr]
        exact hunbroken

theorem replace (h : Mirrors m d database place) (hn : d.Nameable database table) {records : List String}
    (hunbroken : ∀ r ∈ records, Text.Unbroken r.toList) :
    Follow m d database place [.replace table records] := by
  obtain ⟨tree, hedit, hkeep, hnodes⟩ := h.here.edit_replace hn records
    (by simp [FileTree.barrier?, h.temporary]) (h.records table).not_folder
  refine h.follow_of_table table rfl rfl hedit hkeep (fun t ht extension he => ?_) hn ?_ ?_ ?_
    h.parents_of_schema ?_
  · rw [hnodes, if_neg (place_ne_of_table he (by decide) ht), if_neg (place_ne_of_table he (by decide) ht)]
  · rw [hnodes, if_neg (place_ne (by decide) (by decide) (by decide)),
      if_neg (place_ne (by decide) (by decide) (by decide)), h.schema]
    rfl
  · rw [hnodes, if_pos rfl]
    exact .present (ended_recordText records) (rows_recordText fun r hr => (hunbroken r hr).line)
  · rw [hnodes, if_neg (place_ne (by decide) (by decide) (by decide)), if_pos rfl]
  · rintro _ ⟨⟩
    exact hunbroken

end Mirrors

/-! ### Commands -/

/-- A command names its table, the tables it joins, and if it creates a table, those that the foreign keys
of its definition refer to when it is read. -/
inductive Command.Names : Command → String → Prop where
  | target (command : Command) : Names command command.table
  | joined {q : SelectRows} {j : Join} (h : j ∈ q.joins) : Names (.select q) j.table
  | referred {q : CreateTable} {columns : List Column} {definition : Definition} {parent : String}
      (hasked : Column.listOfText q.columns = .ok columns)
      (hread : Definition.decode q.table
        (Definition.encode ⟨q.table, columns, q.permissions.getD .standard⟩) = .ok definition)
      (hparent : parent ∈ definition.parents) : Names (.create q) parent

namespace Mirrors
variable {m : Memory} {d : Directory} {database : String} {place : Place} {command : Command}
  {caller : Caller} {plan : Plan}

theorem nameable_locked (h : Mirrors m d database place)
    (hnames : ∀ table, command.Names table → d.Nameable database table) :
    ∀ request ∈ command.lockSet (Storage.snapshot m database), d.Nameable database request.table := by
  have hparents : ∀ table, ∀ request ∈ (Storage.snapshot m database).parentLocks table,
      d.Nameable database request.table := by
    intro table request hrequest
    unfold Snapshot.parentLocks at hrequest
    split at hrequest
    · next definition hload =>
      obtain ⟨parent, hparent, rfl⟩ := List.mem_map.mp hrequest
      exact h.parents table definition hload parent hparent
    · cases hrequest
  have htarget := hnames _ (.target command)
  cases command with
  | create q => exact List.forall_mem_singleton.mpr htarget
  | insert q => exact List.forall_mem_cons.mpr ⟨htarget, hparents q.table⟩
  | select q =>
    refine List.forall_mem_cons.mpr ⟨htarget, fun request hrequest => ?_⟩
    obtain ⟨j, hj, rfl⟩ := List.mem_map.mp hrequest
    exact hnames _ (.joined hj)
  | update q => exact List.forall_mem_cons.mpr ⟨htarget, hparents q.table⟩
  | delete q => exact List.forall_mem_singleton.mpr htarget

/-- Both stores carry a plan out. -/
theorem follow_plan (h : Mirrors m d database place)
    (hplan : command.planned (Storage.snapshot m database) caller = .ok plan)
    (hnames : ∀ table, command.Names table → d.Nameable database table)
    (htexts : ∀ text ∈ command.texts, Text.Unbroken text.toList) :
    Follow m d database place plan.edits := by
  have hn := hnames _ (.target command)
  have hwritten := Command.written_unbroken hplan htexts fun records hrecords =>
    h.unbroken _ records ((Memory.snapshot_records ..).mp hrecords)
  cases command with
  | create q =>
    obtain ⟨columns, -, hasked, -, rfl⟩ := Command.planned_create.mp hplan
    refine (h.define hn _ fun definition hread parent hparent =>
      hnames parent (.referred hasked hread hparent)).cons fun tree hmirrors => ?_
    exact hmirrors.provision (hn.of_root rfl)
  | insert q =>
    obtain ⟨definition, fields, hopen, -, hnew, rfl⟩ := Command.planned_insert.mp hplan
    obtain ⟨records, hrecords, -⟩ := Definition.checkNew_eq_ok.mp hnew
    rw [Snapshot.load_name (Snapshot.open_eq_ok.mp hopen).1, Memory.snapshot_records] at hrecords
    exact h.append hn hrecords (hwritten _ List.mem_cons_self _ List.mem_cons_self)
  | select q =>
    obtain ⟨definition, records, rows, joined, result, -, -, -, -, -, rfl⟩ := Command.planned_select.mp hplan
    exact h.follow_nil
  | update q =>
    obtain ⟨definition, assigned, records, updated, -, -, -, -, -, rfl⟩ := Command.planned_update.mp hplan
    by_cases hcount : updated.countP (·.changed) = 0
    · rw [if_pos hcount]
      exact h.follow_nil
    · rw [if_neg hcount] at hwritten ⊢
      exact h.replace hn (hwritten _ List.mem_cons_self)
  | delete q =>
    obtain ⟨definition, records, -, -, -, rfl⟩ := Command.planned_delete.mp hplan
    by_cases hcount : (Record.rows records).countP (definition.picks q.conditions) = 0
    · rw [if_pos hcount]
      exact h.follow_nil
    · rw [if_neg hcount] at hwritten ⊢
      exact h.replace hn (hwritten _ List.mem_cons_self)

/-- A command gives the same answer on both stores, which mirror each other after it. -/
theorem step {e : Engine Memory} {e' : Engine Directory} (h : Mirrors e.store e'.store caller.database place)
    (hnames : ∀ table, command.Names table → e'.store.Nameable caller.database table)
    (htexts : ∀ text ∈ command.texts, Text.Unbroken text.toList) :
    (e.run caller command).1 = (e'.run caller command).1 ∧
      (e'.run caller command).2.store.root = e'.store.root ∧
      Mirrors (e.run caller command).2.store (e'.run caller command).2.store caller.database place := by
  have hplanned : command.planned (Storage.snapshot e.store caller.database) caller =
      command.planned (Storage.snapshot e'.store caller.database) caller :=
    Command.planned_alike fun request hrequest => h.alike (h.nameable_locked hnames request hrequest)
  cases hplan : command.planned (Storage.snapshot e.store caller.database) caller with
  | error fault =>
    obtain ⟨hanswer, hstore⟩ := Engine.run_of_refused hplan
    obtain ⟨hanswer', hstore'⟩ := Engine.run_of_refused (hplanned ▸ hplan)
    rw [hanswer, hanswer', hstore, hstore']
    exact ⟨rfl, rfl, h⟩
  | ok plan =>
    obtain ⟨hanswer, hstore⟩ := Engine.run_of_planned hplan
    obtain ⟨hanswer', hstore'⟩ := Engine.run_of_planned (hplanned ▸ hplan)
    obtain ⟨hok, tree, hcommit, hmirrors⟩ := h.follow_plan hplan hnames htexts
    rw [hanswer, hanswer', hstore, hstore', hok, hcommit]
    exact ⟨rfl, rfl, hmirrors⟩

end Mirrors

/-! ### Runs -/

/-- A database that is there, with nothing in its folder. -/
def Directory.Fresh (d : Directory) (database : String) : Prop :=
  d.check database = .ok () ∧ d.tree.list (d.folder database) = .ok []

instance (d : Directory) (database : String) : Decidable (d.Fresh database) :=
  inferInstanceAs (Decidable (_ ∧ _))

/-- All tables that a query names may have files in the folder of the database. -/
def Directory.Admits (d : Directory) (database query : String) : Prop :=
  ∀ command, Command.ofText query = .ok command → ∀ table, command.Names table → d.Nameable database table

/-- A database in memory and one in a folder hold the same: the same tables, all of which have names that
may name files, and for each of these the same definition and, but for blank ones, the same records. -/
structure SameData (m : Memory) (d : Directory) (database : String) : Prop where
  tables : ∃ names, Storage.tables m database = .ok names ∧ Storage.tables d database = .ok names ∧
    ∀ table ∈ names, d.Nameable database table
  schema : ∀ table, d.Nameable database table →
    (Storage.snapshot m database).schema table = (Storage.snapshot d database).schema table
  rows : ∀ table, d.Nameable database table →
    ((Storage.snapshot m database).records table).map Record.rows =
      ((Storage.snapshot d database).records table).map Record.rows

/-- The answers to a list of queries, each with its caller. -/
def Engine.answers {σ : Type} [Storage σ] (e : Engine σ) :
    List (Caller × String) → List (Except QueryError Answer)
  | [] => []
  | input :: rest => (e.execute input.1 input.2).1 :: (e.execute input.1 input.2).2.answers rest

theorem Directory.Fresh.mirrors {d : Directory} {database : String} (h : d.Fresh database) :
    ∃ place, Mirrors Memory.empty d database place := by
  obtain ⟨place, hhere⟩ := check_eq_ok.mp h.1
  obtain ⟨listed, hlist, hmem⟩ := FileTree.list_eq hhere.resolve hhere.folder
  cases h.2.symm.trans hlist
  have hnone : ∀ table, ∀ extension ∈ extensions,
      d.tree.node? (place ++ [fileName table extension]) = none := by
    intro table extension he
    rw [node?_file he, ← Option.not_isSome_iff_eq_none, ← hmem]
    exact List.not_mem_nil
  refine ⟨place, hhere, fun table => hnone table _ (by decide), fun table => ?_,
    fun table => hnone table _ (by decide), nofun, fun table definition hload => ?_, nofun⟩
  · rw [hnone table _ (by decide)]
    exact .absent
  · cases hload

namespace Mirrors
variable {m : Memory} {d : Directory} {database : String} {place : Place} {e : Engine Memory}
  {e' : Engine Directory}

theorem sameData (h : Mirrors m d database place) : SameData m d database := by
  refine ⟨⟨m.tables database, rfl, h.tables.symm, fun table htable => ?_⟩,
    fun table hn => (h.alike hn).schema, fun table hn => (h.alike hn).records⟩
  obtain ⟨⟨db, t⟩, hfound, rfl⟩ := List.mem_map.mp (NameSet.mem_ofList.mp htable)
  obtain ⟨hkey, hdb⟩ := List.mem_filter.mp hfound
  obtain rfl : db = database := by simpa using hdb
  obtain ⟨document, hdocument⟩ := Option.isSome_iff_exists.mp (Keyed.isSome_get?_iff.mpr hkey)
  exact h.nameable t document hdocument

/-- A query gives the same answer on both stores, which mirror each other after it. -/
theorem execute {caller : Caller} {query : String}
    (h : Mirrors e.store e'.store caller.database place) (hadmits : e'.store.Admits caller.database query) :
    (e.execute caller query).1 = (e'.execute caller query).1 ∧
      (e'.execute caller query).2.store.root = e'.store.root ∧
      Mirrors (e.execute caller query).2.store (e'.execute caller query).2.store caller.database place := by
  unfold Engine.execute
  cases hparse : Command.ofText query with
  | error fault => exact ⟨rfl, rfl, h⟩
  | ok command => exact h.step (hadmits command hparse) (Command.unbroken_texts hparse)

/-- So does a run of queries, each of its parts. -/
theorem run {inputs : List (Caller × String)} (h : Mirrors e.store e'.store database place)
    (hdatabase : ∀ input ∈ inputs, input.1.database = database)
    (hadmits : ∀ input ∈ inputs, e'.store.Admits database input.2) :
    e.answers inputs = e'.answers inputs ∧
      ∀ n, SameData (e.executeAll (inputs.take n)).store (e'.executeAll (inputs.take n)).store database := by
  induction inputs generalizing e e' with
  | nil => exact ⟨rfl, fun n => by simpa [Engine.executeAll] using h.sameData⟩
  | cons input rest ih =>
    obtain ⟨caller, query⟩ := input
    obtain rfl : caller.database = database := hdatabase _ List.mem_cons_self
    obtain ⟨hanswer, hroot, hmirrors⟩ := h.execute (hadmits _ List.mem_cons_self)
    obtain ⟨hanswers, hsame⟩ := ih hmirrors (fun i hi => hdatabase i (List.mem_cons_of_mem _ hi))
      fun i hi command hparse table hnamed =>
        (hadmits i (List.mem_cons_of_mem _ hi) command hparse table hnamed).of_root hroot
    refine ⟨by rw [Engine.answers, Engine.answers, hanswer, hanswers], fun n => ?_⟩
    cases n with
    | zero => simpa [Engine.executeAll] using h.sameData
    | succ n =>
      rw [List.take_succ_cons, Engine.executeAll_cons, Engine.executeAll_cons]
      exact hsame n

end Mirrors

namespace Engine

/-- **A database in files is as good as one in memory.** Queries on a database give the same answers,
errors included, whether it is in memory or in a folder that is empty at first, if the tables that they
name may have files there. After any number of the queries both hold the same. -/
theorem files_refine_memory {d : Directory} {database : String} (hfresh : d.Fresh database)
    (inputs : List (Caller × String)) (hdatabase : ∀ input ∈ inputs, input.1.database = database)
    (hadmits : ∀ input ∈ inputs, d.Admits database input.2) :
    (ofStore Memory.empty).answers inputs = (ofStore d).answers inputs ∧
      ∀ n, SameData ((ofStore Memory.empty).executeAll (inputs.take n)).store
        ((ofStore d).executeAll (inputs.take n)).store database := by
  obtain ⟨place, hmirrors⟩ := hfresh.mirrors
  exact Mirrors.run hmirrors hdatabase hadmits

/-- A new data folder with a database in it. -/
def barn : Directory := ((openAt FileTree.empty ⟨"data"⟩).2.ensureDatabase "kantor").2

def barnColumns : List Column :=
  [(Column.plain "id" .int).primary, (Column.plain "p" .int).references "t" "id"]

/-- Queries of one caller. -/
def chores : List (Caller × String) :=
  ["DAMEL t id:INT:PK,p:INT:FK(t.id)", "SIMPEN t 1|NULL", "TINGALI t"].map (⟨"asep", "user", "kantor"⟩, ·)

theorem files_refine_memory_barn :
    barn.Fresh "kantor" ∧ (ofStore Memory.empty).answers chores = (ofStore barn).answers chores ∧
      ∀ n, SameData ((ofStore Memory.empty).executeAll (chores.take n)).store
        ((ofStore barn).executeAll (chores.take n)).store "kantor" := by
  have hfresh : barn.Fresh "kantor" := by decide +kernel
  have hn : barn.Nameable "kantor" "t" := ⟨by decide +kernel, by decide +kernel, by decide +kernel⟩
  have hcreate : barn.Admits "kantor" "DAMEL t id:INT:PK,p:INT:FK(t.id)" := by
    intro command hparse table hnamed
    have hparsed : Command.ofText "DAMEL t id:INT:PK,p:INT:FK(t.id)" =
        .ok (.create ⟨"t", "id:INT:PK,p:INT:FK(t.id)", none⟩) := by decide +kernel
    cases hparsed.symm.trans hparse
    cases hnamed with
    | target => exact hn
    | referred hasked hread hparent =>
      have hasked' : Column.listOfText "id:INT:PK,p:INT:FK(t.id)" = .ok barnColumns := by decide +kernel
      cases hasked'.symm.trans hasked
      have hread' : Definition.decode "t" (Definition.encode ⟨"t", barnColumns, .standard⟩) =
          .ok ⟨"t", barnColumns, .standard⟩ := by decide +kernel
      cases hread'.symm.trans hread
      obtain rfl := List.mem_singleton.mp (NameSet.mem_ofList.mp hparent)
      exact hn
  have hinsert : barn.Admits "kantor" "SIMPEN t 1|NULL" := by
    intro command hparse table hnamed
    have hparsed : Command.ofText "SIMPEN t 1|NULL" = .ok (.insert ⟨"t", "1|NULL"⟩) := by decide +kernel
    cases hparsed.symm.trans hparse
    cases hnamed
    exact hn
  have hselect : barn.Admits "kantor" "TINGALI t" := by
    intro command hparse table hnamed
    have hparsed : Command.ofText "TINGALI t" = .ok (.select (.ofFields "t" ["*"])) := by
      decide +kernel
    cases hparsed.symm.trans hparse
    cases hnamed with
    | target => exact hn
    | joined hj => cases hj
  refine ⟨hfresh, files_refine_memory hfresh chores (by decide) fun input hinput => ?_⟩
  obtain ⟨query, hquery, rfl⟩ := List.mem_map.mp hinput
  simp only [List.mem_cons, List.not_mem_nil, or_false] at hquery
  obtain rfl | rfl | rfl := hquery
  exacts [hcreate, hinsert, hselect]

end Engine

end Leuit
