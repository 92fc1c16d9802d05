import Leuit.Proofs.DataFolders
import Leuit.Proofs.SoundTrees

/-! Open data folders: those that stand at a place, in a sound tree (`Directory.Opened`). The databases of one
are listed if its path can be one, and they are the folders with the names of databases in it
(`Directory.Opened.lists_iff`); what is read of its tables are the files in these
(`Directory.Opened.reads_file_iff`). Queries change files only (`Engine.execute_filesOnly`), so no query
makes or removes a database. Making a database does nothing, or puts its folder where nothing is, and this
only for a role with the privilege (`Directory.Opened.createDatabase_cases`); no table is touched then
(`Directory.Opened.sameTables_put`). -/
namespace Leuit

namespace Directory
variable {d d' : Directory} {base : Place} {database table extension : String}

structure Opened (d : Directory) (base : Place) : Prop extends d.Rooted base where
  sound : d.tree.Sound

/-- What is opened in a sound tree is open. -/
theorem openAt_eq_ok {tree : FileTree} {root : Path} (h : tree.Sound)
    (hopen : openAt tree root = (.ok (), d)) : ∃ base, d.Opened base := by
  obtain ⟨hsound, -⟩ := h.makeFolders root
  unfold openAt makeFolders at hopen
  rcases hmade : tree.makeFolders root with ⟨fault | _, made⟩
  · rw [hmade] at hopen
    cases hopen
  · rw [hmade] at hopen hsound
    cases hopen
    obtain ⟨base, hlocated, hfolder⟩ := FileTree.makeFolders_eq_ok hmade
    exact ⟨base, ⟨hlocated, hfolder⟩, hsound⟩

/-- A database may be made in it, whoever asks. -/
theorem Opened.ensureDatabase (h : d.Opened base) (database : String) :
    (d.ensureDatabase database).2.Opened base := by
  unfold Directory.ensureDatabase
  split
  · exact h
  · split
    · exact h
    · obtain ⟨hsound, hkeep⟩ := h.sound.makeFolders (d.folder database)
      exact ⟨⟨hkeep.locate h.located, hkeep _ h.folder⟩, hsound⟩

/-! ### Changes of files -/

/-- Nothing but files differs between two data folders. -/
structure FilesOnly (d d' : Directory) : Prop where
  root : d'.root = d.root
  tree : d.tree.FilesOnly d'.tree

theorem FilesOnly.refl (d : Directory) : d.FilesOnly d := ⟨rfl, .refl _⟩

theorem FilesOnly.trans {d'' : Directory} (h : d.FilesOnly d') (h' : d'.FilesOnly d'') : d.FilesOnly d'' :=
  ⟨h'.root.trans h.root, h.tree.trans h'.tree⟩

theorem Opened.of_filesOnly (h : d.Opened base) (hfiles : d.FilesOnly d') : d'.Opened base := by
  have hkeep := hfiles.tree.keepsFolders
  refine ⟨⟨?_, hkeep _ h.folder⟩, hfiles.tree.sound h.sound⟩
  rw [hfiles.root]
  exact hkeep.locate h.located

theorem edit_filesOnly (d : Directory) (database : String) (e : Edit) :
    d.FilesOnly (d.edit database e).2 := by
  have hfiles : d.tree.FilesOnly (d.editFiles database e).2 := by
    cases e with
    | define table document => exact .replace ..
    | provision table => exact .makeFile ..
    | append table record => exact .append ..
    | replace table records => exact .replace ..
  unfold edit
  split
  · exact .refl d
  · exact ⟨rfl, hfiles⟩

theorem commit_filesOnly (d : Directory) (database : String) (edits : List Edit) :
    d.FilesOnly (Storage.commit d database edits).2 := by
  induction edits generalizing d with
  | nil => exact .refl d
  | cons e rest ih =>
    have hedit : d.FilesOnly (Storage.edit d database e).2 := d.edit_filesOnly database e
    rw [Storage.commit_cons_eq]
    split
    · exact hedit.trans (ih _)
    · exact hedit

/-! ### Databases -/

theorem databaseOf?_eq_some {name : String} :
    databaseOf? name = some database ↔ name = folderStart ++ database := by
  unfold databaseOf?
  rw [List.splitAt_eq]
  dsimp only
  rw [Option.ite_none_right_eq_some, Option.some.injEq, ← String.toList_inj, ← String.toList_inj,
    String.toList_append, String.toList_ofList]
  constructor
  · rintro ⟨hstart, hrest⟩
    rw [← List.take_append_drop folderStart.length name.toList, hstart, hrest]
  · intro hname
    rw [hname, ← String.length_toList]
    exact ⟨List.take_left, List.drop_left⟩

/-- A folder of a database is none of those that are always there. -/
theorem node?_placeOf (t : FileTree) (base : Place) (database : String) :
    t.node? (placeOf base database) = t.nodes.get? (placeOf base database) := by
  have hhead : (folderStart ++ database).toList.head? = some 'd' := by
    rw [String.toList_append]
    rfl
  refine FileTree.node?_concat ?_ ?_ <;> intro heq <;> rw [heq] at hhead <;> exact absurd hhead (by decide)

theorem placeOf_eq_iff {other : String} : placeOf base database = placeOf base other ↔ database = other := by
  rw [List.append_cancel_left_eq, List.cons.injEq, and_iff_left rfl, String.append_right_inj]

/-- The database is in the list of all databases, which can be made. -/
def Lists (d : Directory) (database : String) : Prop :=
  ∃ names, d.databases = .ok names ∧ database ∈ names

/-- Whether there is a list of databases depends on the path of the data folder. -/
theorem Opened.databases_eq (h : d.Opened base) :
    (∃ fault, d.root.check = .error fault ∧ d.databases = .error (mediumFault fault)) ∨
      d.root.check = .ok () ∧ ∃ names, d.databases = .ok names ∧
        ∀ name, name ∈ names ↔ d.tree.node? (placeOf base name) = some .folder := by
  cases hcheck : d.root.check with
  | error fault =>
    exact .inl ⟨fault, rfl, by simp only [databases, FileTree.list, FileTree.resolve, hcheck]⟩
  | ok u =>
    have hresolve : d.tree.resolve d.root = .ok base := by
      rw [FileTree.resolve, hcheck]
      exact h.located
    obtain ⟨listed, hlist, hmem⟩ := h.sound.list_eq hresolve h.folder
    refine .inr ⟨rfl, _, by simp only [databases, hlist]; rfl, fun name => ?_⟩
    rw [node?_placeOf, ← hmem]
    refine NameSet.mem_ofList.trans (List.mem_filterMap.trans ⟨?_, fun hentry => ?_⟩)
    · rintro ⟨⟨there, node⟩, hentry, hsome⟩
      rw [Option.ite_none_right_eq_some, databaseOf?_eq_some] at hsome
      obtain ⟨rfl, rfl⟩ := hsome
      exact hentry
    · exact ⟨_, hentry, by simp [databaseOf?_eq_some]⟩

theorem Opened.lists_iff (h : d.Opened base) :
    d.Lists database ↔ d.root.check = .ok () ∧ d.tree.node? (placeOf base database) = some .folder := by
  rcases h.databases_eq with ⟨fault, hcheck, hlist⟩ | ⟨hcheck, names, hlist, hmem⟩
  · simp [Lists, hcheck, hlist]
  · simp [Lists, hcheck, hlist, hmem]

/-- Where no folder is taken away, all databases that are listed stay so. -/
theorem Opened.databases_subset (h : d.Opened base) (h' : d'.Opened base) (hroot : d'.root = d.root)
    (hkeep : d.tree.KeepsFolders d'.tree) {names : List String} (hnames : d.databases = .ok names) :
    ∃ names', d'.databases = .ok names' ∧ names ⊆ names' := by
  rcases h.databases_eq with ⟨fault, -, hlist⟩ | ⟨hcheck, listed, hlist, hmem⟩
  · cases hnames.symm.trans hlist
  · cases hnames.symm.trans hlist
    rcases h'.databases_eq with ⟨fault, hcheck', -⟩ | ⟨-, listed', hlist', hmem'⟩
    · rw [hroot, hcheck] at hcheck'
      cases hcheck'
    · exact ⟨listed', hlist', fun name hname => (hmem' name).mpr (hkeep _ ((hmem name).mp hname))⟩

/-- Files make no databases. -/
theorem FilesOnly.lists_iff (hfiles : d.FilesOnly d') (h : d.Opened base) :
    d'.Lists database ↔ d.Lists database := by
  rw [(h.of_filesOnly hfiles).lists_iff, h.lists_iff, hfiles.root, hfiles.tree.folders]

/-! ### Making databases -/

/-- The roles of administrators are those above all others. -/
theorem requireRole_adminRole {role : String} (h : requireRole role adminRole = .ok ()) :
    role = adminRole ∨ role = superRole := by
  by_contra hnot
  rw [not_or] at hnot
  by_cases huser : role = userRole
  · subst huser
    exact absurd h (by decide)
  · have hlevel : roleLevel? role = none := by
      rw [roleLevel?, if_neg hnot.2, if_neg hnot.1, if_neg huser]
    have hlimit : roleLevel? adminRole = some 1 := by decide
    rw [requireRole, hlimit] at h
    simp [hlevel] at h

theorem nameAllowed_of_checkDatabaseName (h : checkDatabaseName database = .ok ()) :
    Definition.nameAllowed database = true := by
  by_contra hnot
  simp [checkDatabaseName, Definition.checkName, hnot, Except.mapError] at h

/-- Making a database changes nothing, or puts its folder where nothing is, for an administrator. -/
theorem Opened.createDatabase_cases (h : d.Opened base) (role database : String) :
    (d.createDatabase role database).2 = d ∨
      (role = adminRole ∨ role = superRole) ∧ d.tree.node? (placeOf base database) = none ∧
        d.createDatabase role database =
          (.ok (), { d with tree := d.tree.put (placeOf base database) .folder }) := by
  unfold createDatabase
  cases hrole : requireRole role adminRole with
  | error e => exact .inl rfl
  | ok u =>
    cases hname : checkDatabaseName database with
    | error e => exact .inl rfl
    | ok u =>
      dsimp only
      split
      · exact .inl rfl
      · have hmade := h.makeFolders_cases (nameAllowed_of_checkDatabaseName hname)
        exact hmade.imp_right (And.intro (requireRole_adminRole hrole))

/-- Making a database at the start changes nothing, or puts its folder where nothing is. -/
theorem Opened.ensureDatabase_cases (h : d.Opened base) (database : String) :
    (d.ensureDatabase database).2 = d ∨
      Definition.nameAllowed database = true ∧ d.tree.node? (placeOf base database) = none ∧
        (d.ensureDatabase database).2 = { d with tree := d.tree.put (placeOf base database) .folder } := by
  unfold Directory.ensureDatabase
  cases hname : checkDatabaseName database with
  | error e => exact .inl rfl
  | ok u =>
    have hallowed := nameAllowed_of_checkDatabaseName hname
    dsimp only
    split
    · exact .inl rfl
    · rcases h.makeFolders_cases hallowed with hkept | ⟨hfree, hmade⟩
      · exact .inl hkept
      · exact .inr ⟨hallowed, hfree, congrArg Prod.snd hmade⟩

/-! ### Tables -/

/-- The file of a table may be named in the data folder. -/
structure Reaches (d : Directory) (database table extension : String) : Prop where
  room : d.Roomy database
  allowed : Definition.nameAllowed table = true
  path : (d.file database table extension).text.utf8ByteSize ≤ Path.longest
  name : (fileName table extension).utf8ByteSize ≤ FileTree.longestName

/-- What is read of a table is the file in the folder of its database. -/
theorem Opened.reads_file_iff (h : d.Opened base) (he : extension ∈ extensions) {text : String} :
    d.checkTable database table = .ok () ∧ d.tree.read (d.file database table extension) = .ok text ↔
      d.Reaches database table extension ∧
        d.tree.node? (placeOf base database ++ [fileName table extension]) = some (.file text) := by
  constructor
  · rintro ⟨hcheck, hread⟩
    obtain ⟨hdatabase, hallowed⟩ := checkTable_eq_ok.mp hcheck
    obtain ⟨place, hhere⟩ := check_eq_ok.mp hdatabase
    have hroomy : d.Roomy database := by
      by_contra hnot
      obtain ⟨fault, hfault⟩ := (h.not_roomy hhere.allowed hnot).1
      cases hfault.symm.trans hhere.resolve
    cases (h.resolve hroomy).symm.trans hhere.resolve
    obtain ⟨there, hthere, hnode⟩ := FileTree.read_eq_ok.mp hread
    rw [hhere.resolve_file_eq hallowed he] at hthere
    split at hthere
    · cases hthere
    · next hshort =>
      rw [not_or, Nat.not_lt, Nat.not_lt] at hshort
      cases hthere
      exact ⟨⟨hroomy, hallowed, hshort.1, hshort.2⟩, hnode⟩
  · rintro ⟨hreaches, hnode⟩
    -- Where there is a file there is its folder, so the database is there.
    have hfolder := h.sound.grounded _ (by rw [hnode]; simp)
    rw [List.dropLast_concat] at hfolder
    have hhere : d.At database (placeOf base database) :=
      ⟨hreaches.room.allowed, h.resolve hreaches.room, hfolder⟩
    refine ⟨hhere.checkTable hreaches.allowed, FileTree.read_eq_ok.mpr ⟨_, ?_, hnode⟩⟩
    rw [hhere.resolve_file_eq hreaches.allowed he, if_neg]
    rw [not_or, Nat.not_lt, Nat.not_lt]
    exact ⟨hreaches.path, hreaches.name⟩

theorem readSchema_eq_some {document : String} :
    d.readSchema database table = .ok (some document) ↔ d.checkTable database table = .ok () ∧
      d.tree.read (d.file database table schemaExtension) = .ok document := by
  unfold readSchema
  cases d.checkTable database table with
  | error e => simp
  | ok u =>
    rcases d.tree.read (d.file database table schemaExtension) with e | text
    · cases e <;> simp
    · simp

/-- The tables of two data folders have the same definitions and the same records, and all files are the
same. -/
structure SameTables (d d' : Directory) : Prop where
  files : ∀ place text, d'.tree.node? place = some (.file text) ↔ d.tree.node? place = some (.file text)
  schemas : ∀ database table document,
    d'.readSchema database table = .ok (some document) ↔ d.readSchema database table = .ok (some document)
  records : ∀ database table records,
    d'.readRecords database table = .ok records ↔ d.readRecords database table = .ok records

theorem SameTables.refl (d : Directory) : d.SameTables d :=
  ⟨fun _ _ => .rfl, fun _ _ _ => .rfl, fun _ _ _ => .rfl⟩

/-- Tables are their files. -/
theorem Opened.sameTables (h : d.Opened base) (h' : d'.Opened base) (hroot : d'.root = d.root)
    (hfiles : ∀ place text,
      d'.tree.node? place = some (.file text) ↔ d.tree.node? place = some (.file text)) :
    d.SameTables d' := by
  have hreaches : ∀ {database table extension : String},
      d'.Reaches database table extension ↔ d.Reaches database table extension := by
    intro database table extension
    have hfile : d'.file database table extension = d.file database table extension := by
      rw [file, file, folder, folder, hroot]
    constructor
    · exact fun hr => ⟨hr.room.of_root hroot.symm, hr.allowed, hfile ▸ hr.path, hr.name⟩
    · exact fun hr => ⟨hr.room.of_root hroot, hr.allowed, hfile.symm ▸ hr.path, hr.name⟩
  have hread : ∀ {database table extension text : String}, extension ∈ extensions →
      (d'.checkTable database table = .ok () ∧
          d'.tree.read (d'.file database table extension) = .ok text ↔
        d.checkTable database table = .ok () ∧
          d.tree.read (d.file database table extension) = .ok text) := fun he => by
    rw [h'.reads_file_iff he, h.reads_file_iff he, hreaches, hfiles]
  refine ⟨hfiles, fun database table document => ?_, fun database table records => ?_⟩
  · rw [readSchema_eq_some, readSchema_eq_some, hread (by decide)]
  · rw [readRecords_eq_ok, readRecords_eq_ok, ← exists_and_left, ← exists_and_left]
    simp only [← and_assoc, hread (show recordExtension ∈ extensions by decide)]

section
variable (h : d.Opened base) (hfree : d.tree.node? (placeOf base database) = none)
include h hfree

/-- A new database leaves the data folder open. -/
theorem Opened.put : ({ d with tree := d.tree.put (placeOf base database) .folder } : Directory).Opened base := by
  have hnot : d.tree.node? (placeOf base database) ≠ some .folder := by rw [hfree]; simp
  have hkeep := FileTree.KeepsFolders.put .folder hnot
  refine ⟨⟨hkeep.locate h.located, hkeep _ h.folder⟩, h.sound.put .folder hnot ?_⟩
  rw [List.dropLast_concat]
  exact h.folder

/-- It touches no table. -/
theorem Opened.sameTables_put :
    d.SameTables { d with tree := d.tree.put (placeOf base database) .folder } := by
  have hnot : d.tree.node? (placeOf base database) ≠ some .folder := by rw [hfree]; simp
  refine h.sameTables (h.put hfree) rfl fun place text => ?_
  rw [FileTree.node?_put_of_not_folder hnot]
  split
  · next hplace => simp [hplace, hfree]
  · rfl

/-- It is listed with those that were there. -/
theorem Opened.lists_put {other : String} :
    Lists { d with tree := d.tree.put (placeOf base database) .folder } other ↔
      d.Lists other ∨ d.root.check = .ok () ∧ other = database := by
  have hnot : d.tree.node? (placeOf base database) ≠ some .folder := by rw [hfree]; simp
  rw [(h.put hfree).lists_iff, h.lists_iff]
  dsimp only
  rw [FileTree.node?_put_of_not_folder hnot, ← and_or_left]
  refine and_congr_right fun _ => ?_
  split
  · next hsame => simp [placeOf_eq_iff.mp hsame]
  · next hother => simp [mt placeOf_eq_iff.mpr hother]

end

end Directory

/-- Queries change files only. -/
theorem Engine.execute_filesOnly (e : Engine Directory) (caller : Caller) (query : String) :
    e.store.FilesOnly (e.execute caller query).2.store := by
  rcases e.execute_store caller query with hsame | ⟨command, plan, -, hcommitted⟩
  · rw [hsame]
    exact .refl _
  · rw [hcommitted]
    exact Directory.commit_filesOnly ..

end Leuit
