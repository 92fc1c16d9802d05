import Leuit.Proofs.FileMaps
import Leuit.Proofs.Sessions

/-! Where a session is. In a data folder that the engine alone has written (`Directory.Written`) the databases
that are listed have names that databases may have (`Directory.Written.named`), and one without a slash in
its name is listed if it is there (`Directory.Opened.lists_of_hasDatabase`). A session is always in a database
that is there, and leaves it by the command for it only (`Console.Session.handleLine_resides`). The command
looks for a folder and takes any text that leads to one, so that a text with a slash may take the session to
a database that no list has; it is listed exactly if there is no slash (`Console.Session.current_database`). -/
namespace Leuit

/-! ### Paths -/

/-- A path that something can be named in can be one, unless it is empty. -/
theorem Path.check_of_join {folder : Path} {name : String} (hne : folder.text ≠ "")
    (h : (folder.join name).check = .ok ()) : folder.check = .ok () := by
  have htext : ∃ rest, (folder.join name).text = folder.text ++ rest := by
    unfold join
    split
    · exact ⟨_, rfl⟩
    · exact ⟨"/" ++ name, String.append_assoc ..⟩
  obtain ⟨rest, htext⟩ := htext
  rw [check, htext, String.toList_append, String.utf8ByteSize_append] at h
  split at h
  · cases h
  · next hend =>
    split at h
    · cases h
    · split at h
      · cases h
      · next hlong =>
        have hfolder : folder.text.toList.contains '\x00' = false := by
          by_contra hmem
          exact hend (by simp_all)
        rw [check, hfolder, if_neg (by simp), if_neg hne, if_neg (by omega)]

namespace FileTree
variable {t : FileTree} {path : Path}

theorem isFolder_iff :
    t.isFolder path = true ↔ ∃ place, t.resolve path = .ok place ∧ t.node? place = some .folder := by
  unfold isFolder find
  cases t.resolve path with
  | error e => simp
  | ok place =>
    rcases hnode : t.node? place with _ | _ | text <;> simp [hnode]

end FileTree

/-! ### Data folders of the engine -/

namespace Directory
variable {d : Directory} {base : Place} {database : String}

theorem hasDatabase_iff : d.hasDatabase database = true ↔
    ∃ place, d.tree.resolve (d.folder database) = .ok place ∧ d.tree.node? place = some .folder :=
  FileTree.isFolder_iff

theorem requireDatabase_eq_ok : d.requireDatabase database = .ok () ↔ d.hasDatabase database = true := by
  simp [requireDatabase]

/-- A database without a slash in its name is the folder of that name in the data folder. -/
theorem Rooted.folder_of_hasDatabase (h : d.Rooted base) (hslash : '/' ∉ database.toList)
    (hthere : d.hasDatabase database = true) : d.tree.node? (placeOf base database) = some .folder := by
  obtain ⟨place, hresolve, hnode⟩ := hasDatabase_iff.mp hthere
  obtain ⟨-, -, -, hup, -⟩ := folderName_ne_of_not_mem hslash
  unfold FileTree.resolve at hresolve
  split at hresolve
  · cases hresolve
  · rw [names_folder_of_not_mem d hslash, FileTree.locate_append, h.located] at hresolve
    dsimp only at hresolve
    rw [FileTree.locate_single h.folder hup] at hresolve
    split at hresolve
    · cases hresolve
    · cases hresolve
      exact hnode

/-- There is no list without a path of the data folder. -/
theorem Opened.text_ne_of_lists (h : d.Opened base) (hlists : d.Lists database) : d.root.text ≠ "" := by
  intro hempty
  have hcheck := (h.lists_iff.mp hlists).1
  simp [Path.check, hempty] at hcheck

theorem Opened.lists_of_hasDatabase (h : d.Opened base) (hroot : d.root.text ≠ "")
    (hslash : '/' ∉ database.toList) (hthere : d.hasDatabase database = true) : d.Lists database := by
  refine h.lists_iff.mpr ⟨?_, h.folder_of_hasDatabase hslash hthere⟩
  obtain ⟨place, hresolve, -⟩ := hasDatabase_iff.mp hthere
  unfold FileTree.resolve at hresolve
  split at hresolve
  · cases hresolve
  · next hcheck => exact Path.check_of_join hroot hcheck

theorem nameAllowed_of_createDatabase {role : String} (h : (d.createDatabase role database).1 = .ok ()) :
    Definition.nameAllowed database = true := by
  unfold createDatabase at h
  split at h
  · cases h
  · split at h
    · cases h
    · next hname => exact nameAllowed_of_checkDatabaseName hname

/-- Data folders that the engine alone has written: it started in an empty one, made databases there and
executed queries. -/
inductive Written (base : Place) : Directory → Prop where
  | vacant {d : Directory} (hsound : d.tree.Sound) (h : d.Vacant base) : Written base d
  | ensured {d : Directory} (h : Written base d) (database : String) :
    Written base (d.ensureDatabase database).2
  | created {d : Directory} (h : Written base d) (role database : String) :
    Written base (d.createDatabase role database).2
  | executed {e : Engine Directory} (h : Written base e.store) (caller : Caller) (query : String) :
    Written base (e.execute caller query).2.store

theorem Written.opened (h : d.Written base) : d.Opened base := by
  induction h with
  | vacant hsound h => exact ⟨⟨h.located, h.folder⟩, hsound⟩
  | ensured _ database ih => exact ih.ensureDatabase database
  | @created d _ role database ih =>
    rcases ih.createDatabase_cases role database with hkept | ⟨-, hfree, hmade⟩
    · rwa [hkept]
    · rw [hmade]
      exact ih.put hfree
  | @executed e _ caller query ih => exact ih.of_filesOnly (e.execute_filesOnly caller query)

/-- The folders of databases have names that databases may have. -/
def Named (t : FileTree) (base : Place) : Prop :=
  ∀ name, t.node? (placeOf base name) = some .folder → Definition.nameAllowed name = true

theorem Named.put {t : FileTree} (h : Named t base) (hallowed : Definition.nameAllowed database = true)
    (hfree : t.node? (placeOf base database) = none) :
    Named (t.put (placeOf base database) .folder) base := by
  intro name hnode
  rw [FileTree.node?_put_of_not_folder (by rw [hfree]; simp)] at hnode
  split at hnode
  · next hsame => rwa [placeOf_eq_iff.mp hsame]
  · exact h name hnode

theorem Written.named (h : d.Written base) : Named d.tree base := by
  induction h with
  | vacant _ h =>
    intro name hnode
    rw [node?_placeOf, h.nothing _ (List.cons_ne_nil _ [])] at hnode
    cases hnode
  | ensured h database ih =>
    rcases h.opened.ensureDatabase_cases database with hkept | ⟨hallowed, hfree, hmade⟩
    · rwa [hkept]
    · rw [hmade]
      exact ih.put hallowed hfree
  | created h role database ih =>
    rcases h.opened.createDatabase_cases role database with hkept | ⟨-, hfree, hmade⟩
    · rwa [hkept]
    · have hallowed := nameAllowed_of_createDatabase (congrArg Prod.fst hmade)
      rw [hmade]
      exact ih.put hallowed hfree
  | @executed e h caller query ih =>
    exact fun name hnode => ih name (((e.execute_filesOnly caller query).tree.folders _).mp hnode)

theorem Written.allowed_of_lists (h : d.Written base) (hlists : d.Lists database) :
    Definition.nameAllowed database = true :=
  h.named database (h.opened.lists_iff.mp hlists).2

/-- A database that is there is listed exactly if its name has no slash in it and the data folder a path. -/
theorem Written.lists_iff (h : d.Written base) (hthere : d.hasDatabase database = true) :
    d.Lists database ↔ d.root.text ≠ "" ∧ '/' ∉ database.toList :=
  ⟨fun hlists => ⟨h.opened.text_ne_of_lists hlists, slash_not_mem (h.allowed_of_lists hlists)⟩,
    fun ⟨hroot, hslash⟩ => h.opened.lists_of_hasDatabase hroot hslash hthere⟩

end Directory

/-! ### Sessions -/

namespace Console.Session
variable {s : Session} {line : String} {base : Place}

/-- A session is in a database that is there, in a data folder that the engine alone has written. -/
structure Resides (s : Session) (base : Place) : Prop where
  written : s.engine.store.Written base
  there : s.engine.store.hasDatabase s.caller.database = true

theorem handleLine_written (h : s.engine.store.Written base) (line : String) :
    (s.handleLine line).2.engine.store.Written base := by
  cases hc : shellCommand? line with
  | none =>
    rcases handleLine_of_query hc with ⟨hblank, -⟩ | ⟨-, hafter, -⟩
    · rwa [hblank]
    · rw [hafter]
      dsimp only
      exact .executed h s.caller (Text.trim line)
  | some c =>
    have hsame : (s.command c).2.engine.store = s.engine.store →
        (s.command c).2.engine.store.Written base := fun hsame => hsame ▸ h
    rw [handleLine_of_command hc]
    cases c with
    | use database =>
      apply hsame
      rw [command_use, useDatabase]
      cases s.engine.store.requireDatabase database <;> rfl
    | createDatabase name =>
      have hmade : (s.command (.createDatabase name)).2.engine.store =
          (s.engine.store.createDatabase s.caller.role name).2 := rfl
      rw [hmade]
      exact .created h s.caller.role name
    | _ => exact hsame rfl

/-- A line takes no folder away. -/
theorem handleLine_keepsFolders (h : s.engine.store.Opened base) (line : String) :
    (s.handleLine line).2.engine.store.root = s.engine.store.root ∧
      s.engine.store.tree.KeepsFolders (s.handleLine line).2.engine.store.tree := by
  rcases handleLine_store h line with ⟨hfiles, -⟩ | ⟨name, -, -, hfree, hmade⟩
  · exact ⟨hfiles.root, hfiles.tree.keepsFolders⟩
  · rw [hmade]
    exact ⟨rfl, .put .folder (by rw [hfree]; simp)⟩

/-- A line leaves the session in its database, or is the command that takes it to another one. -/
theorem handleLine_database (s : Session) (line : String) :
    (s.handleLine line).2.caller.database = s.caller.database ∨
      shellCommand? line = some (.use (s.handleLine line).2.caller.database) ∧
        s.engine.store.hasDatabase (s.handleLine line).2.caller.database = true := by
  rcases s.handleLine_caller line with hsame | ⟨database, hline, hthere, hafter⟩
  · exact .inl (by rw [hsame])
  · rw [hafter]
    exact .inr ⟨hline, Directory.requireDatabase_eq_ok.mp hthere⟩

/-- Whatever the line is, the session is in a database that is there. -/
theorem handleLine_resides (h : s.Resides base) (line : String) : (s.handleLine line).2.Resides base := by
  have hkept : ∀ {database : String}, s.engine.store.hasDatabase database = true →
      (s.handleLine line).2.engine.store.hasDatabase database = true := by
    intro database hthere
    obtain ⟨hroot, hkeep⟩ := handleLine_keepsFolders h.written.opened line
    rw [Directory.hasDatabase, Directory.folder, hroot]
    exact hkeep.isFolder hthere
  refine ⟨handleLine_written h.written line, hkept ?_⟩
  rcases s.handleLine_database line with hsame | ⟨-, hthere⟩
  · rw [hsame]
    exact h.there
  · exact hthere

theorem afterLines_resides (h : s.Resides base) (lines : List String) : (s.afterLines lines).Resides base := by
  induction lines generalizing s with
  | nil => exact h
  | cons line rest ih => exact ih (handleLine_resides h line)

theorem afterLines_root (h : s.Resides base) (lines : List String) :
    (s.afterLines lines).engine.store.root = s.engine.store.root := by
  induction lines generalizing s with
  | nil => rfl
  | cons line rest ih =>
    exact (ih (handleLine_resides h line)).trans (handleLine_keepsFolders h.written.opened line).1

/-- The commands among the lines that take the session to a database name one without a slash. -/
def UsesPlain (lines : List String) : Prop :=
  ∀ line ∈ lines, ∀ database, shellCommand? line = some (.use database) → '/' ∉ database.toList

/-- Such commands lead to no name with a slash. -/
theorem slash_not_mem_afterLines (hstart : '/' ∉ s.caller.database.toList) {lines : List String}
    (huses : UsesPlain lines) : '/' ∉ (s.afterLines lines).caller.database.toList := by
  induction lines generalizing s with
  | nil => exact hstart
  | cons line rest ih =>
    refine ih ?_ fun line hline => huses line (List.mem_cons_of_mem _ hline)
    rcases s.handleLine_database line with hsame | ⟨hline, -⟩
    · rwa [hsame]
    · exact huses line List.mem_cons_self _ hline

/-- What is known of the database of a session after lines of input. -/
structure InDatabase (s : Session) (lines : List String) : Prop where
  there : (s.afterLines lines).engine.store.hasDatabase (s.afterLines lines).caller.database = true
  /-- It is in the list of databases exactly if its name has no slash in it, and the data folder a path. -/
  listed : (s.afterLines lines).engine.store.Lists (s.afterLines lines).caller.database ↔
    s.engine.store.root.text ≠ "" ∧ '/' ∉ (s.afterLines lines).caller.database.toList
  /-- All that are in the list have names that databases may have. -/
  allowed : ∀ name, (s.afterLines lines).engine.store.Lists name → Definition.nameAllowed name = true
  /-- It has no slash in its name where no command led to one. -/
  plain : UsesPlain lines → '/' ∉ (s.afterLines lines).caller.database.toList
  /-- The next line leaves the session there, or is the command that names the next database. -/
  left : ∀ line, ((s.afterLines lines).handleLine line).2.caller.database =
      (s.afterLines lines).caller.database ∨
    shellCommand? line = some (.use ((s.afterLines lines).handleLine line).2.caller.database)

/-- **A session is always in a database that is there**, and in one of the list unless its name has a slash. -/
theorem current_database (s : Session) (hwritten : ∃ base, s.engine.store.Written base)
    (hthere : s.engine.store.hasDatabase s.caller.database = true)
    (hallowed : Definition.nameAllowed s.caller.database = true) (lines : List String) :
    s.InDatabase lines := by
  obtain ⟨base, hwritten⟩ := hwritten
  have hstart : s.Resides base := ⟨hwritten, hthere⟩
  have hnow := afterLines_resides hstart lines
  refine ⟨hnow.there, ?_, fun name => hnow.written.allowed_of_lists,
    slash_not_mem_afterLines (Directory.slash_not_mem hallowed), fun line => ?_⟩
  · rw [hnow.written.lists_iff hnow.there, afterLines_root hstart]
  · exact ((s.afterLines lines).handleLine_database line).imp_right And.left

/-- A session in a new data folder. -/
def newcomer : Session := ⟨.ofStore fresh, ⟨"asep", adminRole, "default"⟩, false, false⟩

theorem written_fresh : fresh.Written ["data"] := by
  have hsound : Directory.granary.tree.Sound := (FileTree.Sound.empty.makeFolders ⟨"data"⟩).1
  exact .ensured (.vacant hsound Directory.vacant_granary) "default"

theorem current_database_office :
    let lines := [".createdb kantor", ".use kantor", "DAMEL t id:INT", ".use luar", ".use ../kantor"]
    (∃ base, newcomer.engine.store.Written base) ∧
      newcomer.engine.store.hasDatabase newcomer.caller.database = true ∧
      Definition.nameAllowed newcomer.caller.database = true ∧ newcomer.InDatabase lines ∧
      (newcomer.afterLines lines).caller.database = "kantor" := by
  intro lines
  have hwritten : ∃ base, newcomer.engine.store.Written base := ⟨_, written_fresh⟩
  have hthere : newcomer.engine.store.hasDatabase newcomer.caller.database = true := by decide +kernel
  have hallowed : Definition.nameAllowed newcomer.caller.database = true := by decide +kernel
  have hnow := current_database newcomer hwritten hthere hallowed lines
  exact ⟨hwritten, hthere, hallowed, hnow, by decide +kernel⟩

/-- A text that leads to the folder of a database takes a session to a database that no list has. -/
theorem unlisted_database_used :
    (∃ base, newcomer.engine.store.Written base) ∧
      newcomer.engine.store.databases = .ok [newcomer.caller.database] ∧
      (newcomer.afterLines [".use default/"]).caller.database = "default/" ∧
      (newcomer.afterLines [".use default/"]).engine.store.databases = .ok ["default"] ∧
      Definition.nameAllowed "default/" = false :=
  ⟨⟨_, written_fresh⟩, by decide +kernel⟩

end Console.Session

end Leuit
