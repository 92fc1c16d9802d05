import Leuit.Administration.Databases
import Leuit.Proofs.TableFiles
import Mathlib.Data.List.Induction

/-! Data folders. Names that lead through a folder lead on from where it stands (`FileTree.locate_append`),
so the folder of a database stands right below the data folder, under its own name. Making databases in
an empty data folder makes these folders and nothing else (`Directory.Vacant.stocked`): a database is
there exactly if it was asked for under a name that a folder may have (`Directory.Stocked.check_iff`). -/
namespace Leuit

/-! ### Paths -/

namespace Path
variable {folder : Path} {name : String}

/-- A path into a folder does not end in a point. -/
theorem endsInPoint_join (hname : name ≠ "" ∧ name ≠ ".") (hslash : '/' ∉ name.toList) :
    (folder.join name).endsInPoint = false := by
  have hlone : Text.split '/' name = [name] := Text.split_of_not_mem hslash
  have hlast : ∃ start, Text.split '/' (folder.join name).text = start ++ [name] := by
    unfold join
    split
    · next h =>
      rcases (Bool.or_eq_true _ _).mp h with h | h
      · have hempty : folder.text = "" := by simpa using h
        exact ⟨[], by rw [hempty, String.empty_append, hlone, List.nil_append]⟩
      · have hslash : folder.text.toList.getLast? = some '/' := by simpa using h
        obtain ⟨start, hstart⟩ := List.getLast?_eq_some_iff.mp hslash
        refine ⟨Text.split '/' (String.ofList start), ?_⟩
        rw [← hlone, Text.split, String.toList_append, hstart, List.append_assoc, List.singleton_append,
          List.splitOn_append_cons_self, List.map_append, Text.split, Text.split, String.toList_ofList]
    · refine ⟨Text.split '/' folder.text, ?_⟩
      rw [← hlone, Text.split, String.toList_append, String.toList_append, List.append_assoc]
      show (List.splitOn '/' (folder.text.toList ++ '/' :: name.toList)).map String.ofList = _
      rw [List.splitOn_append_cons_self, List.map_append, Text.split, Text.split]
  obtain ⟨start, hstart⟩ := hlast
  simp [endsInPoint, hstart, hname]

end Path

/-! ### Places -/

namespace FileTree
variable {t : FileTree} {here base place : Place} {names rest : List String} {name : String}

/-- A place from which names lead to a folder is a folder. -/
theorem folder_of_locate (h : t.locate here names = .ok place) (hfolder : t.node? place = some .folder) :
    t.node? here = some .folder := by
  cases names with
  | nil =>
    cases h
    exact hfolder
  | cons name rest =>
    rw [locate] at h
    rcases hn : t.node? here with _ | _ | text
    · simp [hn] at h
    · rfl
    · simp [hn] at h

/-! ### Making folders -/

/-- Names that lead to a folder are passed over when folders are made along them. -/
theorem makeFoldersAlong_append {point made : Bool} {passed : List String}
    (hbase : t.locate [] (passed ++ names) = .ok base) (hfolder : t.node? base = some .folder) :
    t.makeFoldersAlong point made passed (names ++ [name]) =
      t.makeFoldersAlong point made (passed ++ names) [name] := by
  induction names generalizing passed with
  | nil => rw [List.append_nil, List.nil_append]
  | cons first rest ih =>
    rw [List.append_cons] at hbase
    have hstep := hbase
    rw [locate_append] at hstep
    cases hfirst : t.locate [] (passed ++ [first]) with
    | error e => simp [hfirst] at hstep
    | ok place =>
      rw [hfirst] at hstep
      rw [List.cons_append, makeFoldersAlong, hfirst, List.append_cons passed first rest, ← ih hbase]
      simp only [folder_of_locate hstep hfolder]

/-- Making the last folder of a path, where all before it are there and nothing is in its place. -/
theorem makeFoldersAlong_free {made : Bool} (hbase : t.locate [] names = .ok base)
    (hfolder : t.node? base = some .folder) (hup : name ≠ "..") (hlen : name.utf8ByteSize ≤ longestName)
    (hfree : t.node? (base ++ [name]) = none) :
    t.makeFoldersAlong false made [] (names ++ [name]) = (.ok (), t.put (base ++ [name]) .folder) := by
  have hlast := locate_append t [] names [name]
  rw [hbase] at hlast
  dsimp only at hlast
  rw [locate_single hfolder hup, if_neg (Nat.not_lt.mpr hlen)] at hlast
  rw [makeFoldersAlong_append hbase hfolder, List.nil_append, makeFoldersAlong, hlast]
  simp [hfree, makeFoldersAlong]

/-- Where something is, no folder is made. -/
theorem makeFoldersAlong_there {point made : Bool} (hbase : t.locate [] names = .ok base)
    (hfolder : t.node? base = some .folder) (hplace : t.locate [] (names ++ [name]) = .ok place)
    (hthere : t.node? place ≠ none) : (t.makeFoldersAlong point made [] (names ++ [name])).2 = t := by
  rw [makeFoldersAlong_append hbase hfolder, List.nil_append, makeFoldersAlong, hplace]
  dsimp only
  rcases hnode : t.node? place with _ | _ | text
  · exact absurd hnode hthere
  · rfl
  · rfl

/-- No folder is made under a name that is too long. -/
theorem makeFoldersAlong_tooLong {point made : Bool} (hbase : t.locate [] names = .ok base)
    (hfolder : t.node? base = some .folder) (hup : name ≠ "..")
    (hlen : longestName < name.utf8ByteSize) :
    t.makeFoldersAlong point made [] (names ++ [name]) = (.error .tooLong, t) := by
  have hlast := locate_append t [] names [name]
  rw [hbase] at hlast
  dsimp only at hlast
  rw [locate_single hfolder hup, if_pos hlen] at hlast
  rw [makeFoldersAlong_append hbase hfolder, List.nil_append, makeFoldersAlong, hlast]

end FileTree

/-! ### Databases in a data folder -/

namespace Directory
variable {d : Directory} {base : Place} {database : String}

/-- The data folder with databases made in it, one after the other. -/
def withDatabases (d : Directory) (databases : List String) : Directory :=
  databases.foldl (fun d database => (d.ensureDatabase database).2) d

/-- Where the folder of a database stands in the data folder. -/
abbrev placeOf (base : Place) (database : String) : Place := base ++ [folderStart ++ database]

/-- An empty data folder, which stands at a place. -/
structure Vacant (d : Directory) (base : Place) : Prop where
  located : d.tree.locate [] d.root.names = .ok base
  folder : d.tree.node? base = some .folder
  nothing : ∀ names, names ≠ [] → d.tree.nodes.get? (base ++ names) = none

/-- The name of a database may name a folder in the data folder. -/
structure Roomy (d : Directory) (database : String) : Prop where
  allowed : Definition.nameAllowed database = true
  path : (d.folder database).check = .ok ()
  name : (folderStart ++ database).utf8ByteSize ≤ FileTree.longestName

theorem Roomy.of_root {d' : Directory} (h : d.Roomy database) (hroot : d'.root = d.root) :
    d'.Roomy database :=
  ⟨h.allowed, by rw [folder, hroot]; exact h.path, h.name⟩

/-- A data folder in which there are the folders of some databases and of no others. -/
structure Stocked (d : Directory) (base : Place) (databases : List String) : Prop where
  located : d.tree.locate [] d.root.names = .ok base
  folder : d.tree.node? base = some .folder
  made : ∀ database, d.Roomy database → database ∈ databases →
    d.tree.node? (placeOf base database) = some .folder
  missing : ∀ database, d.Roomy database → database ∉ databases →
    d.tree.node? (placeOf base database) = none

/-- A name with the start of the folders of databases, and no slash in it, is none of those that lead
elsewhere. -/
theorem folderName_ne_of_not_mem (h : '/' ∉ database.toList) :
    '/' ∉ (folderStart ++ database).toList ∧ folderStart ++ database ≠ "" ∧
      folderStart ++ database ≠ "." ∧ folderStart ++ database ≠ ".." ∧ folderStart ++ database ≠ "/" := by
  have hslash : '/' ∉ (folderStart ++ database).toList := by
    rw [String.toList_append, List.mem_append, not_or]
    exact ⟨by decide, h⟩
  have hhead : (folderStart ++ database).toList.head? = some 'd' := by
    rw [String.toList_append]
    rfl
  refine ⟨hslash, ?_, ?_, ?_, ?_⟩ <;> intro heq <;> rw [heq] at hhead <;> exact absurd hhead (by decide)

theorem slash_not_mem (h : Definition.nameAllowed database = true) : '/' ∉ database.toList :=
  not_mem_of_nameAllowed h (by decide)

theorem folderName_ne (h : Definition.nameAllowed database = true) :
    '/' ∉ (folderStart ++ database).toList ∧ folderStart ++ database ≠ "" ∧
      folderStart ++ database ≠ "." ∧ folderStart ++ database ≠ ".." ∧ folderStart ++ database ≠ "/" :=
  folderName_ne_of_not_mem (slash_not_mem h)

theorem names_folder_of_not_mem (d : Directory) (h : '/' ∉ database.toList) :
    (d.folder database).names = d.root.names ++ [folderStart ++ database] := by
  obtain ⟨hslash, hempty, hpoint, -⟩ := folderName_ne_of_not_mem h
  exact Path.names_join ⟨hempty, hpoint⟩ hslash

theorem names_folder (d : Directory) (hallowed : Definition.nameAllowed database = true) :
    (d.folder database).names = d.root.names ++ [folderStart ++ database] :=
  names_folder_of_not_mem d (slash_not_mem hallowed)

/-- The data folder stands at a place. -/
structure Rooted (d : Directory) (base : Place) : Prop where
  located : d.tree.locate [] d.root.names = .ok base
  folder : d.tree.node? base = some .folder

namespace Rooted

/-- The folder of a database stands in the data folder. -/
theorem resolve (h : d.Rooted base) (hroomy : d.Roomy database) :
    d.tree.resolve (d.folder database) = .ok (placeOf base database) := by
  obtain ⟨-, -, -, hup, -⟩ := folderName_ne hroomy.allowed
  rw [FileTree.resolve, hroomy.path]
  dsimp only
  rw [names_folder d hroomy.allowed, FileTree.locate_append, h.located]
  dsimp only
  rw [FileTree.locate_single h.folder hup, if_neg (Nat.not_lt.mpr hroomy.name)]

/-- Without room for its folder nothing stands there, and nothing is made. -/
theorem not_roomy (h : d.Rooted base) (hallowed : Definition.nameAllowed database = true)
    (hroomy : ¬d.Roomy database) :
    (∃ fault, d.tree.resolve (d.folder database) = .error fault) ∧
      (d.tree.makeFolders (d.folder database)).2 = d.tree := by
  obtain ⟨-, -, -, hup, -⟩ := folderName_ne hallowed
  rw [FileTree.resolve, FileTree.makeFolders]
  cases hcheck : (d.folder database).check with
  | error e => exact ⟨⟨e, rfl⟩, by split <;> rfl⟩
  | ok u =>
    have hlong : FileTree.longestName < (folderStart ++ database).utf8ByteSize := by
      by_contra hshort
      exact hroomy ⟨hallowed, hcheck, Nat.not_lt.mp hshort⟩
    have hlocate := FileTree.locate_append d.tree [] d.root.names [folderStart ++ database]
    rw [h.located] at hlocate
    dsimp only at hlocate ⊢
    rw [FileTree.locate_single h.folder hup, if_pos hlong] at hlocate
    rw [names_folder d hallowed, hlocate, FileTree.makeFoldersAlong_tooLong h.located h.folder hup hlong]
    exact ⟨⟨_, rfl⟩, by split <;> rfl⟩

/-- The folder of a database is made where nothing is. -/
theorem makeFolders_free (h : d.Rooted base) (hroomy : d.Roomy database)
    (hfree : d.tree.node? (placeOf base database) = none) :
    d.tree.makeFolders (d.folder database) = (.ok (), d.tree.put (placeOf base database) .folder) := by
  obtain ⟨hslash, hempty, hpoint, hup, -⟩ := folderName_ne hroomy.allowed
  have hnonempty : (d.folder database).text ≠ "" := by
    intro hempty
    have hcheck := hroomy.path
    simp [Path.check, hempty] at hcheck
  have hend : (d.folder database).endsInPoint = false := Path.endsInPoint_join ⟨hempty, hpoint⟩ hslash
  rw [FileTree.makeFolders, if_neg hnonempty, hroomy.path, hend, names_folder d hroomy.allowed]
  exact FileTree.makeFoldersAlong_free h.located h.folder hup hroomy.name hfree

/-- Making the folder of a database changes nothing, or puts it where nothing is. -/
theorem makeFolders_cases (h : d.Rooted base) (hallowed : Definition.nameAllowed database = true) :
    (d.makeFolders (d.folder database)).2 = d ∨
      d.tree.node? (placeOf base database) = none ∧ d.makeFolders (d.folder database) =
        (.ok (), { d with tree := d.tree.put (placeOf base database) .folder }) := by
  have hsame : (d.tree.makeFolders (d.folder database)).2 = d.tree →
      (d.makeFolders (d.folder database)).2 = d := fun hkept => by
    show ({ d with tree := (d.tree.makeFolders (d.folder database)).2 } : Directory) = d
    rw [hkept]
  by_cases hroomy : d.Roomy database
  · cases hnode : d.tree.node? (placeOf base database) with
    | none =>
      refine .inr ⟨rfl, ?_⟩
      rw [makeFolders, h.makeFolders_free hroomy hnode]
      rfl
    | some node =>
      refine .inl (hsame ?_)
      have hresolve := h.resolve hroomy
      rw [FileTree.resolve, hroomy.path, names_folder d hallowed] at hresolve
      rw [FileTree.makeFolders, hroomy.path, names_folder d hallowed]
      dsimp only
      split
      · rfl
      · exact FileTree.makeFoldersAlong_there h.located h.folder hresolve (by simp [hnode])
  · exact .inl (hsame (h.not_roomy hallowed hroomy).2)

end Rooted

namespace Stocked
variable {databases : List String}

theorem rooted (h : d.Stocked base databases) : d.Rooted base := ⟨h.located, h.folder⟩

/-- Without room for its folder a database is not there, and is not made. -/
theorem not_roomy (h : d.Stocked base databases) (hallowed : Definition.nameAllowed database = true)
    (hroomy : ¬d.Roomy database) :
    d.hasDatabase database = false ∧ (d.tree.makeFolders (d.folder database)).2 = d.tree := by
  obtain ⟨⟨fault, hresolve⟩, hmade⟩ := h.rooted.not_roomy hallowed hroomy
  exact ⟨by rw [hasDatabase, FileTree.isFolder, FileTree.find, hresolve], hmade⟩

/-- A database is there if its folder was made. -/
theorem at_made (h : d.Stocked base databases) (hroomy : d.Roomy database) (hmem : database ∈ databases) :
    d.At database (placeOf base database) :=
  ⟨hroomy.allowed, h.rooted.resolve hroomy, h.made _ hroomy hmem⟩

theorem hasDatabase_eq (h : d.Stocked base databases) (hroomy : d.Roomy database) :
    d.hasDatabase database = decide (database ∈ databases) := by
  rw [hasDatabase, FileTree.isFolder, FileTree.find, h.rooted.resolve hroomy]
  by_cases hmem : database ∈ databases
  · simp [h.made _ hroomy hmem, hmem]
  · simp [h.missing _ hroomy hmem, hmem]

/-- The databases that are there are those whose folders were made. -/
theorem check_iff (h : d.Stocked base databases) :
    d.check database = .ok () ↔ d.Roomy database ∧ database ∈ databases := by
  constructor
  · intro hcheck
    obtain ⟨place, hhere⟩ := check_eq_ok.mp hcheck
    have hthere : d.hasDatabase database = true := by
      rw [hasDatabase, FileTree.isFolder, FileTree.find, hhere.resolve]
      simp [hhere.folder]
    by_cases hroomy : d.Roomy database
    · rw [h.hasDatabase_eq hroomy, decide_eq_true_eq] at hthere
      exact ⟨hroomy, hthere⟩
    · rw [(h.not_roomy hhere.allowed hroomy).1] at hthere
      cases hthere
  · rintro ⟨hroomy, hmem⟩
    exact check_eq_ok.mpr ⟨_, h.at_made hroomy hmem⟩

/-! ### Making databases -/

/-- Making a database changes nothing, or puts its folder where nothing is. -/
theorem ensure_cases (h : d.Stocked base databases) (database : String) :
    ((d.ensureDatabase database).2 = d ∧ (d.Roomy database → database ∈ databases)) ∨
      (d.Roomy database ∧ d.tree.node? (placeOf base database) = none ∧
        (d.ensureDatabase database).2 =
          { d with tree := d.tree.put (placeOf base database) .folder }) := by
  by_cases hallowed : Definition.nameAllowed database = true
  · have hname : checkDatabaseName database = .ok () := by
      simp [checkDatabaseName, Definition.checkName, hallowed, Except.mapError]
    by_cases hroomy : d.Roomy database
    · have hthere := h.hasDatabase_eq hroomy
      by_cases hmem : database ∈ databases
      · exact .inl ⟨by simp [ensureDatabase, hname, hthere, hmem], fun _ => hmem⟩
      · have hfree := h.missing _ hroomy hmem
        refine .inr ⟨hroomy, hfree, ?_⟩
        simp only [ensureDatabase, hname, hthere, hmem, makeFolders, h.rooted.makeFolders_free hroomy hfree]
        rfl
    · obtain ⟨hthere, hmade⟩ := h.not_roomy hallowed hroomy
      refine .inl ⟨?_, fun hr => absurd hr hroomy⟩
      simp [ensureDatabase, hname, hthere, makeFolders, hmade]
  · refine .inl ⟨?_, fun hr => absurd hr.allowed hallowed⟩
    simp [ensureDatabase, checkDatabaseName, Definition.checkName, hallowed, Except.mapError]

/-- One more database, and nothing else. -/
theorem ensure (h : d.Stocked base databases) (database : String) :
    (d.ensureDatabase database).2.root = d.root ∧
      (d.ensureDatabase database).2.Stocked base (databases ++ [database]) ∧
      ∀ place, (∀ name, place ≠ base ++ [name]) →
        (d.ensureDatabase database).2.tree.node? place = d.tree.node? place := by
  rcases h.ensure_cases database with ⟨hsame, hthere⟩ | ⟨hroomy, hfree, hmade⟩
  · rw [hsame]
    refine ⟨rfl, ⟨h.located, h.folder, fun other hroomy hmem => ?_, fun other hroomy hmem => ?_⟩,
      fun _ _ => rfl⟩
    · refine h.made other hroomy ?_
      rcases List.mem_append.mp hmem with hmem | hmem
      · exact hmem
      · obtain rfl := List.mem_singleton.mp hmem
        exact hthere hroomy
    · exact h.missing other hroomy fun hother => hmem (List.mem_append_left _ hother)
  · rw [hmade]
    have hnot : d.tree.node? (placeOf base database) ≠ some .folder := by rw [hfree]; simp
    have hput := FileTree.node?_put_of_not_folder hnot .folder
    have hkeep := FileTree.KeepsFolders.put .folder hnot
    refine ⟨rfl, ⟨hkeep.locate h.located, hkeep _ h.folder, fun other hroomy' hmem => ?_,
      fun other hroomy' hmem => ?_⟩, fun place hplace => ?_⟩
    · rw [hput]
      split
      · rfl
      · next hne =>
        refine h.made other (hroomy'.of_root rfl) ?_
        rcases List.mem_append.mp hmem with hmem | hmem
        · exact hmem
        · exact absurd (by rw [List.mem_singleton.mp hmem]) hne
    · rw [List.mem_append, not_or, List.mem_singleton] at hmem
      rw [hput, if_neg]
      · exact h.missing other (hroomy'.of_root rfl) hmem.1
      · rw [List.append_cancel_left_eq, List.cons.injEq, and_iff_left rfl, String.append_right_inj]
        exact hmem.2
    · rw [hput, if_neg (hplace _)]

end Stocked

/-- Making databases in an empty data folder makes their folders and nothing else. -/
theorem Vacant.stocked (h : d.Vacant base) (databases : List String) :
    (d.withDatabases databases).root = d.root ∧ (d.withDatabases databases).Stocked base databases ∧
      ∀ place, (∀ name, place ≠ base ++ [name]) →
        (d.withDatabases databases).tree.node? place = d.tree.node? place := by
  induction databases using List.reverseRecOn with
  | nil =>
    refine ⟨rfl, ⟨h.located, h.folder, nofun, fun database hroomy _ => ?_⟩, fun _ _ => rfl⟩
    obtain ⟨-, -, -, hup, htop⟩ := folderName_ne hroomy.allowed
    exact (FileTree.node?_concat hup htop).trans (h.nothing _ (List.cons_ne_nil _ []))
  | append_singleton databases database ih =>
    obtain ⟨hroot, hstocked, hothers⟩ := ih
    have hstep : d.withDatabases (databases ++ [database]) =
        ((d.withDatabases databases).ensureDatabase database).2 := List.foldl_concat ..
    obtain ⟨hroot', hstocked', hothers'⟩ := hstocked.ensure database
    rw [hstep]
    exact ⟨hroot'.trans hroot, hstocked', fun place hplace => (hothers' place hplace).trans (hothers place hplace)⟩

end Directory

end Leuit
