import Leuit.Proofs.Atomicity
import Leuit.Proofs.Pieces

/-! The files of tables. In the folder of a database each file of a table stands at a place of its own
(`Directory.At.resolve_file`, `Directory.fileName_inj`), as long as the name of the table may name files
(`Directory.Nameable`). So what is read of a table is what stands at its places, and an edit of a table
changes what stands there and nothing else (`Directory.At.edit_define` to `Directory.At.edit_replace`). -/
namespace Leuit

theorem Keyed.isSome_get?_iff {κ α : Type} [DecidableEq κ] {m : Keyed κ α} {k : κ} :
    (m.get? k).isSome ↔ k ∈ m.keys := by
  obtain ⟨entries⟩ := m
  show (entries.lookup k).isSome ↔ k ∈ entries.map (·.1)
  induction entries with
  | nil => simp
  | cons entry rest ih =>
    rw [List.lookup_cons, List.map_cons, List.mem_cons, ← ih]
    by_cases hk : k = entry.1
    · simp [hk]
    · simp [hk, show (k == entry.1) = false by simp [hk]]

/-! ### Paths -/

namespace Path
variable {folder : Path} {name : String}

/-- The names before a slash and those after it. -/
theorem names_slash (start rest : String) :
    names ⟨start ++ "/" ++ rest⟩ =
      (if (start.toList ++ ['/']).head? = some '/' then ["/"] else []) ++
        ((Text.split '/' start ++ Text.split '/' rest).filter fun name => name ≠ "" && name ≠ ".") := by
  have htext : (start ++ "/" ++ rest).toList = start.toList ++ '/' :: rest.toList := by
    simp [String.toList_append]
  have hsplit : Text.split '/' (start ++ "/" ++ rest) = Text.split '/' start ++ Text.split '/' rest := by
    rw [Text.split, htext, List.splitOn_append_cons_self, List.map_append]
    rfl
  have hhead : (start.toList ++ '/' :: rest.toList).head? = (start.toList ++ ['/']).head? := by
    cases start.toList <;> rfl
  rw [names, hsplit, htext, hhead]

/-- The path of something in a folder has one more name. -/
theorem names_join (hname : name ≠ "" ∧ name ≠ ".") (hslash : '/' ∉ name.toList) :
    (folder.join name).names = folder.names ++ [name] := by
  have hsplit : Text.split '/' name = [name] := Text.split_of_not_mem hslash
  have hlone : [name].filter (fun name => name ≠ "" && name ≠ ".") = [name] := by simp [hname]
  unfold join
  split
  · next h =>
    rcases (Bool.or_eq_true _ _).mp h with h | h
    · have hempty : folder.text = "" := by simpa using h
      have hhead : name.toList.head? ≠ some '/' := fun h => hslash (List.mem_of_head? h)
      rw [names, names, hempty, String.empty_append, if_neg hhead, hsplit, hlone]
      rfl
    · have hlast : folder.text.toList.getLast? = some '/' := by simpa using h
      obtain ⟨start, hstart⟩ := List.getLast?_eq_some_iff.mp hlast
      have htext : folder.text = String.ofList start ++ "/" ++ "" := by
        rw [← String.toList_inj, hstart]
        simp
      have hfolder : folder = ⟨String.ofList start ++ "/" ++ ""⟩ := by rw [← htext]
      rw [hfolder, String.append_empty, names_slash, hsplit, List.filter_append, hlone,
        ← List.append_assoc]
      congr 1
      rw [← String.append_empty (s := String.ofList start ++ "/"), names_slash, List.filter_append]
      simp [Text.split]
  · next h =>
    rw [names_slash, hsplit, List.filter_append, hlone, ← List.append_assoc, names]
    have hhead : (folder.text.toList ++ ['/']).head? = folder.text.toList.head? := by
      have hne : folder.text.toList ≠ [] := by
        intro hnil
        simp [String.toList_eq_nil_iff.mp hnil] at h
      rw [List.head?_append, List.head?_eq_some_head hne]
      rfl
    rw [hhead]

/-- A path that can be one stays so with a name behind it, if that can be a name, unless it is then too
long. -/
theorem check_join (h : folder.check = .ok ()) (hname : '\x00' ∉ name.toList) :
    (folder.join name).check =
      if longest < (folder.join name).text.utf8ByteSize then .error .tooLong else .ok () := by
  unfold check at h
  split at h
  · cases h
  · next hend =>
    split at h
    · cases h
    · next hne =>
      have htext : (folder.join name).text.toList = folder.text.toList ++ name.toList ∨
          (folder.join name).text.toList = folder.text.toList ++ ['/'] ++ name.toList := by
        unfold join
        split <;> simp
      have hend' : (folder.join name).text.toList.contains '\x00' = false := by
        have hfolder : '\x00' ∉ folder.text.toList := by simpa using hend
        rcases htext with htext | htext <;> simp [htext, hfolder, hname]
      have hne' : (folder.join name).text ≠ "" := by
        intro hempty
        rw [hempty] at htext
        rcases htext with htext | htext
        · exact hne (String.toList_eq_nil_iff.mp (List.append_eq_nil_iff.mp htext.symm).1)
        · simp at htext
      rw [check, hend', if_neg (by simp), if_neg hne']

theorem utf8ByteSize_join (folder : Path) (a b : String) :
    (folder.join a).text.utf8ByteSize + b.utf8ByteSize =
      (folder.join b).text.utf8ByteSize + a.utf8ByteSize := by
  unfold join
  split <;> simp only [String.utf8ByteSize_append] <;> omega

end Path

/-! ### Places -/

namespace FileTree
variable {t : FileTree} {place : Place} {path : Path} {name : String}

/-- Names lead on from where the names before them lead. -/
theorem locate_append (t : FileTree) (here : Place) (names rest : List String) :
    t.locate here (names ++ rest) =
      match t.locate here names with
      | .error e => .error e
      | .ok place => t.locate place rest := by
  induction names generalizing here with
  | nil => rfl
  | cons name more ih =>
    rw [List.cons_append, locate, locate]
    rcases t.node? here with _ | _ | text
    · rfl
    · dsimp only
      split
      · exact ih _
      · split
        · rfl
        · exact ih _
    · rfl

theorem locate_single {here : Place} (hfolder : t.node? here = some .folder) (hup : name ≠ "..") :
    t.locate here [name] =
      if longestName < name.utf8ByteSize then .error .tooLong else .ok (here ++ [name]) := by
  simp [locate, hfolder, hup]

/-- Something in a folder stands below it under its name, unless one cannot be that long. -/
theorem resolve_join (h : t.resolve path = .ok place) (hfolder : t.node? place = some .folder)
    (hname : name ≠ "" ∧ name ≠ "." ∧ name ≠ "..") (hchars : '/' ∉ name.toList ∧ '\x00' ∉ name.toList) :
    t.resolve (path.join name) =
      if Path.longest < (path.join name).text.utf8ByteSize ∨ longestName < name.utf8ByteSize then
        .error .tooLong
      else .ok (place ++ [name]) := by
  unfold resolve at h ⊢
  split at h
  · cases h
  · next hcheck =>
    rw [Path.check_join hcheck hchars.2]
    by_cases hpath : Path.longest < (path.join name).text.utf8ByteSize
    · rw [if_pos hpath, if_pos (.inl hpath)]
    · rw [if_neg hpath, Path.names_join ⟨hname.1, hname.2.1⟩ hchars.1, locate_append, h]
      dsimp only
      rw [locate_single hfolder hname.2.2]
      simp only [hpath, false_or]

/-! ### Nodes -/

/-- A place below another, under a name that leads to no folder above. -/
theorem node?_concat (hup : name ≠ "..") (hroot : name ≠ "/") :
    t.node? (place ++ [name]) = t.nodes.get? (place ++ [name]) := by
  have htop : place ++ [name] ≠ topmost := by
    intro heq
    have hlast := congrArg List.getLast? heq
    rw [List.getLast?_concat, topmost, List.getLast?_singleton, Option.some.injEq] at hlast
    exact hroot hlast
  rw [node?, if_neg]
  simp [isAbove, hup, htop]

theorem node?_put_of_not_folder (h : t.node? place ≠ some .folder) (node : Node) (p : Place) :
    (t.put place node).node? p = if p = place then some node else t.node? p := by
  rw [node?_put]
  split
  · next habove =>
    have hp : t.node? p = some .folder := if_pos habove
    rw [if_neg (by rintro rfl; exact h hp), hp]
  · rfl

theorem node?_erase_of_not_folder (h : t.node? place ≠ some .folder) (p : Place) :
    (⟨t.nodes.erase place⟩ : FileTree).node? p = if p = place then none else t.node? p := by
  rw [node?_erase]
  split
  · next habove =>
    have hp : t.node? p = some .folder := if_pos habove
    rw [if_neg (by rintro rfl; exact h hp), hp]
  · rfl

/-- Replacing a file puts the text in its place, and leaves no temporary file behind. -/
theorem replace_eq {temporary target : Path} {old new : Place} {text : String}
    (hold : t.resolve temporary = .ok old) (hnew : t.resolve target = .ok new) (hne : new ≠ old)
    (hopen : t.barrier? old = none) (hfile : t.node? new ≠ some .folder) :
    ∃ t', t.replace temporary target text = (.ok (), t') ∧ t.KeepsFolders t' ∧
      ∀ p, t'.node? p = if p = new then some (.file text) else if p = old then none else t.node? p := by
  have hfree := not_folder_of_barrier hopen
  have hput := KeepsFolders.put (.file text) hfree
  have hself := node?_put_self (.file text) hfree
  have hwrite : t.write temporary text = (.ok (), t.put old (.file text)) := by
    simp only [write, hold, show (t.node? old).bind Node.barrier? = none from hopen]
  have hfile' : (t.put old (.file text)).node? new ≠ some .folder := by
    rw [node?_put_of_not_folder hfree, if_neg hne]
    exact hfile
  have herase : (⟨(t.put old (.file text)).nodes.erase old⟩ : FileTree).node? new ≠ some .folder := by
    rw [node?_erase_of_not_folder (by rw [hself]; simp), if_neg hne]
    exact hfile'
  have hreplace : t.replace temporary target text = (.ok (),
      (⟨(t.put old (.file text)).nodes.erase old⟩ : FileTree).put new (.file text)) := by
    unfold replace
    rw [hwrite]
    exact rename_of_files (hput.resolve hold) (hput.resolve hnew) hself hfile'
  refine ⟨_, hreplace, ?_, fun p => ?_⟩
  · exact hput.trans ((KeepsFolders.erase (by rw [hself]; simp)).trans (KeepsFolders.put _ herase))
  · rw [node?_put_of_not_folder herase, node?_erase_of_not_folder (by rw [hself]; simp),
      node?_put_of_not_folder hfree]
    split
    · rfl
    · split <;> rfl

/-- A file is there after it was made, with the content it had if it was there before. -/
theorem makeFile_eq (hr : t.resolve path = .ok place) (hopen : t.barrier? place = none) :
    ∃ t', t.makeFile path = (.ok (), t') ∧ t.KeepsFolders t' ∧
      ∀ p, t'.node? p = if p = place then some ((t.node? p).getD (.file "")) else t.node? p := by
  have hfree := not_folder_of_barrier hopen
  cases hnode : t.node? place with
  | none =>
    refine ⟨t.put place (.file ""), by simp [makeFile, hr, hnode], .put _ hfree, fun p => ?_⟩
    rw [node?_put_of_not_folder hfree]
    split
    · next hp => rw [hp, hnode]; rfl
    · rfl
  | some node =>
    have hbarrier : node.barrier? = none := by simpa [barrier?, hnode] using hopen
    refine ⟨t, by simp [makeFile, hr, hnode, hbarrier], .refl t, fun p => ?_⟩
    split
    · next hp => rw [hp, hnode]; rfl
    · rfl

theorem append_eq {text more : String} (hr : t.resolve path = .ok place)
    (hfile : t.node? place = some (.file text)) :
    ∃ t', t.append path more = (.ok (), t') ∧ t.KeepsFolders t' ∧
      ∀ p, t'.node? p = if p = place then some (.file (text ++ more)) else t.node? p := by
  have hfree : t.node? place ≠ some .folder := by simp [hfile]
  exact ⟨t.put place (.file (text ++ more)), by simp [append, hr, hfile, Content.append], .put _ hfree,
    node?_put_of_not_folder hfree _⟩

/-- A folder lists what is entered below it. -/
theorem list_entries (hr : t.resolve path = .ok place) (hfolder : t.node? place = some .folder) :
    ∃ listed, t.list path = .ok listed ∧
      ∀ name node, (name, node) ∈ listed ↔ (place ++ [name], node) ∈ t.nodes.entries := by
  refine ⟨_, by simp only [list, hr, hfolder]; rfl, fun name node => ?_⟩
  rw [List.mem_filterMap]
  constructor
  · rintro ⟨⟨there, found⟩, hentry, hsome⟩
    dsimp only at hsome
    split at hsome
    · next last hlast =>
      rw [Option.ite_none_right_eq_some, Option.some.injEq, Prod.mk.injEq] at hsome
      obtain ⟨hplace, rfl, rfl⟩ := hsome
      obtain ⟨start, rfl⟩ := List.getLast?_eq_some_iff.mp hlast
      rw [List.dropLast_concat] at hplace
      rwa [← hplace]
    · cases hsome
  · intro hentry
    exact ⟨_, hentry, by simp⟩

/-- A folder lists the names under which something stands in it. -/
theorem list_eq (hr : t.resolve path = .ok place) (hfolder : t.node? place = some .folder) :
    ∃ listed, t.list path = .ok listed ∧
      ∀ name, name ∈ listed.map (·.1) ↔ (t.nodes.get? (place ++ [name])).isSome := by
  obtain ⟨listed, hlist, hmem⟩ := list_entries hr hfolder
  refine ⟨listed, hlist, fun name => ?_⟩
  rw [Keyed.isSome_get?_iff, Keyed.keys, List.mem_map, List.mem_map]
  constructor
  · rintro ⟨⟨name, node⟩, hentry, rfl⟩
    exact ⟨_, (hmem name node).mp hentry, rfl⟩
  · rintro ⟨⟨there, node⟩, hentry, rfl⟩
    exact ⟨(name, node), (hmem name node).mpr hentry, rfl⟩

end FileTree

/-! ### Files of a table -/

namespace Directory
variable {d : Directory} {database table : String} {place : Place} {extension : String}

/-- The extensions of the files of a table. -/
def extensions : List String := [schemaExtension, recordExtension, temporaryExtension]

/-- The name of a file of a table. -/
def fileName (table extension : String) : String := table ++ "." ++ extension

theorem getLast?_fileName (h : extension ∈ extensions) (table : String) :
    (fileName table extension).toList.getLast? = extension.toList.getLast? := by
  have hne : extension.toList ≠ [] := by revert extension; decide
  rw [fileName, String.toList_append, List.getLast?_append, List.getLast?_eq_some_getLast hne]
  rfl

theorem fileName_ne (h : extension ∈ extensions) {other : String}
    (hlast : extension.toList.getLast? ≠ other.toList.getLast?) : fileName table extension ≠ other := by
  rintro rfl
  exact hlast (getLast?_fileName h table).symm

/-- The files of different tables, and those of one, have different names. -/
theorem fileName_inj {table' extension' : String} (h : extension ∈ extensions)
    (h' : extension' ∈ extensions) :
    fileName table extension = fileName table' extension' ↔ table = table' ∧ extension = extension' := by
  constructor
  · intro heq
    have hends : ∀ e ∈ extensions, ∀ e' ∈ extensions, e.toList.getLast? = e'.toList.getLast? → e = e' := by
      decide
    have hsame : extension = extension' := hends _ h _ h' (by
      rw [← getLast?_fileName h table, ← getLast?_fileName h' table', heq])
    refine ⟨?_, hsame⟩
    rw [fileName, fileName, hsame, String.append_left_inj, String.append_left_inj] at heq
    exact heq
  · rintro ⟨rfl, rfl⟩
    rfl

theorem place_inj {table' extension' : String} (h : extension ∈ extensions)
    (h' : extension' ∈ extensions) :
    place ++ [fileName table extension] = place ++ [fileName table' extension'] ↔
      table = table' ∧ extension = extension' := by
  rw [List.append_cancel_left_eq, List.cons.injEq, and_iff_left rfl, fileName_inj h h']

theorem place_ne {table' extension' : String} (h : extension ∈ extensions)
    (h' : extension' ∈ extensions) (hne : extension ≠ extension') :
    place ++ [fileName table extension] ≠ place ++ [fileName table' extension'] :=
  fun heq => hne ((place_inj h h').mp heq).2

theorem place_ne_of_table {table' extension' : String} (h : extension ∈ extensions)
    (h' : extension' ∈ extensions) (hne : table ≠ table') :
    place ++ [fileName table extension] ≠ place ++ [fileName table' extension'] :=
  fun heq => hne ((place_inj h h').mp heq).1

/-- The place of a file is none of those that are always folders. -/
theorem node?_file {t : FileTree} (h : extension ∈ extensions) :
    t.node? (place ++ [fileName table extension]) = t.nodes.get? (place ++ [fileName table extension]) := by
  have hends : ∀ e ∈ extensions, e.toList.getLast? ≠ some '.' ∧ e.toList.getLast? ≠ some '/' := by decide
  obtain ⟨hpoint, hslash⟩ := hends _ h
  exact FileTree.node?_concat (fileName_ne h hpoint) (fileName_ne h hslash)

theorem tableOf?_eq_some {name : String} :
    tableOf? name = some table ↔ table ≠ "" ∧ name = fileName table schemaExtension := by
  have hfile : name = fileName table schemaExtension ↔
      name.toList = table.toList ++ '.' :: schemaExtension.toList := by
    rw [← String.toList_inj, fileName, String.toList_append, String.toList_append, List.append_assoc]
    rfl
  rw [hfile, tableOf?, Option.ite_none_right_eq_some, Option.some.injEq]
  constructor
  · rintro ⟨⟨hne, hname⟩, rfl⟩
    rw [String.toList_ofList]
    exact ⟨by simpa using hne, hname⟩
  · rintro ⟨hne, hname⟩
    have hstem : name.toList.take (name.length - ('.' :: schemaExtension.toList).length) = table.toList := by
      rw [← String.length_toList, hname, List.length_append, Nat.add_sub_cancel, List.take_left]
    rw [hstem]
    exact ⟨⟨by simpa using hne, hname⟩, String.ofList_toList⟩

/-- The name of a table may name files in the folder of a database. -/
structure Nameable (d : Directory) (database table : String) : Prop where
  allowed : Definition.nameAllowed table = true
  name : (table ++ "." ++ schemaExtension).utf8ByteSize ≤ FileTree.longestName
  path : (d.file database table schemaExtension).text.utf8ByteSize ≤ Path.longest

theorem Nameable.of_root {d d' : Directory} {database table : String} (hn : d.Nameable database table)
    (hroot : d'.root = d.root) : d'.Nameable database table :=
  ⟨hn.allowed, hn.name, by rw [file, folder, hroot]; exact hn.path⟩

/-- The folder of a database stands at a place. -/
structure At (d : Directory) (database : String) (place : Place) : Prop where
  allowed : Definition.nameAllowed database = true
  resolve : d.tree.resolve (d.folder database) = .ok place
  folder : d.tree.node? place = some .folder

theorem not_mem_of_nameAllowed {name : String} (h : Definition.nameAllowed name = true) {c : Char}
    (hc : (Text.isAlphanumeric c || c == '_' || c == '-') = false) : c ∉ name.toList := by
  intro hmem
  rw [Definition.nameAllowed, Bool.and_eq_true, List.all_eq_true] at h
  rw [h.2 c hmem] at hc
  cases hc

/-- The name of a file of a table is none of those that lead elsewhere, and has nothing in it that ends a
name. -/
theorem fileName_plain (h : Definition.nameAllowed table = true) (he : extension ∈ extensions) :
    fileName table extension ≠ "" ∧ fileName table extension ≠ "." ∧ fileName table extension ≠ ".." ∧
      '/' ∉ (fileName table extension).toList ∧ '\x00' ∉ (fileName table extension).toList := by
  have hchar : ∀ e ∈ extensions, e ≠ "" ∧ e.toList.getLast? ≠ some '.' ∧ '/' ∉ e.toList ∧
      '\x00' ∉ e.toList := by
    decide
  obtain ⟨hempty, hpoint, hslash, hend⟩ := hchar _ he
  have hchars : ∀ c, c = '/' ∨ c = '\x00' → c ∉ (fileName table extension).toList := by
    intro c hc hmem
    have htable : c ∉ table.toList := not_mem_of_nameAllowed h (by rcases hc with rfl | rfl <;> decide)
    rw [fileName, String.toList_append, String.toList_append, List.mem_append, List.mem_append] at hmem
    rcases hmem with (hmem | hmem) | hmem
    · exact htable hmem
    · rcases hc with rfl | rfl <;> exact absurd hmem (by decide)
    · rcases hc with rfl | rfl
      · exact hslash hmem
      · exact hend hmem
  have hne : extension.toList.getLast? ≠ none :=
    mt List.getLast?_eq_none_iff.mp (mt String.toList_eq_nil_iff.mp hempty)
  exact ⟨fileName_ne he hne, fileName_ne he hpoint, fileName_ne he hpoint, hchars _ (.inl rfl),
    hchars _ (.inr rfl)⟩

theorem check_eq_ok : d.check database = .ok () ↔ ∃ place, d.At database place := by
  unfold check Definition.checkName hasDatabase FileTree.isFolder FileTree.find
  constructor
  · intro h
    split at h
    · cases h
    · next hname =>
      split at hname
      · next hallowed =>
        split at h
        · next hfolder =>
          cases hr : d.tree.resolve (d.folder database) with
          | error e => simp [hr] at hfolder
          | ok place =>
            refine ⟨place, hallowed, hr, ?_⟩
            rcases hn : d.tree.node? place with _ | _ | text <;> simp [hr, hn] at hfolder
            rfl
        · cases h
      · cases hname
  · rintro ⟨place, hallowed, hr, hn⟩
    simp [hallowed, hr, hn]

namespace At

theorem checkTable (h : d.At database place) (hname : Definition.nameAllowed table = true) :
    d.checkTable database table = .ok () := by
  have hdatabase : Definition.checkName "database" database = .ok () := if_pos h.allowed
  have htable : Definition.checkName "table" table = .ok () := if_pos hname
  rw [Directory.checkTable, hdatabase, htable]
  exact check_eq_ok.mpr ⟨place, h⟩

/-- The file of a table stands in the folder of its database, unless a path or a name cannot be that long. -/
theorem resolve_file_eq (h : d.At database place) (hallowed : Definition.nameAllowed table = true)
    (he : extension ∈ extensions) :
    d.tree.resolve (d.file database table extension) =
      if Path.longest < (d.file database table extension).text.utf8ByteSize ∨
          FileTree.longestName < (fileName table extension).utf8ByteSize then .error .tooLong
      else .ok (place ++ [fileName table extension]) := by
  obtain ⟨hempty, hpoint, hup, hslash, hend⟩ := fileName_plain hallowed he
  exact FileTree.resolve_join h.resolve h.folder ⟨hempty, hpoint, hup⟩ ⟨hslash, hend⟩

theorem resolve_file (h : d.At database place) (hn : d.Nameable database table)
    (he : extension ∈ extensions) :
    d.tree.resolve (d.file database table extension) = .ok (place ++ [fileName table extension]) := by
  have hsize : extension.utf8ByteSize ≤ schemaExtension.utf8ByteSize := by revert extension; decide
  refine (h.resolve_file_eq hn.allowed he).trans (if_neg ?_)
  rw [not_or, Nat.not_lt, Nat.not_lt]
  constructor
  · have hjoin := Path.utf8ByteSize_join (d.folder database) (fileName table extension)
      (fileName table schemaExtension)
    have hpath : ((d.folder database).join (fileName table schemaExtension)).text.utf8ByteSize ≤
        Path.longest := hn.path
    show ((d.folder database).join (fileName table extension)).text.utf8ByteSize ≤ _
    simp only [fileName, String.utf8ByteSize_append] at hjoin hpath ⊢
    omega
  · have hname := hn.name
    show (table ++ "." ++ extension).utf8ByteSize ≤ _
    simp only [String.utf8ByteSize_append] at hname ⊢
    omega

/-- The folder stays where it is as long as no folder is taken away. -/
theorem mono (h : d.At database place) {tree : FileTree} (hkeep : d.tree.KeepsFolders tree) :
    ({ d with tree } : Directory).At database place :=
  ⟨h.allowed, hkeep.resolve h.resolve, hkeep _ h.folder⟩

/-! ### Reading -/

theorem readSchema_of_none (h : d.At database place) (hn : d.Nameable database table)
    (hnode : d.tree.node? (place ++ [fileName table schemaExtension]) = none) :
    d.readSchema database table = .ok none := by
  have hresolve := h.resolve_file hn (show schemaExtension ∈ extensions by decide)
  simp only [readSchema, h.checkTable hn.allowed, FileTree.read, FileTree.find, hresolve, hnode]

theorem readSchema_of_file (h : d.At database place) (hn : d.Nameable database table) {text : String}
    (hnode : d.tree.node? (place ++ [fileName table schemaExtension]) = some (.file text)) :
    d.readSchema database table = .ok (some text) := by
  have hresolve := h.resolve_file hn (show schemaExtension ∈ extensions by decide)
  simp only [readSchema, h.checkTable hn.allowed, FileTree.read, FileTree.find, hresolve, hnode, Content.read]

theorem readRecords_of_none (h : d.At database place) (hn : d.Nameable database table)
    (hnode : d.tree.node? (place ++ [fileName table recordExtension]) = none) :
    d.readRecords database table = .error (.notFound (.records table)) := by
  have hresolve := h.resolve_file hn (show recordExtension ∈ extensions by decide)
  simp only [readRecords, h.checkTable hn.allowed, FileTree.read, FileTree.find, hresolve, hnode]

theorem readRecords_of_file (h : d.At database place) (hn : d.Nameable database table) {text : String}
    (hnode : d.tree.node? (place ++ [fileName table recordExtension]) = some (.file text)) :
    d.readRecords database table = .ok (Text.lines text) := by
  have hresolve := h.resolve_file hn (show recordExtension ∈ extensions by decide)
  simp only [readRecords, h.checkTable hn.allowed, FileTree.read, FileTree.find, hresolve, hnode, Content.read]

/-! ### Writing -/

/-- A file of a table that is replaced, by way of its temporary file. -/
theorem replace_file (h : d.At database place) (hn : d.Nameable database table)
    (he : extension = schemaExtension ∨ extension = recordExtension) {text : String}
    (htmp : d.tree.barrier? (place ++ [fileName table temporaryExtension]) = none)
    (hfile : d.tree.node? (place ++ [fileName table extension]) ≠ some .folder) :
    ∃ tree, d.tree.replace (d.file database table temporaryExtension) (d.file database table extension)
        text = (.ok (), tree) ∧ d.tree.KeepsFolders tree ∧
      ∀ p, tree.node? p = if p = place ++ [fileName table extension] then some (.file text)
        else if p = place ++ [fileName table temporaryExtension] then none else d.tree.node? p := by
  have hmem : extension ∈ extensions := by rcases he with rfl | rfl <;> decide
  have hne : extension ≠ temporaryExtension := by rcases he with rfl | rfl <;> decide
  refine FileTree.replace_eq (h.resolve_file hn (by decide)) (h.resolve_file hn hmem) ?_ htmp hfile
  simp [fileName_inj hmem (show temporaryExtension ∈ extensions by decide), hne]

theorem edit_eq (h : d.At database place) (edit : Edit) (hn : d.Nameable database edit.table)
    {tree : FileTree} (hfiles : d.editFiles database edit = (.ok (), tree)) :
    d.edit database edit = (.ok (), { d with tree }) := by
  rw [edit_of_checked (h.checkTable hn.allowed), hfiles]
  rfl

/-- Storing a definition. -/
theorem edit_define (h : d.At database place) (hn : d.Nameable database table) (document : String)
    (htmp : d.tree.barrier? (place ++ [fileName table temporaryExtension]) = none)
    (hfile : d.tree.node? (place ++ [fileName table schemaExtension]) ≠ some .folder) :
    ∃ tree, d.edit database (.define table document) = (.ok (), { d with tree }) ∧
      d.tree.KeepsFolders tree ∧
      ∀ p, tree.node? p = if p = place ++ [fileName table schemaExtension] then some (.file document)
        else if p = place ++ [fileName table temporaryExtension] then none else d.tree.node? p := by
  obtain ⟨tree, htree, hkeep, hnodes⟩ := h.replace_file hn (.inl rfl) htmp hfile
  exact ⟨tree, h.edit_eq (.define table document) hn htree, hkeep, hnodes⟩

/-- Making room for records. -/
theorem edit_provision (h : d.At database place) (hn : d.Nameable database table)
    (hfile : d.tree.barrier? (place ++ [fileName table recordExtension]) = none) :
    ∃ tree, d.edit database (.provision table) = (.ok (), { d with tree }) ∧
      d.tree.KeepsFolders tree ∧
      ∀ p, tree.node? p = if p = place ++ [fileName table recordExtension] then
          some ((d.tree.node? p).getD (.file "")) else d.tree.node? p := by
  obtain ⟨tree, htree, hkeep, hnodes⟩ := FileTree.makeFile_eq (h.resolve_file hn (by decide)) hfile
  exact ⟨tree, h.edit_eq (.provision table) hn htree, hkeep, hnodes⟩

/-- Adding a record. -/
theorem edit_append (h : d.At database place) (hn : d.Nameable database table) (record : String)
    {text : String}
    (hfile : d.tree.node? (place ++ [fileName table recordExtension]) = some (.file text)) :
    ∃ tree, d.edit database (.append table record) = (.ok (), { d with tree }) ∧
      d.tree.KeepsFolders tree ∧
      ∀ p, tree.node? p = if p = place ++ [fileName table recordExtension] then
          some (.file (text ++ (record ++ "\n"))) else d.tree.node? p := by
  obtain ⟨tree, htree, hkeep, hnodes⟩ := FileTree.append_eq (h.resolve_file hn (by decide)) hfile
  exact ⟨tree, h.edit_eq (.append table record) hn htree, hkeep, hnodes⟩

/-- Replacing all records. -/
theorem edit_replace (h : d.At database place) (hn : d.Nameable database table) (records : List String)
    (htmp : d.tree.barrier? (place ++ [fileName table temporaryExtension]) = none)
    (hfile : d.tree.node? (place ++ [fileName table recordExtension]) ≠ some .folder) :
    ∃ tree, d.edit database (.replace table records) = (.ok (), { d with tree }) ∧
      d.tree.KeepsFolders tree ∧
      ∀ p, tree.node? p = if p = place ++ [fileName table recordExtension] then
          some (.file (recordText records))
        else if p = place ++ [fileName table temporaryExtension] then none else d.tree.node? p := by
  obtain ⟨tree, htree, hkeep, hnodes⟩ := h.replace_file hn (.inr rfl) htmp hfile
  exact ⟨tree, h.edit_eq (.replace table records) hn htree, hkeep, hnodes⟩

/-! ### Listing -/

/-- The tables of a database are those with a file of their definition. -/
theorem tables (h : d.At database place) :
    ∃ listed : NameSet, d.tables database = .ok listed.names ∧
      ∀ table, table ∈ listed ↔
        table ≠ "" ∧ (d.tree.node? (place ++ [fileName table schemaExtension])).isSome := by
  obtain ⟨entries, hlist, hmem⟩ := FileTree.list_eq h.resolve h.folder
  refine ⟨NameSet.ofList (entries.filterMap fun entry => tableOf? entry.1), ?_, fun table => ?_⟩
  · rw [Directory.tables, check_eq_ok.mpr ⟨place, h⟩]
    simp only [hlist]
  · rw [NameSet.mem_ofList, node?_file (by decide), ← hmem, List.mem_filterMap, List.mem_map]
    constructor
    · rintro ⟨⟨name, node⟩, hentry, hname⟩
      obtain ⟨hne, rfl⟩ := tableOf?_eq_some.mp hname
      exact ⟨hne, _, hentry, rfl⟩
    · rintro ⟨hne, ⟨name, node⟩, hentry, hname⟩
      exact ⟨_, hentry, tableOf?_eq_some.mpr ⟨hne, hname⟩⟩

end At

/-! ### Reaching tables -/

/-- A table of a database can be reached if the database is there and the name is allowed. -/
theorem checkTable_eq_ok :
    d.checkTable database table = .ok () ↔
      d.check database = .ok () ∧ Definition.nameAllowed table = true := by
  constructor
  · unfold checkTable
    intro h
    split at h
    · cases h
    · split at h
      · cases h
      · next htable =>
        refine ⟨h, ?_⟩
        unfold Definition.checkName at htable
        split at htable
        · assumption
        · cases htable
  · rintro ⟨hdatabase, htable⟩
    obtain ⟨place, hhere⟩ := check_eq_ok.mp hdatabase
    exact hhere.checkTable htable

end Directory

end Leuit
