import Leuit.Store.FileTree

/-! Laws of trees of files. A path leads to the same place in every tree that has the same folders and
more, and no operation on files takes a folder away (`FileTree.KeepsFolders`). So replacing the text of a
file that can be read fails at the start, with nothing changed, or not at all (`FileTree.replace_of_read`),
and what was put in place of a file is read back (`FileTree.read_replaced`). -/
namespace Leuit.FileTree
variable {t t' : FileTree} {place : Place} {path : Path} {text : String}

/-! ### Nodes -/

theorem node?_put (t : FileTree) (place : Place) (node : Node) (p : Place) :
    (t.put place node).node? p =
      if isAbove p || p = topmost then some .folder else if p = place then some node else t.node? p := by
  by_cases hp : (isAbove p || p = topmost) = true
  · rw [node?, if_pos hp, if_pos hp]
  · rw [node?, if_neg hp, if_neg hp, node?, if_neg hp]
    exact Keyed.get?_insert ..

theorem node?_erase (t : FileTree) (place p : Place) :
    (⟨t.nodes.erase place⟩ : FileTree).node? p =
      if isAbove p || p = topmost then some .folder else if p = place then none else t.node? p := by
  by_cases hp : (isAbove p || p = topmost) = true
  · rw [node?, if_pos hp, if_pos hp]
  · rw [node?, if_neg hp, if_neg hp, node?, if_neg hp]
    exact Keyed.get?_erase ..

/-- The folders that always exist are no files. -/
theorem below_of_not_folder (h : t.node? place ≠ some .folder) :
    ¬(isAbove place || place = topmost) = true := by
  intro hp
  rw [node?, if_pos hp] at h
  exact h rfl

theorem node?_put_self (node : Node) (h : t.node? place ≠ some .folder) :
    (t.put place node).node? place = some node := by
  rw [node?_put, if_neg (below_of_not_folder h), if_pos rfl]

/-! ### Folders -/

/-- Every folder of a tree is a folder of the other. -/
def KeepsFolders (t t' : FileTree) : Prop := ∀ p, t.node? p = some .folder → t'.node? p = some .folder

namespace KeepsFolders

theorem refl (t : FileTree) : t.KeepsFolders t := fun _ h => h

theorem trans {t'' : FileTree} (h : t.KeepsFolders t') (h' : t'.KeepsFolders t'') : t.KeepsFolders t'' :=
  fun p hp => h' p (h p hp)

/-- What is put where no folder is takes none away. -/
theorem put (node : Node) (h : t.node? place ≠ some .folder) : t.KeepsFolders (t.put place node) := by
  intro p hp
  have hne : p ≠ place := by
    rintro rfl
    exact h hp
  rw [node?_put, if_neg hne, hp, ite_self]

theorem erase (h : t.node? place ≠ some .folder) : t.KeepsFolders ⟨t.nodes.erase place⟩ := by
  intro p hp
  have hne : p ≠ place := by
    rintro rfl
    exact h hp
  rw [node?_erase, if_neg hne, hp, ite_self]

/-- Names that lead somewhere through folders still do. -/
theorem locate (h : t.KeepsFolders t') {here : Place} {names : List String}
    (hl : t.locate here names = .ok place) : t'.locate here names = .ok place := by
  induction names generalizing here with
  | nil => exact hl
  | cons name rest ih =>
    rw [FileTree.locate] at hl ⊢
    cases hn : t.node? here with
    | none =>
      rw [hn] at hl
      cases hl
    | some node =>
      cases node with
      | file old =>
        rw [hn] at hl
        cases hl
      | folder =>
        rw [hn] at hl
        rw [h here hn]
        simp only at hl ⊢
        split at hl
        · next hup =>
          rw [if_pos hup]
          exact ih hl
        · next hup =>
          rw [if_neg hup]
          split at hl
          · cases hl
          · next hlong =>
            rw [if_neg hlong]
            exact ih hl

theorem resolve (h : t.KeepsFolders t') (hr : t.resolve path = .ok place) :
    t'.resolve path = .ok place := by
  unfold FileTree.resolve at hr ⊢
  split at hr
  · cases hr
  · exact h.locate hr

end KeepsFolders

/-! ### Reading -/

theorem read_eq_ok :
    t.read path = .ok text ↔ ∃ place, t.resolve path = .ok place ∧ t.node? place = some (.file text) := by
  unfold read find
  cases t.resolve path with
  | error e => simp
  | ok place => rcases ht : t.node? place with _ | _ | old <;> simp [ht, Content.read_eq_ok]

/-- What keeps a file from being opened at a place to write to it. -/
abbrev barrier? (t : FileTree) (place : Place) : Option FileFault := (t.node? place).bind Node.barrier?

theorem not_folder_of_barrier (h : t.barrier? place = none) : t.node? place ≠ some .folder := by
  intro hfolder
  simp [barrier?, hfolder, Node.barrier?] at h

/-! ### Writing -/

/-- Writing fails and changes nothing, or puts the text where no folder is. -/
theorem write_cases (t : FileTree) (path : Path) (text : String) :
    (∃ fault, t.write path text = (.error fault, t)) ∨
      ∃ place, t.resolve path = .ok place ∧ t.node? place ≠ some .folder ∧
        t.write path text = (.ok (), t.put place (.file text)) := by
  unfold write
  cases t.resolve path with
  | error e => exact .inl ⟨e, rfl⟩
  | ok place =>
    dsimp only
    cases hbarrier : (t.node? place).bind Node.barrier? with
    | some e => exact .inl ⟨e, rfl⟩
    | none => exact .inr ⟨place, rfl, not_folder_of_barrier hbarrier, rfl⟩

/-- Appending fails and changes nothing, or puts the longer content in place. -/
theorem append_cases (t : FileTree) (path : Path) (text : String) :
    (∃ fault, t.append path text = (.error fault, t)) ∨
      ∃ place old new, t.resolve path = .ok place ∧ t.node? place = some (.file old) ∧
        old.append text = .ok new ∧ t.append path text = (.ok (), t.put place (.file new)) := by
  unfold append
  cases t.resolve path with
  | error e => exact .inl ⟨e, rfl⟩
  | ok place =>
    rcases ht : t.node? place with _ | _ | old
    · exact .inl ⟨.notFound, by simp [ht]⟩
    · exact .inl ⟨.isFolder, by simp [ht]⟩
    · cases hnew : old.append text with
      | error e => exact .inl ⟨e, by simp [ht, hnew]⟩
      | ok new => exact .inr ⟨place, old, new, rfl, ht, hnew, by simp [ht, hnew]⟩

/-- Making a file changes nothing, or puts an empty one where nothing is. -/
theorem makeFile_cases (t : FileTree) (path : Path) :
    (t.makeFile path).2 = t ∨
      ∃ place, t.resolve path = .ok place ∧ t.node? place = none ∧
        t.makeFile path = (.ok (), t.put place (.file "")) := by
  unfold makeFile
  cases t.resolve path with
  | error e => exact .inl rfl
  | ok place =>
    dsimp only
    cases ht : t.node? place with
    | none => exact .inr ⟨place, rfl, ht, rfl⟩
    | some node =>
      dsimp only
      cases node.barrier? <;> exact .inl rfl

/-! ### Replacing -/

/-- Where nothing but a file is moved, over nothing but a file. -/
theorem rename_of_files {source target : Path} {old new : Place} (hs : t.resolve source = .ok old)
    (ht : t.resolve target = .ok new) (hold : t.node? old = some (.file text))
    (hnew : t.node? new ≠ some .folder) :
    t.rename source target = (.ok (), (⟨t.nodes.erase old⟩ : FileTree).put new (.file text)) := by
  unfold rename
  rw [hs, ht]
  rcases hn : t.node? new with _ | _ | other
  · simp [hold, hn]
  · exact absurd hn hnew
  · simp [hold, hn]

/-- A file that can be read is replaced or left alone with all else. -/
theorem replace_of_read {temporary target : Path} {old : String} (hread : t.read target = .ok old) :
    (∃ fault, t.replace temporary target text = (.error fault, t)) ∨
      (t.replace temporary target text).1 = .ok () := by
  unfold replace
  rcases t.write_cases temporary text with ⟨fault, hw⟩ | ⟨place, hplace, hfolder, hw⟩
  · rw [hw]
    exact .inl ⟨fault, rfl⟩
  · rw [hw]
    obtain ⟨new, hnew, hold⟩ := read_eq_ok.mp hread
    have hkeep := KeepsFolders.put (.file text) hfolder
    have htarget : (t.put place (.file text)).node? new ≠ some .folder := by
      rw [node?_put, if_neg (below_of_not_folder (by rw [hold]; simp)), hold]
      split <;> simp
    right
    simp only [rename_of_files (hkeep.resolve hplace) (hkeep.resolve hnew)
      (node?_put_self (.file text) hfolder) htarget]

/-- A rename of a file that succeeds moves it over no folder. -/
theorem rename_eq_ok {source target : Path} {old : Place} (hs : t.resolve source = .ok old)
    (hold : t.node? old = some (.file text)) (h : (t.rename source target).1 = .ok ()) :
    ∃ new, t.resolve target = .ok new ∧ t.node? new ≠ some .folder ∧
      (t.rename source target).2 = (⟨t.nodes.erase old⟩ : FileTree).put new (.file text) := by
  cases ht : t.resolve target with
  | error e => simp [rename, hs, ht] at h
  | ok new =>
    have hnew : t.node? new ≠ some .folder := by
      intro hn
      simp [rename, hs, ht, hold, hn] at h
    exact ⟨new, rfl, hnew, by rw [rename_of_files hs ht hold hnew]⟩

/-- What a file was replaced with is read back, and all folders are there. -/
theorem read_replaced {temporary target : Path} (h : (t.replace temporary target text).1 = .ok ()) :
    (t.replace temporary target text).2.read target = .ok text ∧
      t.KeepsFolders (t.replace temporary target text).2 := by
  unfold replace at h ⊢
  rcases t.write_cases temporary text with ⟨fault, hw⟩ | ⟨place, hplace, hfolder, hw⟩
  · rw [hw] at h
    cases h
  · rw [hw] at h ⊢
    have hput := KeepsFolders.put (.file text) hfolder
    have hself := node?_put_self (.file text) hfolder
    obtain ⟨new, htarget, hnew, hrenamed⟩ := rename_eq_ok (hput.resolve hplace) hself h
    have herase : (t.put place (.file text)).KeepsFolders ⟨(t.put place (.file text)).nodes.erase place⟩ :=
      KeepsFolders.erase (by rw [hself]; simp)
    have hfree : (⟨(t.put place (.file text)).nodes.erase place⟩ : FileTree).node? new ≠ some .folder := by
      rw [node?_erase, if_neg (below_of_not_folder hnew)]
      split
      · simp
      · exact hnew
    have hmoved := herase.trans (KeepsFolders.put (.file text) hfree)
    simp only [hrenamed]
    exact ⟨read_eq_ok.mpr ⟨new, hmoved.resolve htarget, node?_put_self (.file text) hfree⟩,
      hput.trans hmoved⟩

/-- A file that is made in an empty place changes no other. -/
theorem read_makeFile {other : Path} (h : t.read path = .ok text) :
    (t.makeFile other).2.read path = .ok text := by
  rcases t.makeFile_cases other with hsame | ⟨place, -, hfree, hmade⟩
  · rw [hsame]
    exact h
  · obtain ⟨there, hthere, hfile⟩ := read_eq_ok.mp h
    have hne : there ≠ place := by
      rintro rfl
      rw [hfree] at hfile
      cases hfile
    rw [hmade]
    refine read_eq_ok.mpr ⟨there, (KeepsFolders.put _ (by rw [hfree]; simp)).resolve hthere, ?_⟩
    rw [node?_put, if_neg (below_of_not_folder (by rw [hfile]; simp)), if_neg hne, hfile]

theorem KeepsFolders.makeFile (t : FileTree) (path : Path) : t.KeepsFolders (t.makeFile path).2 := by
  rcases t.makeFile_cases path with hsame | ⟨place, -, hfree, hmade⟩
  · rw [hsame]
    exact .refl t
  · rw [hmade]
    exact .put _ (by rw [hfree]; simp)

/-- A folder is there after its files were changed. -/
theorem KeepsFolders.isFolder (h : t.KeepsFolders t') (hf : t.isFolder path = true) :
    t'.isFolder path = true := by
  unfold FileTree.isFolder find at hf ⊢
  cases hr : t.resolve path with
  | error e => simp [hr] at hf
  | ok place =>
    have hn : t.node? place = some .folder := by
      rcases hn : t.node? place with _ | _ | old
      · simp [hr, hn] at hf
      · rfl
      · simp [hr, hn] at hf
    simp [h.resolve hr, h place hn]

end Leuit.FileTree
