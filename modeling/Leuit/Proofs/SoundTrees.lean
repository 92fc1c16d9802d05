import Leuit.Proofs.TableFiles

/-! Sound trees of files: each place is entered once, and what stands somewhere stands in a folder
(`FileTree.Sound`). Where a path leads there is a folder, or one above it (`FileTree.Sound.of_resolve`), so
whatever is written to files leaves the tree sound, and its folders as they were (`FileTree.FilesOnly`).
Making folders leaves it sound too and takes none away (`FileTree.Sound.makeFolders`). -/
namespace Leuit

namespace Keyed
variable {κ α : Type} [DecidableEq κ] {m : Keyed κ α} {k : κ} {a : α}

theorem mem_entries_iff (h : m.keys.Nodup) : (k, a) ∈ m.entries ↔ m.get? k = some a := by
  obtain ⟨entries⟩ := m
  show (k, a) ∈ entries ↔ entries.lookup k = some a
  induction entries with
  | nil => simp
  | cons entry rest ih =>
    obtain ⟨i, b⟩ := entry
    obtain ⟨hout, hrest⟩ := List.nodup_cons.mp h
    rw [List.mem_cons, List.lookup_cons, ih hrest, Prod.mk.injEq]
    by_cases hk : k = i
    · subst hk
      have hnone : rest.lookup k ≠ some a := fun hfound =>
        hout (List.mem_map.mpr ⟨(k, a), (ih hrest).mpr hfound, rfl⟩)
      simp [hnone, eq_comm]
    · simp [hk, show (k == i) = false by simp [hk]]

theorem nodup_erase (h : m.keys.Nodup) (k : κ) : (m.erase k).keys.Nodup :=
  h.sublist (List.filter_sublist.map _)

theorem nodup_insert (h : m.keys.Nodup) (k : κ) (a : α) : (m.insert k a).keys.Nodup := by
  refine List.nodup_cons.mpr ⟨fun hmem => ?_, nodup_erase h k⟩
  obtain ⟨entry, hentry, hk⟩ := List.mem_map.mp hmem
  simpa [hk] using (List.mem_filter.mp hentry).2

end Keyed

namespace FileTree
variable {t t' : FileTree} {place : Place} {path : Path} {text : String}

/-! ### Sound trees -/

structure Sound (t : FileTree) : Prop where
  single : t.nodes.keys.Nodup
  grounded : ∀ place, t.node? place ≠ none → t.node? place.dropLast = some .folder

theorem Sound.empty : FileTree.empty.Sound := by
  refine ⟨List.nodup_nil, fun place hplace => ?_⟩
  have habove : (isAbove place || place = topmost) = true := by
    by_contra hbelow
    rw [node?, if_neg hbelow] at hplace
    exact hplace rfl
  refine if_pos ?_
  rw [Bool.or_eq_true]
  rcases (Bool.or_eq_true _ _).mp habove with habove | htop
  · rw [isAbove, List.all_eq_true] at habove ⊢
    exact .inl fun name hname => habove name (List.dropLast_subset place hname)
  · rw [of_decide_eq_true htop]
    exact .inl rfl

/-- The folder above is a folder. -/
theorem Sound.parent (h : t.Sound) (hplace : t.node? place = some .folder) :
    t.node? (parent place) = some .folder := by
  unfold FileTree.parent
  split
  · rfl
  · split
    · next habove =>
      rw [isAbove, List.all_eq_true] at habove
      refine if_pos ?_
      rw [Bool.or_eq_true, isAbove, List.all_eq_true]
      exact .inl fun name hname => (List.mem_append.mp hname).elim (habove name) (by simp)
    · exact h.grounded place (by rw [hplace]; simp)

/-- Names lead from a folder to a folder or to something in one. -/
theorem Sound.of_locate (h : t.Sound) {here : Place} {names : List String}
    (hhere : t.node? here = some .folder) (hl : t.locate here names = .ok place) :
    t.node? place = some .folder ∨ t.node? place.dropLast = some .folder := by
  induction names generalizing here with
  | nil =>
    cases hl
    exact .inl hhere
  | cons name rest ih =>
    rw [locate, hhere] at hl
    dsimp only at hl
    split at hl
    · exact ih (h.parent hhere) hl
    · split at hl
      · cases hl
      · cases rest with
        | nil =>
          cases hl
          rw [List.dropLast_concat]
          exact .inr hhere
        | cons next more =>
          refine ih ?_ hl
          rcases hn : t.node? (here ++ [name]) with _ | _ | old
          · simp [locate, hn] at hl
          · rfl
          · simp [locate, hn] at hl

theorem Sound.of_resolve (h : t.Sound) (hr : t.resolve path = .ok place)
    (hfree : t.node? place ≠ some .folder) : t.node? place.dropLast = some .folder := by
  unfold resolve at hr
  split at hr
  · cases hr
  · exact (h.of_locate (by rfl) hr).resolve_left hfree

/-- What is put in a folder, in place of no folder, leaves the tree sound. -/
theorem Sound.put (h : t.Sound) (node : Node) (hfree : t.node? place ≠ some .folder)
    (hparent : t.node? place.dropLast = some .folder) : (t.put place node).Sound := by
  have hkeep := KeepsFolders.put node hfree
  refine ⟨Keyed.nodup_insert h.single place node, fun p hp => ?_⟩
  rw [node?_put_of_not_folder hfree] at hp
  split at hp
  · next hplace =>
    rw [hplace]
    exact hkeep _ hparent
  · exact hkeep _ (h.grounded p hp)

theorem Sound.erase (h : t.Sound) (hfree : t.node? place ≠ some .folder) :
    (⟨t.nodes.erase place⟩ : FileTree).Sound := by
  refine ⟨Keyed.nodup_erase h.single place, fun p hp => ?_⟩
  rw [node?_erase_of_not_folder hfree] at hp
  split at hp
  · exact absurd rfl hp
  · exact KeepsFolders.erase hfree _ (h.grounded p hp)

/-! ### Changes of files -/

/-- The folders of two trees are the same, and the second one is sound if the first one is. -/
structure FilesOnly (t t' : FileTree) : Prop where
  folders : ∀ place, t'.node? place = some .folder ↔ t.node? place = some .folder
  sound : t.Sound → t'.Sound

namespace FilesOnly

theorem refl (t : FileTree) : t.FilesOnly t := ⟨fun _ => .rfl, id⟩

theorem trans {t'' : FileTree} (h : t.FilesOnly t') (h' : t'.FilesOnly t'') : t.FilesOnly t'' :=
  ⟨fun place => (h'.folders place).trans (h.folders place), h'.sound ∘ h.sound⟩

theorem keepsFolders (h : t.FilesOnly t') : t.KeepsFolders t' := fun place => (h.folders place).mpr

theorem put (hr : t.resolve path = .ok place) (hfree : t.node? place ≠ some .folder) (content : Content) :
    t.FilesOnly (t.put place (.file content)) := by
  refine ⟨fun p => ?_, fun h => h.put _ hfree (h.of_resolve hr hfree)⟩
  rw [node?_put_of_not_folder hfree]
  split
  · next hp => simp [hp, hfree]
  · rfl

theorem erase (hfree : t.node? place ≠ some .folder) : t.FilesOnly ⟨t.nodes.erase place⟩ := by
  refine ⟨fun p => ?_, fun h => h.erase hfree⟩
  rw [node?_erase_of_not_folder hfree]
  split
  · next hp => simp [hp, hfree]
  · rfl

theorem append (t : FileTree) (path : Path) (text : String) : t.FilesOnly (t.append path text).2 := by
  rcases t.append_cases path text with ⟨fault, ha⟩ | ⟨place, old, new, hplace, hold, -, ha⟩
  · rw [ha]
    exact .refl t
  · rw [ha]
    exact .put hplace (by rw [hold]; simp) _

theorem makeFile (t : FileTree) (path : Path) : t.FilesOnly (t.makeFile path).2 := by
  rcases t.makeFile_cases path with hsame | ⟨place, hplace, hfree, hmade⟩
  · rw [hsame]
    exact .refl t
  · rw [hmade]
    exact .put hplace (by rw [hfree]; simp) ""

/-- Moving a file fails and changes nothing, or puts it where no folder is. -/
theorem rename {source target : Path} {old : Place} (hs : t.resolve source = .ok old)
    (hold : t.node? old = some (.file text)) : t.FilesOnly (t.rename source target).2 := by
  have hnot : t.node? old ≠ some .folder := by rw [hold]; simp
  cases ht : t.resolve target with
  | error e =>
    simp only [FileTree.rename, hs, ht]
    exact .refl t
  | ok new =>
    by_cases hnew : t.node? new = some .folder
    · simp only [FileTree.rename, hs, ht, hold, hnew]
      exact .refl t
    · rw [rename_of_files hs ht hold hnew]
      have herase := FilesOnly.erase hnot
      refine herase.trans (.put (herase.keepsFolders.resolve ht) ?_ text)
      rwa [Ne, herase.folders]

theorem replace (t : FileTree) (temporary target : Path) (text : String) :
    t.FilesOnly (t.replace temporary target text).2 := by
  unfold FileTree.replace
  rcases t.write_cases temporary text with ⟨fault, hw⟩ | ⟨place, hplace, hfree, hw⟩
  · rw [hw]
    exact .refl t
  · rw [hw]
    have hput := FilesOnly.put hplace hfree text
    exact hput.trans (.rename (hput.keepsFolders.resolve hplace) (node?_put_self (.file text) hfree))

end FilesOnly

/-! ### Making folders -/

/-- Folders are made where nothing is, each in the one before it, whether all are made or not. -/
theorem Sound.makeFoldersAlong (h : t.Sound) (point made : Bool) (passed names : List String) :
    (t.makeFoldersAlong point made passed names).2.Sound ∧
      t.KeepsFolders (t.makeFoldersAlong point made passed names).2 := by
  induction names generalizing t made passed with
  | nil => exact ⟨h, .refl t⟩
  | cons name rest ih =>
    rw [FileTree.makeFoldersAlong]
    cases hl : t.locate [] (passed ++ [name]) with
    | error e => exact ⟨h, .refl t⟩
    | ok place =>
      dsimp only
      rcases hn : t.node? place with _ | _ | old
      · dsimp only
        split
        · exact ⟨h, .refl t⟩
        · have hfree : t.node? place ≠ some .folder := by rw [hn]; simp
          have hparent := (h.of_locate (by rfl) hl).resolve_left hfree
          obtain ⟨hsound, hkeep⟩ := ih (h.put .folder hfree hparent) true (passed ++ [name])
          exact ⟨hsound, (KeepsFolders.put .folder hfree).trans hkeep⟩
      · exact ih h made (passed ++ [name])
      · exact ⟨h, .refl t⟩

theorem Sound.makeFolders (h : t.Sound) (path : Path) :
    (t.makeFolders path).2.Sound ∧ t.KeepsFolders (t.makeFolders path).2 := by
  unfold FileTree.makeFolders
  split
  · exact ⟨h, .refl t⟩
  · split
    · exact ⟨h, .refl t⟩
    · exact h.makeFoldersAlong ..

/-- Folders that could all be made are there, the last of them where the path leads. -/
theorem makeFoldersAlong_eq_ok {point made : Bool} {passed names : List String} {here : Place}
    (hhere : t.locate [] passed = .ok here) (hfolder : t.node? here = some .folder)
    (hmade : t.makeFoldersAlong point made passed names = (.ok (), t')) :
    ∃ base, t'.locate [] (passed ++ names) = .ok base ∧ t'.node? base = some .folder := by
  induction names generalizing t made passed here with
  | nil =>
    cases hmade
    rw [List.append_nil]
    exact ⟨here, hhere, hfolder⟩
  | cons name rest ih =>
    rw [makeFoldersAlong] at hmade
    dsimp only at hmade
    rw [List.append_cons]
    cases hl : t.locate [] (passed ++ [name]) with
    | error e =>
      rw [hl] at hmade
      cases hmade
    | ok place =>
      rw [hl] at hmade
      dsimp only at hmade
      rcases hn : t.node? place with _ | _ | old
      · rw [hn] at hmade
        dsimp only at hmade
        split at hmade
        · cases hmade
        · have hfree : t.node? place ≠ some .folder := by rw [hn]; simp
          exact ih ((KeepsFolders.put .folder hfree).locate hl) (node?_put_self .folder hfree) hmade
      · rw [hn] at hmade
        exact ih hl hn hmade
      · rw [hn] at hmade
        cases hmade

theorem makeFolders_eq_ok (hmade : t.makeFolders path = (.ok (), t')) :
    ∃ base, t'.locate [] path.names = .ok base ∧ t'.node? base = some .folder := by
  unfold makeFolders at hmade
  split at hmade
  · next hempty =>
    cases hmade
    have hnames : path.names = [] := by simp [Path.names, hempty, Text.split]
    rw [hnames]
    exact ⟨[], rfl, rfl⟩
  · split at hmade
    · cases hmade
    · have htop : t.locate [] [] = .ok [] := rfl
      have hthere := makeFoldersAlong_eq_ok htop rfl hmade
      exact hthere

/-! ### Listing -/

/-- A folder lists what stands in it. -/
theorem Sound.list_eq (h : t.Sound) (hr : t.resolve path = .ok place)
    (hfolder : t.node? place = some .folder) :
    ∃ listed, t.list path = .ok listed ∧
      ∀ name node, (name, node) ∈ listed ↔ t.nodes.get? (place ++ [name]) = some node := by
  obtain ⟨listed, hlist, hmem⟩ := FileTree.list_entries hr hfolder
  exact ⟨listed, hlist, fun name node => (hmem name node).trans (Keyed.mem_entries_iff h.single)⟩

end FileTree

end Leuit
