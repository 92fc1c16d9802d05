import Leuit.Text.Pieces
import Mathlib.Data.List.TakeWhile

/-! Laws of trimming, splitting and cutting texts. A trimmed text has no blank at its ends and is what
trimming leaves alone; splitting is undone by putting the separators back, and the other way round for
pieces without separators. -/
namespace Leuit.Text

/-! ### Blanks at the ends -/

section
variable {p : Char → Bool} {cs : List Char}

theorem head_dropWhile (cs : List Char) {c : Char} (h : (cs.dropWhile p).head? = some c) : p c = false := by
  have := List.head?_dropWhile_not p cs
  rwa [h] at this

/-- What is left at an end has not the property. -/
theorem ends_dropEnds (cs : List Char) {c : Char}
    (h : (dropEnds p cs).head? = some c ∨ (dropEnds p cs).getLast? = some c) : p c = false := by
  rw [dropEnds, List.getLast?_reverse] at h
  rcases h with h | h
  · have hprefix : ((cs.dropWhile p).reverse.dropWhile p).reverse <+: cs.dropWhile p := by
      rw [← List.reverse_suffix, List.reverse_reverse]
      exact List.dropWhile_suffix p
    obtain ⟨rest, hrest⟩ := hprefix
    apply head_dropWhile cs
    rw [← hrest, List.head?_append, h]
    rfl
  · exact head_dropWhile _ h

theorem dropWhile_of_head (h : ∀ c, cs.head? = some c → p c = false) : cs.dropWhile p = cs := by
  cases cs with
  | nil => rfl
  | cons c cs => rw [List.dropWhile_cons_of_neg (by simp [h c rfl])]

/-- Nothing is dropped from a list whose ends have not the property. -/
theorem dropEnds_of_ends (hhead : ∀ c, cs.head? = some c → p c = false)
    (hlast : ∀ c, cs.getLast? = some c → p c = false) : dropEnds p cs = cs := by
  have hreverse : cs.reverse.dropWhile p = cs.reverse :=
    dropWhile_of_head fun c h => hlast c (by rwa [List.head?_reverse] at h)
  rw [dropEnds, dropWhile_of_head hhead, hreverse, List.reverse_reverse]

theorem dropEnds_sublist : (dropEnds p cs).Sublist cs := by
  rw [dropEnds, ← List.reverse_sublist, List.reverse_reverse]
  exact (List.dropWhile_sublist p).trans (List.reverse_sublist.mpr (List.dropWhile_sublist p))

end

variable {s : String}

@[simp] theorem toList_trim (s : String) : (trim s).toList = dropEnds isBlank s.toList := by
  simp [trim]

theorem allBlank_iff : allBlank s = true ↔ ∀ c ∈ s.toList, isBlank c = true := by
  simp [allBlank]

theorem trim_of_allBlank (h : allBlank s = true) : trim s = "" := by
  have hdrop : s.toList.dropWhile isBlank = [] := List.dropWhile_eq_nil_iff.mpr (allBlank_iff.mp h)
  simp [trim, dropEnds, hdrop]

/-- A text that does not start with a blank is not trimmed to nothing. -/
theorem trim_ne_empty {c : Char} (hc : c ∈ s.toList) (h : isBlank c = false) : trim s ≠ "" := by
  intro hempty
  have hdrop : s.toList.dropWhile isBlank = [] := by
    cases hs : s.toList.dropWhile isBlank with
    | nil => rfl
    | cons x rest =>
      have hx : isBlank x = false := head_dropWhile s.toList (by rw [hs]; rfl)
      have hlist : (trim s).toList = [] := by rw [hempty]; rfl
      rw [toList_trim, dropEnds, hs, List.reverse_eq_nil_iff, List.dropWhile_eq_nil_iff] at hlist
      have := hlist x (by simp)
      rw [hx] at this
      cases this
  have := List.dropWhile_eq_nil_iff.mp hdrop c hc
  rw [h] at this
  cases this

theorem trim_of_ends (hhead : ∀ c, s.toList.head? = some c → isBlank c = false)
    (hlast : ∀ c, s.toList.getLast? = some c → isBlank c = false) : trim s = s := by
  rw [trim, dropEnds_of_ends hhead hlast, String.ofList_toList]

@[simp] theorem trim_trim (s : String) : trim (trim s) = trim s :=
  trim_of_ends (fun c h => ends_dropEnds s.toList (.inl (by rwa [toList_trim] at h)))
    (fun c h => ends_dropEnds s.toList (.inr (by rwa [toList_trim] at h)))

theorem mem_of_mem_trim {c : Char} (h : c ∈ (trim s).toList) : c ∈ s.toList := by
  rw [toList_trim] at h
  exact dropEnds_sublist.subset h

/-- A text without blanks. -/
def Bare (cs : List Char) : Prop := ∀ c ∈ cs, isBlank c = false

instance (cs : List Char) : Decidable (Bare cs) := List.decidableBAll _ cs

theorem Bare.trim (h : Bare s.toList) : trim s = s :=
  trim_of_ends (fun c hc => h c (List.mem_of_head? hc)) (fun c hc => h c (List.mem_of_getLast? hc))

theorem Bare.append {a b : List Char} (ha : Bare a) (hb : Bare b) : Bare (a ++ b) :=
  List.forall_mem_append.mpr ⟨ha, hb⟩

theorem Bare.sublist {a b : List Char} (h : Bare b) (hsub : a.Sublist b) : Bare a :=
  fun c hc => h c (hsub.subset hc)

/-- A text that starts and ends with characters that are no blanks. -/
structure BareEnds (cs : List Char) : Prop where
  head : ∃ c, cs.head? = some c ∧ isBlank c = false
  last : ∃ c, cs.getLast? = some c ∧ isBlank c = false

theorem BareEnds.trim (h : BareEnds s.toList) : trim s = s := by
  obtain ⟨⟨first, hfirst, hf⟩, last, hlast, hl⟩ := h
  refine trim_of_ends (fun c hc => ?_) (fun c hc => ?_)
  · rw [hfirst] at hc
    cases hc
    exact hf
  · rw [hlast] at hc
    cases hc
    exact hl

theorem BareEnds.append {a b : List Char} (ha : BareEnds a) (hb : BareEnds b) (between : List Char) :
    BareEnds (a ++ between ++ b) := by
  obtain ⟨first, hfirst, hf⟩ := ha.head
  obtain ⟨last, hlast, hl⟩ := hb.last
  refine ⟨⟨first, ?_, hf⟩, last, ?_, hl⟩
  · rw [List.append_assoc, List.head?_append, hfirst]
    rfl
  · rw [List.getLast?_append, hlast]
    rfl

theorem Bare.bareEnds {cs : List Char} (h : Bare cs) (hne : cs ≠ []) : BareEnds cs :=
  ⟨⟨cs.head hne, List.head?_eq_some_head hne, h _ (List.head_mem hne)⟩,
    cs.getLast hne, List.getLast?_eq_some_getLast hne, h _ (List.getLast_mem hne)⟩

theorem bareEnds_intercalate {sep : Char} {pieces : List (List Char)} (hne : pieces ≠ [])
    (h : ∀ piece ∈ pieces, BareEnds piece) : BareEnds ([sep].intercalate pieces) := by
  induction pieces with
  | nil => exact absurd rfl hne
  | cons piece rest ih =>
    by_cases hrest : rest = []
    · subst hrest
      simpa using h piece List.mem_cons_self
    · rw [List.intercalate_cons_of_ne_nil hrest]
      exact (h piece List.mem_cons_self).append
        (ih hrest fun p hp => h p (List.mem_cons_of_mem piece hp)) [sep]

/-- A text that can be told apart from the marks around it: it is not empty, has no blank at its ends and
none of the marks in it. -/
structure Proper (marks : List Char) (s : String) : Prop where
  nonempty : s ≠ ""
  trimmed : trim s = s
  unmarked : ∀ c ∈ s.toList, c ∉ marks

instance (marks : List Char) (s : String) : Decidable (Proper marks s) :=
  decidable_of_iff (s ≠ "" ∧ trim s = s ∧ s.toList.all (fun c => !marks.contains c) = true)
    ⟨fun ⟨hne, htrim, hmarks⟩ => ⟨hne, htrim, by simpa using hmarks⟩,
      fun ⟨hne, htrim, hmarks⟩ => ⟨hne, htrim, by simpa using hmarks⟩⟩

theorem Proper.not_mem {marks : List Char} (h : Proper marks s) {c : Char} (hc : c ∈ marks) :
    c ∉ s.toList :=
  fun hmem => h.unmarked c hmem hc

theorem Proper.mono {marks fewer : List Char} (h : Proper marks s) (hsub : fewer ⊆ marks) :
    Proper fewer s :=
  ⟨h.nonempty, h.trimmed, fun c hc hmem => h.unmarked c hc (hsub hmem)⟩

theorem Proper.bareEnds {marks : List Char} (h : Proper marks s) : BareEnds s.toList := by
  have hends : dropEnds isBlank s.toList = s.toList := by rw [← toList_trim, h.trimmed]
  have hnil : s.toList ≠ [] := mt String.toList_eq_nil_iff.mp h.nonempty
  refine ⟨⟨s.toList.head hnil, List.head?_eq_some_head hnil, ends_dropEnds s.toList (.inl ?_)⟩,
    s.toList.getLast hnil, List.getLast?_eq_some_getLast hnil, ends_dropEnds s.toList (.inr ?_)⟩
  · rw [hends]
    exact List.head?_eq_some_head hnil
  · rw [hends]
    exact List.getLast?_eq_some_getLast hnil

/-! ### Putting pieces together -/

theorem sublist_intercalate {sep : Char} {piece : List Char} {pieces : List (List Char)}
    (h : piece ∈ pieces) : piece.Sublist ([sep].intercalate pieces) := by
  induction pieces with
  | nil => cases h
  | cons first rest ih =>
    by_cases hrest : rest = []
    · subst hrest
      simp [List.mem_singleton.mp h]
    · rw [List.intercalate_cons_of_ne_nil hrest]
      rcases List.mem_cons.mp h with rfl | h
      · rw [List.append_assoc]
        exact List.sublist_append_left ..
      · exact (ih h).trans (List.sublist_append_right ..)

/-- Without the separators, pieces that were put together are the pieces one after the other. -/
theorem filter_intercalate (sep : Char) (pieces : List (List Char)) :
    ([sep].intercalate pieces).filter (· ≠ sep) = pieces.flatMap (List.filter (· ≠ sep)) := by
  induction pieces with
  | nil => rfl
  | cons first rest ih =>
    by_cases hrest : rest = []
    · subst hrest
      simp
    · rw [List.intercalate_cons_of_ne_nil hrest, List.filter_append, List.filter_append, ih,
        List.flatMap_cons]
      simp

theorem mem_intercalate {sep c : Char} {pieces : List (List Char)} (h : c ∈ [sep].intercalate pieces) :
    c = sep ∨ ∃ piece ∈ pieces, c ∈ piece := by
  by_cases hc : c = sep
  · exact .inl hc
  · have hfilter : c ∈ ([sep].intercalate pieces).filter (· ≠ sep) :=
      List.mem_filter.mpr ⟨h, by simpa using hc⟩
    rw [filter_intercalate, List.mem_flatMap] at hfilter
    obtain ⟨piece, hp, hmem⟩ := hfilter
    exact .inr ⟨piece, hp, (List.mem_filter.mp hmem).1⟩

/-! ### Splitting -/

section
variable {sep : Char} {cs : List Char}

theorem of_mem_splitOnP {p : Char → Bool} {piece : List Char} (h : piece ∈ cs.splitOnP p) :
    ∀ c ∈ piece, p c = false := by
  induction cs generalizing piece with
  | nil =>
    rw [List.splitOnP_nil, List.mem_singleton] at h
    simp [h]
  | cons x cs ih =>
    rw [List.splitOnP_cons_eq_if_modifyHead] at h
    split at h
    · rcases List.mem_cons.mp h with rfl | h
      · exact fun c hc => absurd hc List.not_mem_nil
      · exact ih h
    · next hx =>
      obtain ⟨first, rest, hs⟩ := List.exists_cons_of_ne_nil (List.splitOnP_ne_nil p cs)
      rw [hs, List.modifyHead_cons] at h
      rcases List.mem_cons.mp h with rfl | h
      · intro c hc
        rcases List.mem_cons.mp hc with rfl | hc
        · simpa using hx
        · exact ih (by rw [hs]; exact List.mem_cons_self) c hc
      · exact ih (by rw [hs]; exact List.mem_cons_of_mem _ h)

theorem not_mem_of_mem_splitOn {piece : List Char} (h : piece ∈ cs.splitOn sep) : sep ∉ piece := by
  rw [List.splitOn_eq_splitOnP] at h
  intro hmem
  simpa using of_mem_splitOnP h sep hmem

/-- Each piece is split on its own. -/
theorem splitOn_intercalate_flatMap {pieces : List (List Char)} (h : pieces ≠ []) :
    ([sep].intercalate pieces).splitOn sep = pieces.flatMap (·.splitOn sep) := by
  induction pieces with
  | nil => exact absurd rfl h
  | cons piece rest ih =>
    by_cases hrest : rest = []
    · simp [hrest]
    · rw [List.intercalate_cons_of_ne_nil hrest, List.append_assoc, List.singleton_append,
        List.splitOn_append_cons_self, ih hrest, List.flatMap_cons]

/-- Pieces that do not become more by splitting have no separators in them. -/
theorem not_mem_of_length_flatMap {pieces : List (List Char)}
    (h : (pieces.flatMap (·.splitOn sep)).length ≤ pieces.length) : ∀ piece ∈ pieces, sep ∉ piece := by
  have hpos : ∀ cs : List Char, 0 < (cs.splitOn sep).length :=
    fun cs => List.length_pos_iff.mpr (List.splitOn_ne_nil sep cs)
  have hall : ∀ pieces : List (List Char), pieces.length ≤ (pieces.flatMap (·.splitOn sep)).length := by
    intro pieces
    induction pieces with
    | nil => exact Nat.le_refl 0
    | cons piece rest ih =>
      rw [List.flatMap_cons, List.length_append, List.length_cons]
      have := hpos piece
      omega
  induction pieces with
  | nil => exact fun piece hp => absurd hp List.not_mem_nil
  | cons first rest ih =>
    rw [List.flatMap_cons, List.length_append, List.length_cons] at h
    have hrest := hall rest
    have hfirst := hpos first
    intro piece hp
    rcases List.mem_cons.mp hp with rfl | hp
    · intro hmem
      obtain ⟨a, b, rfl⟩ := List.append_of_mem hmem
      rw [List.splitOn_append_cons_self, List.length_append] at h
      have ha := hpos a
      have hb := hpos b
      omega
    · exact ih (by omega) piece hp

end

section
variable {sep : Char} {s : String}

theorem split_of_not_mem (h : sep ∉ s.toList) : split sep s = [s] := by
  simp [split, List.splitOn_eq_singleton h]

theorem not_mem_of_mem_split {piece : String} (h : piece ∈ split sep s) : sep ∉ piece.toList := by
  obtain ⟨chars, hchars, rfl⟩ := List.mem_map.mp h
  rw [String.toList_ofList]
  exact not_mem_of_mem_splitOn hchars

theorem sublist_of_mem_split {piece : String} (h : piece ∈ split sep s) :
    piece.toList.Sublist s.toList := by
  obtain ⟨chars, hchars, rfl⟩ := List.mem_map.mp h
  rw [String.toList_ofList]
  have hsub : chars.Sublist ([sep].intercalate (s.toList.splitOn sep)) := sublist_intercalate hchars
  rwa [List.intercalate_splitOn] at hsub

/-- Pieces without separators are found again. -/
theorem split_of_intercalate {pieces : List String}
    (hs : s.toList = [sep].intercalate (pieces.map String.toList)) (hne : pieces ≠ [])
    (h : ∀ piece ∈ pieces, sep ∉ piece.toList) : split sep s = pieces := by
  have hchars : ∀ chars ∈ pieces.map String.toList, sep ∉ chars := by
    intro chars hc
    obtain ⟨piece, hp, rfl⟩ := List.mem_map.mp hc
    exact h piece hp
  rw [split, hs, List.splitOn_intercalate sep hchars (by simpa using hne)]
  simp

/-! ### Cutting -/

section
variable {a b : List Char}

theorem ne_of_not_mem (h : sep ∉ a) : ∀ c ∈ a, decide (c ≠ sep) = true := by
  intro c hc
  rw [decide_eq_true_eq]
  rintro rfl
  exact h hc

theorem dropWhile_ne_of_not_mem (h : sep ∉ a) : a.dropWhile (· ≠ sep) = [] :=
  List.dropWhile_eq_nil_iff.mpr (ne_of_not_mem h)

theorem takeWhile_ne_append (h : sep ∉ a) : (a ++ sep :: b).takeWhile (· ≠ sep) = a := by
  rw [List.takeWhile_append_of_pos (ne_of_not_mem h)]
  simp

theorem dropWhile_ne_append (h : sep ∉ a) : (a ++ sep :: b).dropWhile (· ≠ sep) = sep :: b := by
  rw [List.dropWhile_append_of_pos (ne_of_not_mem h)]
  simp

/-- Where a separator is found, the text is what stands before it, the separator and the rest. -/
theorem eq_of_dropWhile_ne {c : Char} (h : a.dropWhile (· ≠ sep) = c :: b) :
    a = a.takeWhile (· ≠ sep) ++ sep :: b ∧ sep ∉ a.takeWhile (· ≠ sep) := by
  have hc : c = sep := by
    have := head_dropWhile a (p := (decide <| · ≠ sep)) (by rw [h]; rfl)
    simpa using this
  constructor
  · have := List.takeWhile_append_dropWhile (p := (decide <| · ≠ sep)) (l := a)
    rw [h, hc] at this
    exact this.symm
  · intro hmem
    simpa using List.mem_takeWhile_imp hmem

end

theorem cut?_of_not_mem (h : sep ∉ s.toList) : cut? sep s = none := by
  unfold cut?
  rw [dropWhile_ne_of_not_mem h]

/-- What stands before the first separator and after it. -/
theorem cut?_eq_some {a b : String} :
    cut? sep s = some (a, b) ↔ s.toList = a.toList ++ sep :: b.toList ∧ sep ∉ a.toList := by
  constructor
  · intro h
    unfold cut? at h
    split at h
    · cases h
    · next c rest hdrop =>
      rw [Option.some.injEq, Prod.mk.injEq] at h
      obtain ⟨rfl, rfl⟩ := h
      rw [String.toList_ofList, String.toList_ofList]
      exact eq_of_dropWhile_ne hdrop
  · rintro ⟨hs, hmem⟩
    unfold cut?
    rw [hs, dropWhile_ne_append hmem, takeWhile_ne_append hmem]
    simp

end

/-! ### Lines -/

/-- A first line that does not end in a carriage return. -/
theorem lines_cons {line rest : String} (hline : '\n' ∉ line.toList)
    (hlast : line.toList.getLast? ≠ some '\r') : lines (line ++ "\n" ++ rest) = line :: lines rest := by
  have hpieces : (line ++ "\n" ++ rest).toList.splitOn '\n' = line.toList :: rest.toList.splitOn '\n' := by
    rw [String.toList_append, String.toList_append, List.append_assoc]
    exact List.splitOn_append_cons_self_of_not_mem hline _
  obtain ⟨first, others, hrest⟩ := List.exists_cons_of_ne_nil (List.splitOn_ne_nil '\n' rest.toList)
  unfold lines
  rw [hpieces, hrest]
  dsimp only
  rw [List.dropLast_cons_cons, List.getLast?_cons_cons, List.map_cons, dropReturn,
    if_neg hlast, String.ofList_toList]
  cases hl : (first :: others).getLast? with
  | none => rfl
  | some last => cases last <;> rfl

end Leuit.Text
