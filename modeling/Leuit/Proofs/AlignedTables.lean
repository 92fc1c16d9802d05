import Leuit.Console.Table
import Leuit.Proofs.ShownValues
import Mathlib

/-! Tables that line up. A column is as wide as the longest of its texts, its name included
(`Console.getElem?_widths`), so texts joined by separators of three characters start where their column does
and are followed by spaces up to its width (`Console.shows_joined`). The names, the rule and the rows are
joined in this way (`Console.headerLine_eq`, `Console.ruleLine_eq`, `Console.rowLine_eq`), and a table has
these lines and no others where no text in it has a line break (`Console.tables_line_up`). -/
namespace Leuit

/-! ### Characters of shown values -/

namespace Decimal

theorem isDigit_of_mem_shortest {b : Binary} {tie : Tie} {c : Char} (h : c ∈ (b.shortest tie).1) :
    c.isDigit = true := by
  have hkept : c ∈ Nat.toDigits 10 (b.interval.search tie b.interval.leading 17 1).digits := by
    have hmem := (List.dropWhile_sublist _).subset (List.mem_reverse.mp h)
    exact List.mem_reverse.mp hmem
  exact Nat.isDigit_of_mem_toDigits (by decide) (by decide) hkept

theorem Layout.bare_place {l : Layout} {digits : List Char} (hend : Text.Bare l.wholeEnd.toList)
    (h : Text.Bare digits) (point : Int) : Text.Bare (l.place digits point).toList := by
  have hzeros : ∀ n, Text.Bare (List.replicate n '0') := fun n c hc => by
    rw [List.eq_of_mem_replicate hc]
    rfl
  have hstart : Text.Bare "0.".toList := by decide
  have hpoint : Text.Bare ['.'] := by decide
  unfold Layout.place
  split
  · rw [String.toList_ofList]
    exact (hstart.append (hzeros _)).append h
  · split
    · rw [String.toList_append, String.toList_ofList]
      exact (h.append (hzeros _)).append hend
    · rw [String.toList_ofList]
      exact (h.sublist (List.take_sublist ..)).append (hpoint.append (h.sublist (List.drop_sublist ..)))

/-- No blank stands in a number on the screen. -/
theorem bare_write_plain (x : Float) : Text.Bare (Layout.plain.write x).toList := by
  have hsign : Text.Bare (if fractionBound * 2048 ≤ x.toBits.toNat then "-" else "").toList := by
    split <;> decide
  unfold Layout.write
  split
  · decide
  · dsimp only
    split
    · rw [String.toList_append]
      exact hsign.append (by decide)
    · split
      · rw [String.toList_append, String.toList_append]
        exact (hsign.append (by decide)).append (by decide)
      · rw [String.toList_append]
        refine hsign.append ?_
        rw [if_pos (by rfl)]
        refine Layout.bare_place (by decide) (fun c hc => ?_) _
        exact Date.isBlank_of_isDigit (isDigit_of_mem_shortest hc)

end Decimal

/-- Of all that is shown of values, only texts can have line breaks. -/
theorem Value.newline_not_mem_display {v : Value} (h : ∀ s, v = .text s → '\n' ∉ s.toList) :
    '\n' ∉ v.display.toList := by
  have hbare : ∀ {cs : List Char}, Text.Bare cs → '\n' ∉ cs := fun hbare hmem =>
    absurd (hbare '\n' hmem) (by decide)
  cases v with
  | null => exact hbare (by decide)
  | int n => exact hbare (Decimal.bare_toString_int n)
  | float x => exact hbare (Decimal.bare_write_plain x)
  | bool b => cases b <;> exact hbare (by decide)
  | date d => exact hbare d.bare_text
  | text s => exact h s rfl

namespace Console

/-! ### Widths -/

theorem length_widen (widths : List Nat) (texts : List String) :
    (widen widths texts).length = widths.length := by
  induction widths generalizing texts with
  | nil => cases texts <;> rfl
  | cons width widths ih => cases texts <;> simp [widen, ih]

theorem getElem?_widen {widths : List Nat} {texts : List String} (h : texts.length = widths.length) (i : Nat) :
    (widen widths texts)[i]? = (widths[i]?).map fun width =>
      (texts[i]?).elim width fun text => max width text.length := by
  induction widths generalizing texts i with
  | nil => cases texts <;> simp [widen]
  | cons width widths ih =>
    obtain ⟨text, texts, rfl⟩ := List.exists_cons_of_length_eq_add_one h
    cases i with
    | zero => rfl
    | succ i => exact ih (by simpa using h) i

/-- Each row widens the columns to its texts. -/
theorem getElem?_foldl_widen {table : List (List String)} {widths : List Nat}
    (h : ∀ texts ∈ table, texts.length = widths.length) (i : Nat) :
    (table.foldl widen widths)[i]? = (widths[i]?).map fun width =>
      ((table.filterMap (·[i]?)).map String.length).foldl max width := by
  induction table generalizing widths with
  | nil => simp
  | cons texts rest ih =>
    have hwidened : ∀ other ∈ rest, other.length = (widen widths texts).length := fun other hmem => by
      rw [length_widen, h other (List.mem_cons_of_mem _ hmem)]
    rw [List.foldl_cons, ih hwidened, getElem?_widen (h texts List.mem_cons_self), Option.map_map]
    congr 1
    funext width
    cases htext : texts[i]? with
    | none => simp [htext]
    | some text => simp [htext]

variable {r : ResultSet}

/-- All texts in a table, the names of the columns first. -/
def shownTexts (r : ResultSet) : List (List String) := r.columns :: r.rows.map (·.map Value.display)

/-- The texts in a column, its name first. -/
def columnTexts (r : ResultSet) (i : Nat) : List String := (shownTexts r).filterMap (·[i]?)

/-- Every row has a value for every column. -/
def Full (r : ResultSet) : Prop := ∀ row ∈ r.rows, row.length = r.columns.length

instance (r : ResultSet) : Decidable (Full r) := List.decidableBAll _ r.rows

theorem widths_eq_foldl (r : ResultSet) :
    widths r = (r.rows.map (·.map Value.display)).foldl widen (r.columns.map String.length) := by
  rw [widths, List.foldl_map]

theorem length_widths (r : ResultSet) : (widths r).length = r.columns.length := by
  rw [widths_eq_foldl]
  generalize r.rows.map (·.map Value.display) = table
  have hfold : ∀ widths : List Nat, (table.foldl widen widths).length = widths.length := by
    induction table with
    | nil => exact fun _ => rfl
    | cons texts rest ih => exact fun widths => (ih _).trans (length_widen widths texts)
  rw [hfold, List.length_map]

theorem Full.length_eq (h : Full r) {texts : List String} (hmem : texts ∈ shownTexts r) :
    texts.length = r.columns.length := by
  rcases List.mem_cons.mp hmem with rfl | hmem
  · rfl
  · obtain ⟨row, hrow, rfl⟩ := List.mem_map.mp hmem
    rw [List.length_map, h row hrow]

/-- A column is as wide as the longest text in it. -/
theorem getElem?_widths (h : Full r) (i : Nat) :
    (widths r)[i]? = ((columnTexts r i).map String.length).max? := by
  rw [widths_eq_foldl, getElem?_foldl_widen fun texts hmem => by
    rw [h.length_eq (List.mem_cons_of_mem _ hmem), List.length_map]]
  cases hname : r.columns[i]? with
  | none =>
    have hnone : columnTexts r i = [] := by
      refine List.filterMap_eq_nil_iff.mpr fun texts hmem => ?_
      rw [List.getElem?_eq_none_iff] at hname ⊢
      rwa [h.length_eq hmem]
    simp [hname, hnone]
  | some name =>
    have hsome : columnTexts r i = name :: (r.rows.map (·.map Value.display)).filterMap (·[i]?) :=
      List.filterMap_cons_some hname
    rw [hsome, List.map_cons, List.max?_cons', List.getElem?_map, hname]
    rfl

/-- The texts of a row fit in the columns. -/
theorem Full.fits (h : Full r) {texts : List String} (hmem : texts ∈ shownTexts r) :
    List.Forall₂ (fun text width => text.length ≤ width) texts (widths r) := by
  refine List.forall₂_iff_get.mpr ⟨by rw [h.length_eq hmem, length_widths], fun i htext hwidth => ?_⟩
  have hwidest := getElem?_widths h i
  rw [List.getElem?_eq_getElem hwidth, eq_comm, List.max?_eq_some_iff] at hwidest
  refine hwidest.2 _ (List.mem_map_of_mem (List.mem_filterMap.mpr ⟨texts, hmem, ?_⟩))
  exact List.getElem?_eq_getElem htext

/-! ### Lines -/

theorem toList_pad (width : Nat) (text : String) :
    (pad width text).toList = text.toList ++ List.replicate (width - text.length) ' ' := by
  rw [pad, String.toList_append, String.toList_ofList]

theorem length_pad {width : Nat} {text : String} (h : text.length ≤ width) :
    (pad width text).length = width := by
  rw [← String.length_toList, toList_pad, List.length_append, List.length_replicate, String.length_toList]
  omega

/-- Some characters of a line, from a position on. -/
def slice (line : String) (start length : Nat) : List Char := (line.toList.drop start).take length

theorem slice_append_left {front rest : String} {length : Nat} (h : front.length = length) :
    slice (front ++ rest) 0 length = front.toList := by
  rw [slice, String.toList_append, List.drop_zero, List.take_left' (by rwa [String.length_toList])]

theorem slice_append_right {front rest : String} {width : Nat} (h : front.length = width) (start length : Nat) :
    slice (front ++ rest) (width + start) length = slice rest start length := by
  rw [slice, slice, String.toList_append, ← h, ← String.length_toList, List.drop_length_add_append]

/-- Where a column starts: behind all columns before it, with three characters after each. -/
def columnStart (widths : List Nat) (i : Nat) : Nat := ((widths.take i).map (· + 3)).sum

/-- A line shows texts in columns. -/
structure Shows (separator : String) (widths : List Nat) (texts : List String) (line : String) : Prop where
  /-- It is as long as the columns and three characters between neighbours. -/
  length : line.length = widths.sum + 3 * (widths.length - 1)
  /-- A text stands where its column starts, with spaces only after it up to the width. -/
  cell : ∀ i text width, texts[i]? = some text → widths[i]? = some width → text.length ≤ width ∧
    slice line (columnStart widths i) width = text.toList ++ List.replicate (width - text.length) ' '
  /-- The separator stands between neighbours. -/
  parted : ∀ i width, widths[i]? = some width → i + 1 < widths.length →
    slice line (columnStart widths i + width) 3 = separator.toList

section
variable {separator line text : String} {widths : List Nat} {texts : List String} {width : Nat}

theorem Shows.nil (separator : String) : Shows separator [] [] "" :=
  ⟨rfl, nofun, nofun⟩

theorem Shows.single (separator : String) (h : text.length ≤ width) :
    Shows separator [width] [text] (pad width text) := by
  refine ⟨by simp [length_pad h], fun i other wide htext hwidth => ?_, fun i _ _ hi => by simp at hi⟩
  cases i with
  | succ i => simp at htext
  | zero =>
    cases htext
    cases hwidth
    have hslice : slice (pad width text ++ "") 0 width = (pad width text).toList :=
      slice_append_left (length_pad h)
    rw [String.append_empty] at hslice
    exact ⟨h, hslice.trans (toList_pad width text)⟩

/-- One more column in front of a line with columns. -/
theorem Shows.cons (hseparator : separator.length = 3) (hne : widths ≠ []) (h : text.length ≤ width)
    (hline : Shows separator widths texts line) :
    Shows separator (width :: widths) (text :: texts) (pad width text ++ separator ++ line) := by
  have hfront : (pad width text ++ separator).length = width + 3 := by
    rw [String.length_append, length_pad h, hseparator]
  have hstart : ∀ i, columnStart (width :: widths) (i + 1) = width + 3 + columnStart widths i := fun _ => rfl
  have hcount : 0 < widths.length := List.length_pos_iff.mpr hne
  refine ⟨?length, fun i other wide htext hwidth => ?cell, fun i wide hwidth hi => ?parted⟩
  case length =>
    rw [String.length_append, hfront, hline.length, List.sum_cons, List.length_cons]
    omega
  case cell =>
    cases i with
    | zero =>
      cases htext
      cases hwidth
      refine ⟨h, ?_⟩
      rw [String.append_assoc]
      exact (slice_append_left (length_pad h)).trans (toList_pad width text)
    | succ i =>
      rw [hstart, slice_append_right hfront]
      exact hline.cell i other wide htext hwidth
  case parted =>
    cases i with
    | zero =>
      cases hwidth
      show slice _ (0 + width) 3 = _
      rw [Nat.zero_add, String.append_assoc]
      exact (slice_append_right (length_pad h) 0 3).trans (slice_append_left hseparator)
    | succ i =>
      rw [hstart, Nat.add_assoc, slice_append_right hfront]
      exact hline.parted i wide hwidth (by simpa using hi)

/-- Texts padded to the widths of their columns, with a separator between neighbours. -/
def joined (separator : String) (widths : List Nat) (texts : List String) : String :=
  separator.intercalate (texts.zipWith (fun text width => pad width text) widths)

/-- Texts that fit are shown in columns by padding them. -/
theorem shows_joined (hseparator : separator.length = 3)
    (h : List.Forall₂ (fun text width => text.length ≤ width) texts widths) :
    Shows separator widths texts (joined separator widths texts) := by
  unfold joined
  induction h with
  | nil => exact .nil separator
  | cons hfirst hrest ih =>
    cases hrest with
    | nil =>
      rw [List.zipWith_cons_cons, List.zipWith_nil_left, String.intercalate_singleton]
      exact .single separator hfirst
    | cons hsecond hmore =>
      rw [List.zipWith_cons_cons] at ih ⊢
      rw [List.zipWith_cons_cons, String.intercalate_cons_cons]
      exact ih.cons hseparator (List.cons_ne_nil _ _) hfirst

/-- No line break stands where none is in the texts. -/
theorem newline_not_mem_joined (hseparator : '\n' ∉ separator.toList)
    (h : ∀ text ∈ texts, '\n' ∉ text.toList) (widths : List Nat) :
    '\n' ∉ (joined separator widths texts).toList := by
  have hpieces : ∀ piece ∈ texts.zipWith (fun text width => pad width text) widths,
      '\n' ∉ piece.toList := by
    intro piece hpiece hmem
    rw [← List.map_uncurry_zip_eq_zipWith] at hpiece
    obtain ⟨⟨text, width⟩, hzip, rfl⟩ := List.mem_map.mp hpiece
    rcases List.mem_append.mp (toList_pad width text ▸ hmem) with hmem | hmem
    · exact h text (List.of_mem_zip hzip).1 hmem
    · exact absurd (List.eq_of_mem_replicate hmem) (by decide)
  unfold joined
  generalize texts.zipWith (fun text width => pad width text) widths = pieces at hpieces ⊢
  induction pieces with
  | nil => exact List.not_mem_nil
  | cons first rest ih =>
    obtain ⟨hfirst, hrest⟩ := List.forall_mem_cons.mp hpieces
    cases rest with
    | nil => rwa [String.intercalate_singleton]
    | cons second more =>
      rw [String.intercalate_cons_cons, String.toList_append, String.toList_append]
      simp only [List.mem_append, not_or]
      exact ⟨⟨hfirst, hseparator⟩, ih hrest⟩

/-- What stands in the rule under the name of a column. -/
def dashes (width : Nat) : String := String.ofList (List.replicate width '-')

theorem length_dashes (width : Nat) : (dashes width).length = width := by
  rw [dashes, String.length_ofList, List.length_replicate]

theorem newline_not_mem_dashes (width : Nat) : '\n' ∉ (dashes width).toList := by
  intro hmem
  rw [dashes, String.toList_ofList] at hmem
  exact absurd (List.eq_of_mem_replicate hmem) (by decide)

/-- The rule fills all columns. -/
theorem dashes_fit (widths : List Nat) :
    List.Forall₂ (fun text width => text.length ≤ width) (widths.map dashes) widths := by
  rw [List.forall₂_map_left_iff, List.forall₂_same]
  exact fun width _ => (length_dashes width).le

theorem headerLine_eq (widths : List Nat) (columns : List String) :
    headerLine widths columns = joined " | " widths columns := rfl

theorem ruleLine_eq (widths : List Nat) : ruleLine widths = joined "-+-" widths (widths.map dashes) := by
  have hcells : (widths.map dashes).zipWith (fun text width => pad width text) widths = widths.map dashes := by
    rw [List.zipWith_map_left, List.zipWith_self]
    refine List.map_congr_left fun width _ => ?_
    rw [pad, length_dashes, Nat.sub_self]
    exact String.append_empty
  rw [joined, hcells]
  rfl

/-- Without colours a null is written like any other value. -/
theorem rowLine_eq (widths : List Nat) (row : Row) :
    rowLine false widths row = joined " | " widths (row.map Value.display) := by
  rw [joined, List.zipWith_map_left, rowLine]
  congr 2
  funext value width
  exact ite_self _

end

/-! ### Whole tables -/

/-- A text is the table of a result: its lines are the names, the rule, the rows in order and the number of
rows, and all but the last show texts in columns that are as wide as the longest of their texts. -/
structure IsTable (r : ResultSet) (widths : List Nat) (header rule : String) (lines : List String)
    (shown : String) : Prop where
  split : Text.split '\n' shown = header :: rule :: (lines ++ [r.message])
  wide : ∀ i, widths[i]? = ((columnTexts r i).map String.length).max?
  header : Shows " | " widths r.columns header
  rule : Shows "-+-" widths (widths.map dashes) rule
  rows : List.Forall₂ (fun row line => Shows " | " widths (row.map Value.display) line) r.rows lines

theorem newline_not_mem_message (r : ResultSet) : '\n' ∉ r.message.toList := by
  rw [ResultSet.message, String.toList_append, List.mem_append, not_or]
  have hcount := Decimal.bare_toString_int r.rows.length
  exact ⟨fun hmem => absurd (hcount '\n' hmem) (by decide), by decide⟩

section
variable (hnames : ∀ name ∈ r.columns, '\n' ∉ name.toList)
  (htexts : ∀ row ∈ r.rows, ∀ s, Value.text s ∈ row → '\n' ∉ s.toList)
include hnames htexts

theorem newline_not_mem_tableLines : ∀ line ∈ tableLines false r, '\n' ∉ line.toList := by
  have hdisplayed : ∀ row ∈ r.rows, ∀ text ∈ row.map Value.display, '\n' ∉ text.toList := by
    intro row hrow text htext
    obtain ⟨value, hvalue, rfl⟩ := List.mem_map.mp htext
    exact Value.newline_not_mem_display fun s hs => htexts row hrow s (hs ▸ hvalue)
  have hdashes : ∀ text ∈ (widths r).map dashes, '\n' ∉ text.toList := by
    intro text htext
    obtain ⟨width, -, rfl⟩ := List.mem_map.mp htext
    exact newline_not_mem_dashes width
  intro line hline
  rcases List.mem_cons.mp hline with rfl | hline
  · exact headerLine_eq (widths r) r.columns ▸ newline_not_mem_joined (by decide) hnames _
  rcases List.mem_cons.mp hline with rfl | hline
  · exact ruleLine_eq (widths r) ▸ newline_not_mem_joined (by decide) hdashes _
  rcases List.mem_append.mp hline with hline | hline
  · obtain ⟨row, hrow, rfl⟩ := List.mem_map.mp hline
    exact rowLine_eq (widths r) row ▸ newline_not_mem_joined (by decide) (hdisplayed row hrow) _
  · rw [List.mem_singleton.mp hline]
    exact newline_not_mem_message r

/-- The lines of a table are what stands between its line breaks. -/
theorem split_render : Text.split '\n' (render false (.rows r)) = tableLines false r :=
  Text.split_of_intercalate (String.toList_intercalate ..) (List.cons_ne_nil _ _)
    (newline_not_mem_tableLines hnames htexts)

end

/-- **Tables line up**, whatever is in them, as long as no name and no text has a line break. -/
theorem tables_line_up (r : ResultSet) (hfull : Full r) (hnames : ∀ name ∈ r.columns, '\n' ∉ name.toList)
    (htexts : ∀ row ∈ r.rows, ∀ s, Value.text s ∈ row → '\n' ∉ s.toList) :
    ∃ widths header rule lines, IsTable r widths header rule lines (render false (.rows r)) := by
  refine ⟨widths r, headerLine (widths r) r.columns, ruleLine (widths r),
    r.rows.map (rowLine false (widths r)), split_render hnames htexts, getElem?_widths hfull, ?header, ?rule,
    ?rows⟩
  case header =>
    rw [headerLine_eq]
    exact shows_joined (by rfl) (hfull.fits List.mem_cons_self)
  case rule =>
    rw [ruleLine_eq]
    exact shows_joined (by rfl) (dashes_fit (widths r))
  case rows =>
    rw [List.forall₂_map_right_iff, List.forall₂_same]
    intro row hrow
    rw [rowLine_eq]
    exact shows_joined (by rfl) (hfull.fits (List.mem_cons_of_mem _ (List.mem_map_of_mem hrow)))

/-- The stock of a granary, with a null, a letter of two bytes and a column without a name. -/
def stock : ResultSet :=
  ⟨["id", "nami", ""], [[.int 1, .text "Asép", .bool true], [.int 20, .null, .text ""]]⟩

theorem tables_line_up_stock :
    Full stock ∧ (∀ name ∈ stock.columns, '\n' ∉ name.toList) ∧
      (∀ row ∈ stock.rows, ∀ s, Value.text s ∈ row → '\n' ∉ s.toList) ∧
      (∃ widths header rule lines, IsTable stock widths header rule lines (render false (.rows stock))) ∧
      render false (.rows stock) =
        "id | nami |     \n---+------+-----\n1  | Asép | true\n20 | NULL |     \n2 row(s) found" := by
  have hfull : Full stock := by decide
  have hnames : ∀ name ∈ stock.columns, '\n' ∉ name.toList := by decide
  have htexts : ∀ row ∈ stock.rows, ∀ s, Value.text s ∈ row → '\n' ∉ s.toList := by
    simp [stock]
  exact ⟨hfull, hnames, htexts, tables_line_up stock hfull hnames htexts, by decide +kernel⟩

end Console

end Leuit
