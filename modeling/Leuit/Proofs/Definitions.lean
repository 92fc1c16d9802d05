import Leuit.Proofs.BareDescriptors
import Leuit.Proofs.Grants

/-! Definitions that were stored are read back. The first line of a stored document holds the descriptors
of the columns with bars between them, and what follows it the grants (`Definition.decode_encode_eq_ok`).
If any descriptor has a bar in it, the line falls into more pieces than there are columns; so the columns
are read back exactly if each descriptor is free of bars and is read back on its own
(`Definition.split_header_iff`). -/
namespace Leuit
open Outcome

/-! ### Characters -/

/-- The values a type lists. -/
def ColumnType.values : ColumnType → List String
  | .enum values => values
  | _ => []

section
variable {x : Char}

/-- A character that is no letter or digit stands in no word. -/
theorem Text.not_mem_word (hx : x.isAlphanum = false) {word : String}
    (hword : word.toList.all Char.isAlphanum = true) : x ∉ word.toList := by
  intro hmem
  rw [List.all_eq_true.mp hword x hmem] at hx
  cases hx

theorem ColumnType.mem_describe_iff (hx : x.isAlphanum = false) (hmark : x ∉ ['(', ')', ','])
    (t : ColumnType) : x ∈ t.describe.toList ↔ ∃ v ∈ t.values, x ∈ v.toList := by
  simp only [List.mem_cons, List.not_mem_nil, or_false, not_or] at hmark
  obtain ⟨hopen, hclose, hcomma⟩ := hmark
  have hbracketed : ∀ base inner : String, base.toList.all Char.isAlphanum = true →
      (x ∈ (base ++ "(" ++ inner ++ ")").toList ↔ x ∈ inner.toList) := by
    intro base inner hbase
    have := Text.not_mem_word hx hbase
    simp [this, hopen, hclose]
  cases t with
  | char limit =>
    have hdigits : x ∉ (toString limit).toList := by
      rw [Char.isAlphanum, Bool.or_eq_false_iff] at hx
      exact not_mem_toString hx.2 limit
    show x ∈ ("CHAR" ++ "(" ++ toString limit ++ ")").toList ↔ _
    rw [hbracketed _ _ (by decide)]
    simpa [values] using hdigits
  | enum values =>
    show x ∈ ("ENUM" ++ "(" ++ ",".intercalate values ++ ")").toList ↔ ∃ v ∈ values, x ∈ v.toList
    rw [hbracketed _ _ (by decide), String.toList_intercalate]
    constructor
    · intro h
      rcases Text.mem_intercalate h with hsep | ⟨piece, hp, hmem⟩
      · exact absurd hsep hcomma
      · obtain ⟨v, hv, rfl⟩ := List.mem_map.mp hp
        exact ⟨v, hv, hmem⟩
    · rintro ⟨v, hv, hmem⟩
      have hsub : v.toList.Sublist ([','].intercalate (values.map String.toList)) :=
        Text.sublist_intercalate (List.mem_map_of_mem hv)
      exact hsub.subset hmem
  | _ =>
    simp only [describe, values, List.not_mem_nil, false_and, exists_false, iff_false]
    exact Text.not_mem_word hx (by simp only [baseName]; decide)

/-- Where a character of a description comes from that neither belongs to a word nor separates. -/
theorem Column.mem_describe_iff {c : Column} (hx : x.isAlphanum = false)
    (hmark : x ∉ ['(', ')', ',', ':', '.', ' ']) :
    x ∈ c.describe.toList ↔ x ∈ c.name.toList ∨ (∃ v ∈ c.type.values, x ∈ v.toList) ∨
      ∃ key ∈ c.foreignKey, x ∈ key.table.toList ∨ x ∈ key.column.toList := by
  simp only [List.mem_cons, List.not_mem_nil, or_false, not_or] at hmark
  obtain ⟨hopen, hclose, hcomma, hcolon, hpoint, hspace⟩ := hmark
  have hkey : ∀ key : ForeignKey, x ∈ key.text.toList ↔ x ∈ key.table.toList ∨ x ∈ key.column.toList := by
    intro key
    have hname : x ∉ "FK".toList := Text.not_mem_word hx (by decide)
    simp only [ForeignKey.text, ForeignKey.describe, String.toList_append, List.mem_append]
    simp_all
  rw [← ColumnType.mem_describe_iff hx (by simp [hopen, hclose, hcomma])]
  constructor
  · intro h
    rcases mem_describe_cases h with hsep | hname | htype | ⟨text, hflag, hmem⟩ | ⟨key, hk, hmem⟩
    · exact absurd hsep hcolon
    · exact .inl hname
    · exact .inr (.inl htype)
    · have hwords : text.toList.all (fun y => y == ' ' || y.isAlphanum) = true := by
        rcases flagTexts_mem hflag with rfl | rfl | rfl <;> decide
      have hx' := List.all_eq_true.mp hwords x hmem
      simp [hspace, hx] at hx'
    · exact .inr (.inr ⟨key, hk, (hkey key).mp hmem⟩)
  · rw [toList_describe]
    rintro (hname | htype | ⟨key, hk, hmem⟩)
    · exact (Text.sublist_intercalate (by simp)).subset hname
    · exact (Text.sublist_intercalate (by simp)).subset htype
    · refine (Text.sublist_intercalate ?_).subset ((hkey key).mpr hmem)
      simp [keyTexts, Option.mem_def.mp hk]

end

/-! ### Lists of descriptors -/

namespace Column
variable {taken texts : List String} {columns : List Column} {s : String}

theorem readDistinct_cons_eq_ok {text : String} :
    readDistinct taken (text :: texts) = .ok columns ↔
      ∃ c rest, ofText text = .ok c ∧ c.name ∉ taken ∧ readDistinct (c.name :: taken) texts = .ok rest ∧
        columns = c :: rest := by
  rw [readDistinct]
  cases ofText text with
  | error e => simp
  | ok c =>
    by_cases htaken : c.name ∈ taken
    · simp [htaken]
    · simp only [htaken, if_false, map_eq_ok, Except.ok.injEq]
      constructor
      · rintro ⟨rest, hrest, rfl⟩
        exact ⟨c, rest, rfl, htaken, hrest, rfl⟩
      · rintro ⟨_, rest, rfl, -, hrest, rfl⟩
        exact ⟨rest, hrest, rfl⟩

/-- Reading a list of descriptors comes to reading each, if the names differ from each other and from those
taken. -/
theorem readDistinct_eq_ok :
    readDistinct taken texts = .ok columns ↔
      List.Forall₂ (fun text c => ofText text = .ok c) texts columns ∧ (columns.map (·.name)).Nodup ∧
        ∀ c ∈ columns, c.name ∉ taken := by
  induction texts generalizing taken columns with
  | nil =>
    constructor
    · intro h
      cases h
      exact ⟨.nil, .nil, nofun⟩
    · rintro ⟨hread, -, -⟩
      cases hread
      rfl
  | cons text texts ih =>
    rw [readDistinct_cons_eq_ok]
    constructor
    · rintro ⟨c, rest, htext, htaken, hrest, rfl⟩
      obtain ⟨hread, hnames, hnew⟩ := ih.mp hrest
      refine ⟨.cons htext hread, List.nodup_cons.mpr ⟨fun hmem => ?_, hnames⟩,
        List.forall_mem_cons.mpr ⟨htaken, fun other hother hmem =>
          hnew other hother (List.mem_cons_of_mem c.name hmem)⟩⟩
      obtain ⟨other, hother, hname⟩ := List.mem_map.mp hmem
      exact hnew other hother (List.mem_cons.mpr (.inl hname))
    · rintro ⟨hread, hnames, hnew⟩
      cases hread with
      | @cons _ c _ rest htext hread =>
        obtain ⟨hname, hnames⟩ := List.nodup_cons.mp hnames
        obtain ⟨htaken, hnew⟩ := List.forall_mem_cons.mp hnew
        refine ⟨c, rest, htext, htaken, ih.mpr ⟨hread, hnames, fun other hother hmem => ?_⟩, rfl⟩
        rcases List.mem_cons.mp hmem with hsame | hmem
        · exact hname (List.mem_map.mpr ⟨other, hother, hsame⟩)
        · exact hnew other hother hmem

/-- The columns of a new table: at least one, each read from its descriptor, and no two of the same name. -/
theorem listOfText_eq_ok_iff :
    listOfText s = .ok columns ↔
      columns ≠ [] ∧ List.Forall₂ (fun text c => ofText text = .ok c) (splitList s) columns ∧
        (columns.map (·.name)).Nodup := by
  have hread : listOfText s = .ok columns ↔ columns ≠ [] ∧ readDistinct [] (splitList s) = .ok columns := by
    unfold listOfText
    cases readDistinct [] (splitList s) with
    | error e => simp
    | ok read =>
      cases read with
      | nil => simp [eq_comm]
      | cons c rest =>
        constructor
        · rintro ⟨⟩
          exact ⟨List.cons_ne_nil c rest, rfl⟩
        · exact And.right
  rw [hread, readDistinct_eq_ok]
  simp

theorem bare_splitList (hbare : Text.Bare s.toList) {text : String} (h : text ∈ splitList s) :
    Text.Bare text.toList := by
  obtain ⟨hmap, -⟩ := List.mem_filter.mp h
  obtain ⟨piece, hpiece, rfl⟩ := List.mem_map.mp hmap
  rw [Text.toList_trim, String.toList_ofList]
  refine (hbare.sublist ?_).sublist Text.dropEnds_sublist
  have hsub : piece.Sublist ([','].intercalate (Text.splitOutside ',' 0 s.toList)) :=
    Text.sublist_intercalate hpiece
  rwa [Text.intercalate_splitOutside] at hsub

/-- A list without blanks has descriptors without. -/
theorem listOfText_eq_ok (hbare : Text.Bare s.toList) (h : listOfText s = .ok columns) :
    columns ≠ [] ∧ ∀ c ∈ columns, ∃ text, Text.Bare text.toList ∧ ofText text = .ok c := by
  obtain ⟨hne, hread, -⟩ := listOfText_eq_ok_iff.mp h
  refine ⟨hne, fun c hc => ?_⟩
  obtain ⟨text, htext, hof⟩ := exists_mem_left hread hc
  exact ⟨text, bare_splitList hbare htext, hof⟩

/-- The columns of a new table can be put on one line. -/
theorem listOfText_oneLine (hbare : Text.Bare s.toList) (h : listOfText s = .ok columns) :
    (∀ c ∈ columns, c.WellFormed) ∧ ∀ c ∈ columns, '\n' ∉ c.describe.toList := by
  obtain ⟨-, hread⟩ := listOfText_eq_ok hbare h
  refine ⟨fun c hc => ?_, fun c hc => ?_⟩
  · obtain ⟨text, -, hof⟩ := hread c hc
    exact ofText_wellFormed hof
  · obtain ⟨text, htext, hof⟩ := hread c hc
    obtain ⟨-, htype, hkeys⟩ := ofText_sealed htext hof
    rw [mem_describe_iff (by decide) (by decide)]
    rintro (hname | hvalue | ⟨key, hk, hmem⟩)
    · exact absurd (bare_name (ofText_wellFormed hof) '\n' hname) (by decide)
    · have hdescribed := (ColumnType.mem_describe_iff (by decide) (by decide) c.type).mpr hvalue
      exact absurd (htype '\n' hdescribed) (by decide)
    · have hdescribed : '\n' ∈ key.describe.toList := by
        simp only [ForeignKey.describe, String.toList_append, List.mem_append]
        exact hmem.imp_left .inl
      exact absurd (hkeys key hk '\n' hdescribed) (by decide)

end Column

/-! ### Stored definitions -/

namespace Definition
variable {d : Definition} {columns : List Column} {s : String}

/-- The line of a stored document that holds the columns. -/
def header (columns : List Column) : String := "|".intercalate (columns.map Column.describe)

theorem toList_header (columns : List Column) :
    (header columns).toList = ['|'].intercalate ((columns.map Column.describe).map String.toList) := by
  simp [header, String.toList_intercalate]

theorem bareEnds_header (hne : columns ≠ []) (hwf : ∀ c ∈ columns, c.WellFormed) :
    Text.BareEnds (header columns).toList := by
  rw [toList_header]
  refine Text.bareEnds_intercalate (by simpa using hne) fun piece hp => ?_
  obtain ⟨text, htext, rfl⟩ := List.mem_map.mp hp
  obtain ⟨c, hc, rfl⟩ := List.mem_map.mp htext
  exact Column.bareEnds_describe (hwf c hc)

/-- The first line of a stored document is the line that was written. -/
theorem lines_encode (d : Definition) (hne : d.columns ≠ []) (hwf : ∀ c ∈ d.columns, c.WellFormed)
    (hline : ∀ c ∈ d.columns, '\n' ∉ c.describe.toList) :
    Text.lines d.encode = header d.columns :: Text.lines d.permissions.document := by
  refine Text.lines_cons (fun hmem => ?_) (fun hreturn => ?_)
  · rw [← header, toList_header] at hmem
    rcases Text.mem_intercalate hmem with hbar | ⟨piece, hp, hmem⟩
    · exact absurd hbar (by decide)
    · obtain ⟨text, htext, rfl⟩ := List.mem_map.mp hp
      obtain ⟨c, hc, rfl⟩ := List.mem_map.mp htext
      exact hline c hc hmem
  · obtain ⟨last, hlast, hblank⟩ := (bareEnds_header hne hwf).last
    rw [← header, hlast] at hreturn
    cases hreturn
    exact absurd hblank (by decide)

/-- Reading a stored document comes to reading the pieces of its first line and the grants after it. -/
theorem decode_encode_eq_ok (d : Definition) (hne : d.columns ≠ []) (hwf : ∀ c ∈ d.columns, c.WellFormed)
    (hline : ∀ c ∈ d.columns, '\n' ∉ c.describe.toList) {d' : Definition} :
    decode d.name d.encode = .ok d' ↔
      ∃ columns, (Text.split '|' (header d.columns)).mapM Column.ofText = .ok columns ∧
        d' = ⟨d.name, columns, d.permissions.readBack⟩ := by
  have hends := bareEnds_header hne hwf
  have hempty : header d.columns ≠ "" := by
    intro h
    obtain ⟨first, hfirst, -⟩ := hends.head
    rw [h] at hfirst
    cases hfirst
  rw [decode_eq_ok, lines_encode d hne hwf hline]
  constructor
  · rintro ⟨line, grants, columns, hread, -, hcolumns, rfl⟩
    obtain ⟨rfl, rfl⟩ := List.cons.inj hread
    rw [hends.trim] at hcolumns
    exact ⟨columns, hcolumns, rfl⟩
  · rintro ⟨columns, hcolumns, rfl⟩
    refine ⟨_, _, columns, rfl, ?_, ?_, rfl⟩
    · rwa [hends.trim]
    · rwa [hends.trim]

theorem decode_encode_columns (d : Definition) (hne : d.columns ≠ []) (hwf : ∀ c ∈ d.columns, c.WellFormed)
    (hline : ∀ c ∈ d.columns, '\n' ∉ c.describe.toList) :
    (∃ d', decode d.name d.encode = .ok d' ∧ d'.columns = columns) ↔
      (Text.split '|' (header d.columns)).mapM Column.ofText = .ok columns := by
  simp only [decode_encode_eq_ok d hne hwf hline]
  constructor
  · rintro ⟨d', ⟨found, hfound, rfl⟩, rfl⟩
    exact hfound
  · exact fun h => ⟨_, ⟨columns, h, rfl⟩, rfl⟩

/-- The columns are read back exactly if no description has a bar in it and each is read back. -/
theorem split_header_iff (hne : columns ≠ []) :
    (Text.split '|' (header columns)).mapM Column.ofText = .ok columns ↔
      ∀ c ∈ columns, '|' ∉ c.describe.toList ∧ Column.ofText c.describe = .ok c := by
  have hsplit : (∀ c ∈ columns, '|' ∉ c.describe.toList) →
      Text.split '|' (header columns) = columns.map Column.describe := by
    intro hbar
    refine Text.split_of_intercalate (toList_header columns) (by simpa using hne) fun piece hp => ?_
    obtain ⟨c, hc, rfl⟩ := List.mem_map.mp hp
    exact hbar c hc
  have hmap : (columns.map Column.describe).mapM Column.ofText = .ok columns ↔
      ∀ c ∈ columns, Column.ofText c.describe = .ok c := by
    rw [mapM_eq_ok, List.forall₂_map_left_iff, List.forall₂_same]
  constructor
  · intro h
    have hcount := (mapM_eq_ok.mp h).length_eq
    rw [Text.split, List.length_map, toList_header,
      Text.splitOn_intercalate_flatMap (by simpa using hne)] at hcount
    have hpieces : ∀ piece ∈ (columns.map Column.describe).map String.toList, '|' ∉ piece :=
      Text.not_mem_of_length_flatMap (by rw [hcount]; simp)
    have hbar : ∀ c ∈ columns, '|' ∉ c.describe.toList :=
      fun c hc => hpieces _ (List.mem_map_of_mem (List.mem_map_of_mem hc))
    rw [hsplit hbar] at h
    exact fun c hc => ⟨hbar c hc, hmap.mp h c hc⟩
  · intro h
    rw [hsplit fun c hc => (h c hc).1]
    exact hmap.mpr fun c hc => (h c hc).2

end Definition

end Leuit
