import Leuit.Proofs.Definitions

/-! Tidy definitions survive both of their written forms. A definition is tidy if its names, values, keys
and roles hold none of the marks that the forms are punctuated with. Then every part of a column opens and
closes its own parentheses (`Text.Closed`), so that neither colons nor commas inside a part are taken for
the ends of parts, and the stored document is read as the definition it was written for
(`Definition.decode_encode`); so is the list of its columns in a query, if their names differ. -/
namespace Leuit
open Outcome

/-! ### Closed texts -/

namespace Text
variable {sep : Char} {a b cs : List Char} {pieces : List (List Char)}

/-- A text that closes the parentheses it opens and has no separator outside them. -/
structure Closed (sep : Char) (cs : List Char) : Prop where
  sealed : isSealed sep 0 cs = true
  depth : depthAfter 0 cs = 0

theorem Flat.closed (h : Flat sep cs) : Closed sep cs :=
  ⟨isSealed_of_not_mem h.1 0, depthAfter_of_flat h.2.1 h.2.2 0⟩

theorem Closed.append (ha : Closed sep a) (hb : Closed sep b) : Closed sep (a ++ b) := by
  refine ⟨?_, by rw [depthAfter_append, ha.depth, hb.depth]⟩
  rw [isSealed_append, ha.depth, ha.sealed, hb.sealed]
  rfl

theorem Closed.intercalate {between : Char} (hbetween : Closed sep [between])
    (h : ∀ piece ∈ pieces, Closed sep piece) : Closed sep ([between].intercalate pieces) := by
  induction pieces with
  | nil => exact ⟨rfl, rfl⟩
  | cons piece rest ih =>
    have hpiece := h piece List.mem_cons_self
    by_cases hrest : rest = []
    · subst hrest
      simpa using hpiece
    · rw [List.intercalate_cons_of_ne_nil hrest]
      exact (hpiece.append hbetween).append (ih fun p hp => h p (List.mem_cons_of_mem piece hp))

/-- Inside parentheses nothing separates before they are closed. -/
theorem isSealed_inside (hclose : ')' ∉ cs) {depth : Int} (hdepth : 0 < depth) :
    isSealed sep depth cs = true := by
  induction cs generalizing depth with
  | nil => rfl
  | cons c cs ih =>
    rw [List.mem_cons, not_or] at hclose
    have hstep : depth ≤ deepen depth c := le_depthAfter (show ')' ∉ [c] by simpa using hclose.1) depth
    rw [isSealed, ih hclose.2 (Int.lt_of_lt_of_le hdepth hstep)]
    simp only [Bool.and_true, Bool.not_eq_true', decide_eq_false_iff_not]
    omega

theorem closed_bracketed {base inner : String} (hbase : Flat sep base.toList) (hsep : sep ∉ ['(', ')'])
    (hopen : '(' ∉ inner.toList) (hclose : ')' ∉ inner.toList) :
    Closed sep (base ++ "(" ++ inner ++ ")").toList := by
  constructor
  · rw [ColumnType.isSealed_bracketed hsep hbase]
    exact isSealed_inside hclose (by decide)
  · rw [ColumnType.depthAfter_bracketed hbase.2.1 hbase.2.2, depthAfter_of_flat hopen hclose]
    rfl

/-- Closed pieces with separators between them are the pieces of a text: each begins outside
parentheses. -/
theorem parted_of_closed (hne : pieces ≠ []) (h : ∀ piece ∈ pieces, Closed sep piece) :
    Parted sep 0 pieces := by
  induction pieces with
  | nil => exact absurd rfl hne
  | cons piece rest ih =>
    have hpiece := h piece List.mem_cons_self
    by_cases hrest : rest = []
    · subst hrest
      exact .last hpiece.sealed
    · refine .cons hpiece.sealed (Int.le_of_eq hpiece.depth) ?_
      rw [hpiece.depth]
      exact ih hrest fun p hp => h p (List.mem_cons_of_mem piece hp)

end Text

/-! ### Tidy columns -/

/-- The values of an enumeration can be told apart, and the limit of a text is a machine number. -/
def ColumnType.Tidy : ColumnType → Prop
  | char limit => limit < Decimal.countBound
  | enum values => values ≠ [] ∧ ∀ v ∈ values, Text.Proper ['|', ',', '(', ')', '\n'] v
  | _ => True

structure ForeignKey.Tidy (key : ForeignKey) : Prop where
  table : Text.Proper ['.', '|', '(', ')', '\n'] key.table
  column : Text.Proper ['|', '(', ')', '\n'] key.column

structure Column.Tidy (c : Column) : Prop where
  name : Text.Proper ['.', '|', ':', '(', ')', ','] c.name
  bare : Text.Bare c.name.toList
  type : c.type.Tidy
  reference : ∀ key, c.foreignKey = some key → key.Tidy
  primary : c.isPrimary = true → c.isUnique = true ∧ c.isNotNull = true

/-- A definition all of whose texts can be told apart from the marks around them. -/
structure Definition.Tidy (d : Definition) : Prop where
  nonempty : d.columns ≠ []
  columns : ∀ c ∈ d.columns, c.Tidy
  roles : ∀ action, ∀ role ∈ d.permissions.roles action, Text.Proper ['=', '\n'] role

instance : (t : ColumnType) → Decidable t.Tidy
  | .char limit => inferInstanceAs (Decidable (limit < Decimal.countBound))
  | .enum values =>
    inferInstanceAs (Decidable (values ≠ [] ∧ ∀ v ∈ values, Text.Proper ['|', ',', '(', ')', '\n'] v))
  | .int | .float | .bool | .date | .string | .text => .isTrue trivial

instance (key : ForeignKey) : Decidable key.Tidy :=
  decidable_of_iff (Text.Proper ['.', '|', '(', ')', '\n'] key.table ∧
      Text.Proper ['|', '(', ')', '\n'] key.column)
    ⟨fun ⟨htable, hcolumn⟩ => ⟨htable, hcolumn⟩, fun ⟨htable, hcolumn⟩ => ⟨htable, hcolumn⟩⟩

instance (c : Column) : Decidable c.Tidy :=
  decidable_of_iff (Text.Proper ['.', '|', ':', '(', ')', ','] c.name ∧ Text.Bare c.name.toList ∧
      c.type.Tidy ∧ (∀ key ∈ c.foreignKey, key.Tidy) ∧
      (c.isPrimary = true → c.isUnique = true ∧ c.isNotNull = true))
    ⟨fun ⟨hname, hbare, htype, hkey, hprimary⟩ => ⟨hname, hbare, htype, hkey, hprimary⟩,
      fun ⟨hname, hbare, htype, hkey, hprimary⟩ => ⟨hname, hbare, htype, hkey, hprimary⟩⟩

instance (d : Definition) : Decidable d.Tidy :=
  decidable_of_iff (d.columns ≠ [] ∧ (∀ c ∈ d.columns, c.Tidy) ∧
      (∀ role ∈ d.permissions.readers.names, Text.Proper ['=', '\n'] role) ∧
      ∀ role ∈ d.permissions.writers.names, Text.Proper ['=', '\n'] role)
    ⟨fun ⟨hne, hcolumns, hread, hwrite⟩ => ⟨hne, hcolumns, fun action => by
        cases action with
        | read => exact hread
        | write => exact hwrite⟩,
      fun ⟨hne, hcolumns, hroles⟩ => ⟨hne, hcolumns, hroles .read, hroles .write⟩⟩

namespace ColumnType
variable {t : ColumnType}

theorem Tidy.wellFormed (h : t.Tidy) : t.WellFormed := by
  cases t with
  | enum values => exact ⟨h.1, fun v hv =>
      ⟨(h.2 v hv).nonempty, (h.2 v hv).trimmed, (h.2 v hv).not_mem (by decide)⟩⟩
  | char limit => exact h
  | _ => trivial

theorem Tidy.closed (h : t.Tidy) {sep : Char} (hsep : sep = ':' ∨ sep = ',') :
    Text.Closed sep t.describe.toList := by
  have hflat : ∀ base ∈ ["INT", "FLOAT", "BOOL", "DATE", "STRING", "TEXT", "CHAR", "ENUM"],
      Text.Flat sep base.toList := by
    unfold Text.Flat
    rcases hsep with rfl | rfl <;> decide
  have hbracket : sep ∉ ['(', ')'] := by
    rcases hsep with rfl | rfl <;> decide
  cases t with
  | char limit =>
    show Text.Closed sep ("CHAR" ++ "(" ++ toString limit ++ ")").toList
    exact Text.closed_bracketed (hflat "CHAR" (by simp)) hbracket (not_mem_toString (by decide) limit)
      (not_mem_toString (by decide) limit)
  | enum values =>
    have hvalues : ∀ x, x ≠ ',' → (∀ v ∈ values, x ∉ v.toList) → x ∉ (",".intercalate values).toList := by
      intro x hx hnone hmem
      rw [String.toList_intercalate] at hmem
      rcases Text.mem_intercalate hmem with hcomma | ⟨piece, hp, hmem⟩
      · exact hx hcomma
      · obtain ⟨v, hv, rfl⟩ := List.mem_map.mp hp
        exact hnone v hv hmem
    show Text.Closed sep ("ENUM" ++ "(" ++ ",".intercalate values ++ ")").toList
    exact Text.closed_bracketed (hflat "ENUM" (by simp)) hbracket
      (hvalues '(' (by decide) fun v hv => (h.2 v hv).not_mem (by decide))
      (hvalues ')' (by decide) fun v hv => (h.2 v hv).not_mem (by decide))
  | _ => exact (hflat _ (by simp [describe, baseName])).closed

end ColumnType

namespace ForeignKey
variable {key : ForeignKey}

theorem Tidy.wellFormed (h : key.Tidy) : key.WellFormed :=
  ⟨h.table.nonempty, h.table.trimmed, h.table.not_mem (by decide), h.column.nonempty, h.column.trimmed⟩

theorem Tidy.not_mem_describe (h : key.Tidy) {x : Char} (hx : x = '(' ∨ x = ')') :
    x ∉ key.describe.toList := by
  have hpoint : x ≠ '.' := by
    rcases hx with rfl | rfl <;> decide
  have htable : x ∉ key.table.toList := h.table.not_mem (by rcases hx with rfl | rfl <;> decide)
  have hcolumn : x ∉ key.column.toList := h.column.not_mem (by rcases hx with rfl | rfl <;> decide)
  simp [describe, hpoint, htable, hcolumn]

theorem Tidy.closed (h : key.Tidy) {sep : Char} (hsep : sep = ':' ∨ sep = ',') :
    Text.Closed sep key.text.toList := by
  show Text.Closed sep ("FK" ++ "(" ++ key.describe ++ ")").toList
  refine Text.closed_bracketed ?_ ?_ (h.not_mem_describe (.inl rfl)) (h.not_mem_describe (.inr rfl))
  · unfold Text.Flat
    rcases hsep with rfl | rfl <;> decide
  · rcases hsep with rfl | rfl <;> decide

end ForeignKey

namespace Column
variable {c : Column} {columns : List Column}

theorem Tidy.wellFormed (h : c.Tidy) : c.WellFormed where
  name := nameAllowed_iff.mpr ⟨h.name.nonempty, fun x hx => ⟨h.bare x hx,
    fun heq => h.name.unmarked x hx (by simp [heq]), fun heq => h.name.unmarked x hx (by simp [heq])⟩⟩
  type := h.type.wellFormed
  primary := h.primary
  reference key hk := (h.reference key hk).wellFormed

theorem Tidy.flat_name (h : c.Tidy) {sep : Char} (hsep : sep = ':' ∨ sep = ',') :
    Text.Flat sep c.name.toList :=
  ⟨h.name.not_mem (by rcases hsep with rfl | rfl <;> decide), h.name.not_mem (by decide),
    h.name.not_mem (by decide)⟩

theorem Tidy.sealed (h : c.Tidy) : c.Sealed := by
  have hname := (h.flat_name (.inl rfl)).closed
  have htype := h.type.closed (.inl rfl)
  refine ⟨hname.sealed, Int.le_of_eq hname.depth, ?_, fun _ => ?_⟩
  · rw [hname.depth]
    exact htype.sealed
  · rw [depth, hname.depth]
    exact Int.le_of_eq htype.depth

theorem Tidy.keySealed (h : c.Tidy) : c.KeySealed := by
  intro key hk
  have hdepth : c.depth = 0 := by
    rw [depth, (h.flat_name (.inl rfl)).closed.depth, (h.type.closed (.inl rfl)).depth]
  rw [hdepth]
  exact Text.isSealed_inside ((h.reference key hk).not_mem_describe (.inr rfl)) (by decide)

/-- A tidy column is read back from its description. -/
theorem Tidy.ofText_describe (h : c.Tidy) : ofText c.describe = .ok c :=
  Column.ofText_describe h.wellFormed h.sealed h.keySealed

theorem Tidy.not_mem_describe (h : c.Tidy) {x : Char} (hx : x = '|' ∨ x = '\n') :
    x ∉ c.describe.toList := by
  rw [mem_describe_iff (by rcases hx with rfl | rfl <;> decide) (by rcases hx with rfl | rfl <;> decide)]
  rintro (hname | ⟨v, hv, hmem⟩ | ⟨key, hk, hmem⟩)
  · rcases hx with rfl | rfl
    · exact h.name.not_mem (by decide) hname
    · exact absurd (h.bare '\n' hname) (by decide)
  · have htype := h.type
    cases ht : c.type with
    | enum values =>
      rw [ht] at htype hv
      exact (htype.2 v hv).not_mem (by rcases hx with rfl | rfl <;> decide) hmem
    | _ =>
      rw [ht] at hv
      cases hv
  · obtain ⟨htable, hcolumn⟩ := h.reference key hk
    rcases hmem with hmem | hmem
    · exact htable.not_mem (by rcases hx with rfl | rfl <;> decide) hmem
    · exact hcolumn.not_mem (by rcases hx with rfl | rfl <;> decide) hmem

/-- No comma of a description stands outside parentheses. -/
theorem Tidy.closed_describe (h : c.Tidy) : Text.Closed ',' c.describe.toList := by
  rw [toList_describe]
  refine Text.Closed.intercalate ⟨by decide, by decide⟩ fun piece hp => ?_
  obtain ⟨text, htext, rfl⟩ := List.mem_map.mp hp
  simp only [List.mem_cons, List.mem_append] at htext
  rcases htext with rfl | rfl | hflag | hkey
  · exact (h.flat_name (.inr rfl)).closed
  · exact h.type.closed (.inr rfl)
  · refine Text.Flat.closed ?_
    unfold Text.Flat
    rcases flagTexts_mem hflag with rfl | rfl | rfl <;> decide
  · obtain ⟨key, hk, rfl⟩ := List.mem_map.mp hkey
    exact (h.reference key (by simpa using hk)).closed (.inr rfl)

/-! ### Lists of columns -/

/-- The descriptions in a list between commas are found again. -/
theorem splitList_describe (hne : columns ≠ []) (h : ∀ c ∈ columns, c.Tidy) :
    splitList (",".intercalate (columns.map describe)) = columns.map describe := by
  have hsplit : Text.splitOutside ',' 0 (",".intercalate (columns.map describe)).toList =
      (columns.map describe).map String.toList := by
    refine Text.splitOutside_eq_iff.mpr ⟨by simp [String.toList_intercalate], ?_⟩
    refine Text.parted_of_closed (by simpa using hne) fun piece hp => ?_
    obtain ⟨text, htext, rfl⟩ := List.mem_map.mp hp
    obtain ⟨c, hc, rfl⟩ := List.mem_map.mp htext
    exact (h c hc).closed_describe
  have htrim : ∀ text ∈ columns.map describe, Text.trim text = text ∧ text ≠ "" := by
    intro text htext
    obtain ⟨c, hc, rfl⟩ := List.mem_map.mp htext
    have hends := bareEnds_describe (h c hc).wellFormed
    refine ⟨hends.trim, fun hempty => ?_⟩
    obtain ⟨first, hfirst, -⟩ := hends.head
    rw [hempty] at hfirst
    cases hfirst
  rw [splitList, hsplit, List.map_map]
  have hmap : (columns.map describe).map ((fun piece => Text.trim (String.ofList piece)) ∘ String.toList) =
      columns.map describe := by
    refine (List.map_congr_left fun text htext => ?_).trans (List.map_id _)
    simp [(htrim text htext).1]
  rw [hmap]
  exact List.filter_eq_self.mpr fun text htext => by simpa using (htrim text htext).2

theorem listOfText_describe (hne : columns ≠ []) (h : ∀ c ∈ columns, c.Tidy)
    (hnames : (columns.map (·.name)).Nodup) :
    listOfText (",".intercalate (columns.map describe)) = .ok columns := by
  refine listOfText_eq_ok_iff.mpr ⟨hne, ?_, hnames⟩
  rw [splitList_describe hne h, List.forall₂_map_left_iff, List.forall₂_same]
  exact fun c hc => (h c hc).ofText_describe

end Column

/-! ### Definitions -/

namespace Definition
variable {d : Definition}

theorem Tidy.readBack (h : d.Tidy) : d.permissions.readBack = d.permissions := by
  have hroles : ∀ role ∈ d.permissions.grantees, Text.Proper ['=', '\n'] role := by
    intro role hrole
    obtain ⟨action, haction⟩ := Permissions.mem_grantees.mp hrole
    exact h.roles action role haction
  exact (Permissions.readBack_eq_iff fun role hrole => (hroles role hrole).mono (by decide)).mpr
    fun role hrole => (hroles role hrole).not_mem (by decide)

/-- **A tidy definition is read back from its document, and its columns from a list of them.** The list
needs columns with distinct names, as queries do. -/
theorem decode_encode (h : d.Tidy) :
    decode d.name d.encode = .ok d ∧
      ((d.columns.map (·.name)).Nodup →
        Column.listOfText (",".intercalate (d.columns.map Column.describe)) = .ok d.columns) := by
  refine ⟨?_, Column.listOfText_describe h.nonempty h.columns⟩
  refine (decode_encode_eq_ok d h.nonempty (fun c hc => (h.columns c hc).wellFormed)
    fun c hc => (h.columns c hc).not_mem_describe (.inr rfl)).mpr ⟨d.columns, ?_, ?_⟩
  · exact (split_header_iff h.nonempty).mpr fun c hc =>
      ⟨(h.columns c hc).not_mem_describe (.inl rfl), (h.columns c hc).ofText_describe⟩
  · rw [h.readBack]

/-- A table with every kind of column. -/
def ledger : Definition where
  name := "buku"
  columns := [
    (Column.plain "id" .int).primary,
    (Column.plain "kode;lama" (.char 8)).unique.notNull,
    { Column.plain "status" (.enum ["lunas: ya", "belum"]) with
      foreignKey := some ⟨"jenis;a,b", "x.y: z"⟩ }]
  permissions := (Permissions.nobody.grant .read ["juru tulis", "tamu,1"]).grant .write ["juru tulis"]

theorem decode_encode_ledger :
    ledger.Tidy ∧ decode ledger.name ledger.encode = .ok ledger ∧
      Column.listOfText (",".intercalate (ledger.columns.map Column.describe)) = .ok ledger.columns := by
  have htidy : ledger.Tidy := by decide +kernel
  obtain ⟨hdecode, hlist⟩ := decode_encode htidy
  exact ⟨htidy, hdecode, hlist (by decide)⟩

end Definition

end Leuit
