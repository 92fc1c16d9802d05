import Leuit.Proofs.Columns

/-! Descriptors that were written are read back. The stored form of a column is its name, its type and its
constraints with colons between them (`Column.toList_describe`). It falls apart at these colons and
perhaps inside the foreign key (`Column.splitOutside_describe`), and is read as the same column if every
colon of the key stands inside parentheses (`Column.ofText_describe`). -/
namespace Leuit
open Outcome

/-! ### Types -/

namespace ColumnType
variable {t : ColumnType} {s : String}

theorem ofText_bracketed {base inner : String} (hbase : '(' ∉ base.toList) :
    ofText (base ++ "(" ++ inner ++ ")") =
      ofParts (Text.trim base) ((Text.split ',' inner).map Text.trim) := by
  have hlist : (base ++ "(" ++ inner ++ ")").toList = base.toList ++ '(' :: (inner.toList ++ ')' :: []) := by
    simp
  have hinner : Text.beforeLast? ')' (inner.toList ++ ')' :: []) = some inner.toList :=
    Text.beforeLast?_eq_some.mpr ⟨[], rfl, List.not_mem_nil⟩
  unfold ofText
  rw [hlist, Text.dropWhile_ne_append hbase, Text.takeWhile_ne_append hbase]
  simp only [hinner, String.ofList_toList]

theorem bare_toString (n : Nat) : Text.Bare (toString n).toList := by
  intro c hc
  rw [Nat.toString_eq_repr, Nat.toList_repr] at hc
  have hdigit := Nat.isDigit_of_mem_toDigits (by decide) (by decide) hc
  simp only [Char.isDigit, Bool.and_eq_true, decide_eq_true_eq] at hdigit
  have hlow : 48 ≤ c.toNat := hdigit.1
  have hhigh : c.toNat ≤ 57 := hdigit.2
  simp only [Text.isBlank, Bool.or_eq_false_iff, Bool.and_eq_false_iff, decide_eq_false_iff_not,
    beq_eq_false_iff_ne]
  omega

theorem not_mem_toString {c : Char} (hc : c.isDigit = false) (n : Nat) : c ∉ (toString n).toList := by
  intro hmem
  rw [Nat.toString_eq_repr, Nat.toList_repr] at hmem
  have := Nat.isDigit_of_mem_toDigits (by decide) (by decide) hmem
  rw [hc] at this
  cases this

/-- A type that was written is read back. -/
theorem ofText_describe (h : t.WellFormed) : ofText t.describe = .ok t := by
  cases t with
  | char limit =>
    have hsplit : Text.split ',' (toString limit) = [toString limit] :=
      Text.split_of_not_mem (not_mem_toString (by decide) limit)
    have hupper : Text.upper (Text.trim "CHAR") = "CHAR" := by decide
    show ofText ("CHAR" ++ "(" ++ toString limit ++ ")") = _
    rw [ofText_bracketed (by decide), hsplit]
    unfold ofParts
    simp only [hupper, List.map_cons, List.head?_cons, Option.bind_some,
      (bare_toString limit).trim, Decimal.count?_toString h]
  | enum values =>
    obtain ⟨hne, hvalues⟩ := h
    have hsplit : Text.split ',' (",".intercalate values) = values :=
      Text.split_of_intercalate (by simp [String.toList_intercalate]) hne fun v hv => (hvalues v hv).2.2
    have hupper : Text.upper (Text.trim "ENUM") = "ENUM" := by decide
    have htrim : values.map Text.trim = values := by
      rw [List.map_congr_left fun v hv => (hvalues v hv).2.1, List.map_id']
    have hfilter : values.filter (· ≠ "") = values := by
      rw [List.filter_eq_self]
      exact fun v hv => by simpa using (hvalues v hv).1
    show ofText ("ENUM" ++ "(" ++ ",".intercalate values ++ ")") = _
    rw [ofText_bracketed (by decide), hsplit, htrim]
    unfold ofParts
    simp only [hupper, htrim, hfilter]
  | _ => rfl

theorem bareEnds_describe (t : ColumnType) : Text.BareEnds t.describe.toList := by
  have hclose : Text.BareEnds ")".toList := ⟨⟨')', rfl, by decide⟩, ')', rfl, by decide⟩
  cases t with
  | char limit =>
    simp only [describe, String.toList_append]
    exact Text.BareEnds.append ⟨⟨'C', rfl, by decide⟩, '(', rfl, by decide⟩ hclose _
  | enum values =>
    simp only [describe, String.toList_append]
    exact Text.BareEnds.append ⟨⟨'E', rfl, by decide⟩, '(', rfl, by decide⟩ hclose _
  | _ => exact ⟨⟨_, rfl, by decide⟩, _, rfl, by decide⟩

end ColumnType

/-! ### Constraints -/

namespace ForeignKey
variable {key : ForeignKey} {s : String}

theorem ofText_describe (h : key.WellFormed) : ofText key.describe = .ok key := by
  have hlist : key.describe.toList = key.table.toList ++ '.' :: key.column.toList := by simp [describe]
  obtain ⟨c, cs, hc⟩ := List.exists_cons_of_ne_nil (mt String.toList_eq_nil_iff.mp h.table)
  have htrim : Text.trim key.describe = key.describe := by
    apply Text.trim_of_ends
    · intro x hx
      rw [hlist, hc] at hx
      refine Text.ends_dropEnds key.table.toList (.inl ?_)
      rw [← Text.toList_trim, h.tableTrimmed, hc]
      exact hx
    · intro x hx
      rw [hlist, List.getLast?_append, List.getLast?_cons] at hx
      refine Text.ends_dropEnds key.column.toList (.inr ?_)
      rw [← Text.toList_trim, h.columnTrimmed]
      cases hlast : key.column.toList.getLast? with
      | none => exact absurd (String.toList_eq_nil_iff.mp (List.getLast?_eq_none_iff.mp hlast)) h.column
      | some y => simpa [hlast] using hx
  refine ofText_eq_ok.mpr ⟨key.table, key.column, ?_, h.table, h.column, ?_⟩
  · rw [htrim]
    exact Text.cut?_eq_some.mpr ⟨hlist, h.noPoint⟩
  · rw [h.tableTrimmed, h.columnTrimmed]

theorem bare_describe (hs : Text.Bare s.toList) (h : ofText s = .ok key) : Text.Bare key.describe.toList := by
  obtain ⟨table, column, hcut, -, -, rfl⟩ := ofText_eq_ok.mp h
  have hlist := (Text.cut?_eq_some.mp hcut).1
  rw [hs.trim] at hlist
  intro c hc
  have hmem : c ∈ table.toList ∨ c = '.' ∨ c ∈ column.toList := by
    simp only [describe, String.toList_append, List.mem_append] at hc
    rcases hc with (hc | hc) | hc
    · exact .inl (Text.mem_of_mem_trim hc)
    · exact .inr (.inl (by simpa using hc))
    · exact .inr (.inr (Text.mem_of_mem_trim hc))
  exact hs c (by rw [hlist]; simpa using hmem)

/-- A foreign key as a constraint. -/
def text (key : ForeignKey) : String := "FK(" ++ key.describe ++ ")"

theorem toList_text (key : ForeignKey) :
    key.text.toList = 'F' :: 'K' :: '(' :: (key.describe.toList ++ [')']) := by
  simp [text]

theorem bareEnds_text (key : ForeignKey) : Text.BareEnds key.text.toList := by
  simp only [text, String.toList_append]
  exact Text.BareEnds.append ⟨⟨'F', rfl, by decide⟩, '(', rfl, by decide⟩
    ⟨⟨')', rfl, by decide⟩, ')', rfl, by decide⟩ _

theorem isSealed_text (key : ForeignKey) (depth : Int) :
    Text.isSealed ':' depth key.text.toList = Text.isSealed ':' (depth + 1) key.describe.toList := by
  rw [toList_text]
  simp [Text.isSealed, Text.isSealed_append, Text.deepen]

end ForeignKey

theorem Constraint.ofText?_text {key : ForeignKey} (h : key.WellFormed) :
    ofText? key.text = some (.ok (.references key)) := by
  have hword : Text.upperList (key.text.toList.filter (!Text.isBlank ·)) =
      'F' :: 'K' :: '(' :: (Text.upperList (key.describe.toList.filter (!Text.isBlank ·)) ++ [')']) := by
    rw [ForeignKey.toList_text]
    simp [Text.upperList, Text.upperChar, Text.isBlank]
  have hlast : ∀ cs : List Char, ('(' :: (cs ++ [')'])).getLast? = some ')' :=
    fun cs => List.getLast?_concat (l := '(' :: cs)
  have htrim : Text.trim key.text = key.text := key.bareEnds_text.trim
  unfold ofText?
  rw [hword, htrim, ForeignKey.toList_text]
  simp [hlast, ForeignKey.ofText_describe h, Except.map]

namespace Column
variable {c c' : Column} {s : String} {texts : List String}

/-- The flags of a column as constraints. -/
def flagTexts (c : Column) : List String :=
  if c.isPrimary then ["PK"]
  else (if c.isUnique then ["UNIQUE"] else []) ++ (if c.isNotNull then ["NOT NULL"] else [])

/-- The foreign key of a column as a constraint. -/
def keyTexts (c : Column) : List String := c.foreignKey.toList.map ForeignKey.text

theorem toList_describe (c : Column) :
    c.describe.toList =
      [':'].intercalate ((c.name :: c.type.describe :: (c.flagTexts ++ c.keyTexts)).map String.toList) := by
  obtain ⟨name, type, isPrimary, isUnique, isNotNull, foreignKey⟩ := c
  cases foreignKey <;> cases isPrimary <;> cases isUnique <;> cases isNotNull <;>
    simp [describe, flagTexts, keyTexts, ForeignKey.text, List.intercalate]

theorem constrainAll_append_eq_ok {more : List String} :
    c.constrainAll (texts ++ more) = .ok c' ↔
      ∃ between, c.constrainAll texts = .ok between ∧ between.constrainAll more = .ok c' := by
  induction texts generalizing c with
  | nil => simp [constrainAll]
  | cons text texts ih =>
    simp only [List.cons_append, constrainAll_cons_eq_ok, ih]
    constructor
    · rintro ⟨constraint, htext, between, hbetween, hrest⟩
      exact ⟨between, ⟨constraint, htext, hbetween⟩, hrest⟩
    · rintro ⟨between, ⟨constraint, htext, hbetween⟩, hrest⟩
      exact ⟨constraint, htext, between, hbetween, hrest⟩

theorem constrainAll_flagTexts (h : c.WellFormed) :
    (plain c.name c.type).constrainAll c.flagTexts = .ok { c with foreignKey := none } := by
  have hpk : Constraint.ofText? "PK" = some (.ok .primary) := by decide
  have hunique : Constraint.ofText? "UNIQUE" = some (.ok .unique) := by decide
  have hnotNull : Constraint.ofText? "NOT NULL" = some (.ok .notNull) := by decide
  have hprimary := h.primary
  obtain ⟨name, type, isPrimary, isUnique, isNotNull, foreignKey⟩ := c
  cases isPrimary with
  | true =>
    obtain ⟨rfl, rfl⟩ := hprimary rfl
    simp [flagTexts, constrainAll, hpk, constrain, primary, plain]
  | false =>
    cases isUnique <;> cases isNotNull <;>
      simp [flagTexts, constrainAll, hunique, hnotNull, constrain, unique, notNull, plain]

/-! ### Reading what was written -/

/-- The depth of parentheses after name and type. -/
def depth (c : Column) : Int :=
  Text.depthAfter (Text.depthAfter 0 c.name.toList) c.type.describe.toList

/-- Name and type of a column are sealed against colons, and what follows them stands outside
parentheses. -/
structure Sealed (c : Column) : Prop where
  name : Text.isSealed ':' 0 c.name.toList = true
  nameDepth : Text.depthAfter 0 c.name.toList ≤ 0
  type : Text.isSealed ':' (Text.depthAfter 0 c.name.toList) c.type.describe.toList = true
  typeDepth : c.flagTexts ++ c.keyTexts ≠ [] → c.depth ≤ 0

/-- The foreign key of a column is sealed against colons as well. -/
def KeySealed (c : Column) : Prop :=
  ∀ key, c.foreignKey = some key → Text.isSealed ':' (c.depth + 1) key.describe.toList = true

theorem flagTexts_mem {text : String} (h : text ∈ c.flagTexts) :
    text = "PK" ∨ text = "UNIQUE" ∨ text = "NOT NULL" := by
  unfold flagTexts at h
  split at h
  · exact .inl (List.mem_singleton.mp h)
  · rcases List.mem_append.mp h with h | h
    · split at h
      · exact .inr (.inl (List.mem_singleton.mp h))
      · cases h
    · split at h
      · exact .inr (.inr (List.mem_singleton.mp h))
      · cases h

/-- Where the characters of a description come from. -/
theorem mem_describe_cases {x : Char} (h : x ∈ c.describe.toList) :
    x = ':' ∨ x ∈ c.name.toList ∨ x ∈ c.type.describe.toList ∨ (∃ text ∈ c.flagTexts, x ∈ text.toList) ∨
      ∃ key ∈ c.foreignKey, x ∈ key.text.toList := by
  rw [toList_describe] at h
  rcases Text.mem_intercalate h with hcolon | ⟨piece, hp, hmem⟩
  · exact .inl hcolon
  · obtain ⟨text, htext, rfl⟩ := List.mem_map.mp hp
    simp only [List.mem_cons, List.mem_append] at htext
    rcases htext with rfl | rfl | hflag | hkey
    · exact .inr (.inl hmem)
    · exact .inr (.inr (.inl hmem))
    · exact .inr (.inr (.inr (.inl ⟨text, hflag, hmem⟩)))
    · obtain ⟨key, hk, rfl⟩ := List.mem_map.mp hkey
      exact .inr (.inr (.inr (.inr ⟨key, by simpa using hk, hmem⟩)))

theorem flat_flagTexts {text : String} (h : text ∈ c.flagTexts) : Text.Flat ':' text.toList := by
  unfold Text.Flat
  rcases flagTexts_mem h with rfl | rfl | rfl <;> decide

/-- The parts of a description. Only the foreign key may fall apart. -/
theorem splitOutside_describe (h : c.Sealed) :
    Text.splitOutside ':' 0 c.describe.toList =
      c.name.toList :: c.type.describe.toList :: (c.flagTexts.map String.toList ++
        c.keyTexts.flatMap fun text => Text.splitOutside ':' c.depth text.toList) := by
  have hflat : ∀ piece ∈ c.flagTexts.map String.toList, Text.Flat ':' piece := by
    intro piece hp
    obtain ⟨text, htext, rfl⟩ := List.mem_map.mp hp
    exact flat_flagTexts htext
  rw [toList_describe, List.map_cons, List.map_cons, List.intercalate_cons_of_ne_nil (by simp),
    List.append_assoc, List.singleton_append, Text.splitOutside_append h.name h.nameDepth]
  congr 1
  by_cases hnil : c.flagTexts ++ c.keyTexts = []
  · obtain ⟨hflags, hkey⟩ := List.append_eq_nil_iff.mp hnil
    simp [hflags, hkey, Text.splitOutside_of_sealed h.type]
  · have hdepth := h.typeDepth hnil
    rw [List.intercalate_cons_of_ne_nil (by simpa using hnil), List.append_assoc, List.singleton_append,
      Text.splitOutside_append h.type hdepth]
    congr 1
    show Text.splitOutside ':' c.depth _ = _
    cases hk : c.foreignKey with
    | some key =>
      simp only [keyTexts, hk, Option.toList_some, List.map_append, List.map_cons, List.map_nil,
        List.flatMap_cons, List.flatMap_nil, List.append_nil]
      exact Text.splitOutside_flat hflat hdepth key.text.toList
    | none =>
      have hflags : c.flagTexts ≠ [] := by simpa [keyTexts, hk] using hnil
      have hlast := List.dropLast_append_getLast hflags
      simp only [keyTexts, hk, Option.toList_none, List.map_nil, List.append_nil, List.flatMap_nil]
      rw [← hlast, List.map_append, List.map_cons, List.map_nil, Text.splitOutside_flat _ hdepth]
      · rw [Text.splitOutside_of_sealed
          (Text.isSealed_of_not_mem (flat_flagTexts (List.getLast_mem hflags)).1 _)]
      · intro piece hp
        obtain ⟨text, htext, rfl⟩ := List.mem_map.mp hp
        exact flat_flagTexts (List.dropLast_subset _ htext)

theorem bare_name (h : c.WellFormed) : Text.Bare c.name.toList :=
  fun x hx => ((nameAllowed_iff.mp h.name).2 x hx).1

theorem name_ne_nil (h : c.WellFormed) : c.name.toList ≠ [] :=
  mt String.toList_eq_nil_iff.mp (nameAllowed_iff.mp h.name).1

theorem bareEnds_describe (h : c.WellFormed) : Text.BareEnds c.describe.toList := by
  rw [toList_describe]
  refine Text.bareEnds_intercalate (by simp) fun piece hp => ?_
  obtain ⟨text, htext, rfl⟩ := List.mem_map.mp hp
  simp only [List.mem_cons, List.mem_append] at htext
  rcases htext with rfl | rfl | hflag | hkey
  · exact (bare_name h).bareEnds (name_ne_nil h)
  · exact c.type.bareEnds_describe
  · rcases flagTexts_mem hflag with rfl | rfl | rfl
    · exact ⟨⟨'P', rfl, by decide⟩, 'K', rfl, by decide⟩
    · exact ⟨⟨'U', rfl, by decide⟩, 'E', rfl, by decide⟩
    · exact ⟨⟨'N', rfl, by decide⟩, 'L', rfl, by decide⟩
  · obtain ⟨key, -, rfl⟩ := List.mem_map.mp hkey
    exact key.bareEnds_text

/-- Reading a description comes to reading what became of the foreign key. -/
theorem ofText_describe_eq_ok (h : c.WellFormed) (hs : c.Sealed) :
    ofText c.describe = .ok c' ↔
      ({ c with foreignKey := none } : Column).constrainAll
        ((c.keyTexts.flatMap fun text => Text.splitOutside ':' c.depth text.toList).map String.ofList) =
          .ok c' := by
  have hname : Text.trim c.name = c.name := (bare_name h).trim
  have htype : Text.trim c.type.describe = c.type.describe := c.type.bareEnds_describe.trim
  have hparts := splitOutside_describe hs
  rw [ofText_eq_ok, (bareEnds_describe h).trim, hparts]
  simp only [List.map_cons, List.map_append, List.map_map, String.ofList_toList, List.cons.injEq,
    Function.comp_def, List.map_id']
  constructor
  · rintro ⟨_, _, _, t, ⟨rfl, rfl, rfl⟩, -, ht, hc⟩
    rw [htype, ColumnType.ofText_describe h.type] at ht
    cases ht
    rw [hname] at hc
    obtain ⟨between, hflags, hrest⟩ := constrainAll_append_eq_ok.mp hc
    rw [constrainAll_flagTexts h] at hflags
    cases hflags
    exact hrest
  · intro hc
    refine ⟨_, _, _, c.type, ⟨rfl, rfl, rfl⟩, hname.symm ▸ h.name, ?_, ?_⟩
    · rw [htype]
      exact ColumnType.ofText_describe h.type
    · rw [hname]
      exact constrainAll_append_eq_ok.mpr ⟨_, constrainAll_flagTexts h, hc⟩

/-- **A column that was written is read back** if all colons in it but those between its parts stand
inside parentheses. -/
theorem ofText_describe (h : c.WellFormed) (hs : c.Sealed) (hkey : c.KeySealed) :
    ofText c.describe = .ok c := by
  rw [ofText_describe_eq_ok h hs]
  cases hk : c.foreignKey with
  | none =>
    simp only [keyTexts, hk, Option.toList_none, List.map_nil, List.flatMap_nil, constrainAll]
    rw [← hk]
  | some key =>
    have hsealed : Text.splitOutside ':' c.depth key.text.toList = [key.text.toList] :=
      Text.splitOutside_of_sealed (by rw [key.isSealed_text]; exact hkey key hk)
    simp only [keyTexts, hk, Option.toList_some, List.map_cons, List.map_nil, List.flatMap_cons,
      List.flatMap_nil, hsealed, List.append_nil, String.ofList_toList]
    refine constrainAll_cons_eq_ok.mpr ⟨_, Constraint.ofText?_text (h.reference key hk), ?_⟩
    rw [constrainAll, constrain, ← hk]

end Column

end Leuit
