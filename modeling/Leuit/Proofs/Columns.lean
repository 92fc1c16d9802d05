import Leuit.Proofs.Brackets
import Leuit.Proofs.Numerals
import Leuit.Proofs.Outcome
import Leuit.Schema.Definition

/-! What columns are like that were read from descriptors (`Column.ofText_wellFormed`): the parts are
trimmed and not empty, none holds the character that separates it from its neighbour, and a primary key
is unique and not null. -/
namespace Leuit
open Outcome

/-! ### Types -/

namespace ColumnType
variable {t : ColumnType} {s : String}

/-- The arguments of a type are such that they can be written between commas. -/
def WellFormed : ColumnType → Prop
  | char limit => limit < Decimal.countBound
  | enum values => values ≠ [] ∧ ∀ v ∈ values, v ≠ "" ∧ Text.trim v = v ∧ ',' ∉ v.toList
  | _ => True

theorem ofParts_eq_enum {base : String} {arguments values : List String}
    (h : ofParts base arguments = .ok (.enum values)) :
    Text.upper base = "ENUM" ∧ values = (arguments.map Text.trim).filter (· ≠ "") ∧ values ≠ [] := by
  unfold ofParts at h
  split at h
  case h_8 hbase =>
    cases hv : (arguments.map Text.trim).filter (· ≠ "") with
    | nil =>
      rw [hv] at h
      cases h
    | cons v vs =>
      rw [hv] at h
      cases h
      exact ⟨hbase, rfl, List.cons_ne_nil v vs⟩
  case h_7 => split at h <;> cases h
  all_goals cases h

theorem ofParts_wellFormed {base : String} {arguments : List String}
    (harguments : ∀ a ∈ arguments, ',' ∉ a.toList) (h : ofParts base arguments = .ok t) :
    t.WellFormed := by
  cases t with
  | enum values =>
    obtain ⟨-, rfl, hne⟩ := ofParts_eq_enum h
    refine ⟨hne, fun v hv => ?_⟩
    obtain ⟨hmap, hempty⟩ := List.mem_filter.mp hv
    obtain ⟨a, ha, rfl⟩ := List.mem_map.mp hmap
    exact ⟨by simpa using hempty, Text.trim_trim a,
      fun hmem => harguments a ha (Text.mem_of_mem_trim hmem)⟩
  | char limit =>
    unfold ofParts at h
    split at h
    case h_7 =>
      split at h
      · next n hn =>
        cases h
        obtain ⟨a, -, ha⟩ := Option.bind_eq_some_iff.mp hn
        exact Decimal.count?_lt ha
      · cases h
    case h_8 => split at h <;> cases h
    all_goals cases h
  | _ => trivial

/-- A type with arguments as it is written: they stand between the first opening and the last closing
parenthesis. -/
theorem ofText_cases (h : ofText s = .ok t) :
    ('(' ∉ s.toList ∧ ofParts s [] = .ok t) ∨
      ∃ base inner junk, s.toList = base ++ '(' :: (inner ++ ')' :: junk) ∧ '(' ∉ base ∧ ')' ∉ junk ∧
        ofParts (Text.trim (String.ofList base)) ((Text.split ',' (String.ofList inner)).map Text.trim) =
          .ok t := by
  unfold ofText at h
  split at h
  · next hdrop =>
    refine .inl ⟨fun hmem => ?_, h⟩
    rw [List.dropWhile_eq_nil_iff] at hdrop
    simpa using hdrop _ hmem
  · next c afterOpen hdrop =>
    obtain ⟨hs, hbase⟩ := Text.eq_of_dropWhile_ne hdrop
    cases hb : Text.beforeLast? ')' afterOpen with
    | none => simp [hb] at h
    | some inner =>
      obtain ⟨junk, rfl, hjunk⟩ := Text.beforeLast?_eq_some.mp hb
      exact .inr ⟨_, inner, junk, hs, hbase, hjunk, by simpa [hb] using h⟩

theorem ofText_wellFormed (h : ofText s = .ok t) : t.WellFormed := by
  rcases ofText_cases h with ⟨-, h⟩ | ⟨base, inner, junk, -, -, -, h⟩
  · exact ofParts_wellFormed (fun a ha => absurd ha List.not_mem_nil) h
  · refine ofParts_wellFormed (fun a ha hmem => ?_) h
    obtain ⟨piece, hpiece, rfl⟩ := List.mem_map.mp ha
    exact Text.not_mem_of_mem_split hpiece (Text.mem_of_mem_trim hmem)

end ColumnType

/-! ### Foreign keys -/

namespace ForeignKey
variable {key : ForeignKey} {s : String}

/-- Table and column can be told apart at the first point. -/
structure WellFormed (key : ForeignKey) : Prop where
  table : key.table ≠ ""
  tableTrimmed : Text.trim key.table = key.table
  noPoint : '.' ∉ key.table.toList
  column : key.column ≠ ""
  columnTrimmed : Text.trim key.column = key.column

theorem ofText_eq_ok :
    ofText s = .ok key ↔
      ∃ table column, Text.cut? '.' (Text.trim s) = some (table, column) ∧ table ≠ "" ∧ column ≠ "" ∧
        key = ⟨Text.trim table, Text.trim column⟩ := by
  unfold ofText
  cases Text.cut? '.' (Text.trim s) with
  | none => simp
  | some parts =>
    obtain ⟨table, column⟩ := parts
    by_cases hne : table ≠ "" ∧ column ≠ ""
    · simp only [hne, ne_eq, not_false_eq_true, and_self, if_true, Except.ok.injEq, Option.some.injEq,
        Prod.mk.injEq]
      constructor
      · rintro rfl
        exact ⟨table, column, ⟨rfl, rfl⟩, hne.1, hne.2, rfl⟩
      · rintro ⟨_, _, ⟨rfl, rfl⟩, -, -, rfl⟩
        rfl
    · simp only [if_neg hne, reduceCtorEq, Option.some.injEq, Prod.mk.injEq, false_iff]
      rintro ⟨_, _, ⟨rfl, rfl⟩, htable, hcolumn, -⟩
      exact hne ⟨htable, hcolumn⟩

theorem ofText_wellFormed (h : ofText s = .ok key) : key.WellFormed := by
  obtain ⟨table, column, hcut, htable, hcolumn, rfl⟩ := ofText_eq_ok.mp h
  obtain ⟨hs, hpoint⟩ := Text.cut?_eq_some.mp hcut
  rw [Text.toList_trim] at hs
  refine ⟨?_, Text.trim_trim _, fun hmem => hpoint (Text.mem_of_mem_trim hmem), ?_, Text.trim_trim _⟩
  · obtain ⟨c, cs, hc⟩ := List.exists_cons_of_ne_nil (mt String.toList_eq_nil_iff.mp htable)
    refine Text.trim_ne_empty (c := c) (by simp [hc]) (Text.ends_dropEnds s.toList (.inl ?_))
    rw [hs, hc]
    rfl
  · obtain ⟨c, hc⟩ := List.getLast?_isSome.mpr (mt String.toList_eq_nil_iff.mp hcolumn) |>
      Option.isSome_iff_exists.mp
    refine Text.trim_ne_empty (c := c) (List.mem_of_getLast? hc)
      (Text.ends_dropEnds s.toList (.inr ?_))
    rw [hs, List.getLast?_append, List.getLast?_cons, hc]
    rfl

/-- Reading a reference drops blanks only. -/
theorem length_describe_le (h : ofText s = .ok key) :
    key.describe.toList.length ≤ s.toList.length := by
  obtain ⟨table, column, hcut, -, -, rfl⟩ := ofText_eq_ok.mp h
  have htrim : (Text.trim s).toList.length ≤ s.toList.length := by
    rw [Text.toList_trim]
    exact Text.dropEnds_sublist.length_le
  have htable : (Text.trim table).toList.length ≤ table.toList.length := by
    rw [Text.toList_trim]
    exact Text.dropEnds_sublist.length_le
  have hcolumn : (Text.trim column).toList.length ≤ column.toList.length := by
    rw [Text.toList_trim]
    exact Text.dropEnds_sublist.length_le
  have hlength := congrArg List.length (Text.cut?_eq_some.mp hcut).1
  simp only [List.length_append, List.length_cons] at hlength
  have hpoint : ".".toList.length = 1 := rfl
  simp only [describe, String.toList_append, List.length_append, hpoint]
  omega

end ForeignKey

/-! ### Constraints -/

theorem Constraint.ofText?_references {text : String} {key : ForeignKey}
    (h : ofText? text = some (.ok (.references key))) :
    ForeignKey.ofText (String.ofList (((Text.trim text).toList.dropWhile (· ≠ '(')).drop 1).dropLast) =
      .ok key := by
  unfold ofText? at h
  dsimp only at h
  split at h
  · cases h
  split at h
  · cases h
  split at h
  · cases h
  split at h
  · cases h
  split at h
  · rw [Option.some.injEq, map_eq_ok] at h
    obtain ⟨found, hfound, heq⟩ := h
    cases heq
    exact hfound
  · cases h

namespace Column
variable {c c' : Column} {s : String} {texts : List String}

/-- A column whose description tells what it is, as far as the single parts go. -/
structure WellFormed (c : Column) : Prop where
  name : nameAllowed c.name = true
  type : c.type.WellFormed
  primary : c.isPrimary = true → c.isUnique = true ∧ c.isNotNull = true
  reference : ∀ key, c.foreignKey = some key → key.WellFormed

@[simp] theorem constrain_name (constraint : Constraint) : (c.constrain constraint).name = c.name := by
  cases constraint <;> rfl

@[simp] theorem constrain_type (constraint : Constraint) : (c.constrain constraint).type = c.type := by
  cases constraint <;> rfl

/-- One more constraint in front. -/
theorem constrainAll_cons_eq_ok {text : String} :
    c.constrainAll (text :: texts) = .ok c' ↔
      ∃ constraint, Constraint.ofText? text = some (.ok constraint) ∧
        (c.constrain constraint).constrainAll texts = .ok c' := by
  rw [constrainAll]
  rcases Constraint.ofText? text with _ | e | constraint <;> simp

theorem constrainAll_keeps (h : c.constrainAll texts = .ok c') : c'.name = c.name ∧ c'.type = c.type := by
  induction texts generalizing c with
  | nil =>
    cases h
    exact ⟨rfl, rfl⟩
  | cons text texts ih =>
    obtain ⟨constraint, -, hrest⟩ := constrainAll_cons_eq_ok.mp h
    simpa using ih hrest

/-- The foreign key after the constraints is the one before or stands in one of them. -/
theorem constrainAll_foreignKey (h : c.constrainAll texts = .ok c') :
    c'.foreignKey = c.foreignKey ∨ ∃ text ∈ texts, ∃ key, c'.foreignKey = some key ∧
      Constraint.ofText? text = some (.ok (.references key)) := by
  induction texts generalizing c with
  | nil =>
    cases h
    exact .inl rfl
  | cons text texts ih =>
    obtain ⟨constraint, htext, hrest⟩ := constrainAll_cons_eq_ok.mp h
    rcases ih hrest with hsame | ⟨later, hlater, key, hkey, hof⟩
    · cases constraint with
      | references key => exact .inr ⟨text, List.mem_cons_self, key, hsame, htext⟩
      | _ => exact .inl hsame
    · exact .inr ⟨later, List.mem_cons_of_mem text hlater, key, hkey, hof⟩

theorem constrain_primary (constraint : Constraint)
    (h : c.isPrimary = true → c.isUnique = true ∧ c.isNotNull = true) :
    (c.constrain constraint).isPrimary = true →
      (c.constrain constraint).isUnique = true ∧ (c.constrain constraint).isNotNull = true := by
  cases constraint with
  | primary => exact fun _ => ⟨rfl, rfl⟩
  | unique => exact fun hp => ⟨rfl, (h hp).2⟩
  | notNull => exact fun hp => ⟨(h hp).1, rfl⟩
  | _ => exact h

theorem constrainAll_primary (h : c.isPrimary = true → c.isUnique = true ∧ c.isNotNull = true)
    (hc : c.constrainAll texts = .ok c') :
    c'.isPrimary = true → c'.isUnique = true ∧ c'.isNotNull = true := by
  induction texts generalizing c with
  | nil =>
    cases hc
    exact h
  | cons text texts ih =>
    obtain ⟨constraint, -, hrest⟩ := constrainAll_cons_eq_ok.mp hc
    exact ih (constrain_primary constraint h) hrest

/-! ### Descriptors -/

theorem ofText_eq_ok :
    ofText s = .ok c ↔
      ∃ name type constraints t,
        (Text.splitOutside ':' 0 (Text.trim s).toList).map String.ofList = name :: type :: constraints ∧
        nameAllowed (Text.trim name) = true ∧ ColumnType.ofText (Text.trim type) = .ok t ∧
        (plain (Text.trim name) t).constrainAll constraints = .ok c := by
  unfold ofText
  split
  · next name type constraints hparts =>
    simp only [hparts, List.cons.injEq]
    constructor
    · intro h
      split at h
      · next hname =>
        cases ht : ColumnType.ofText (Text.trim type) with
        | error e => simp [ht] at h
        | ok t => exact ⟨name, type, constraints, t, ⟨rfl, rfl, rfl⟩, hname, ht, by simpa [ht] using h⟩
      · cases h
    · rintro ⟨_, _, _, t, ⟨rfl, rfl, rfl⟩, hname, ht, hc⟩
      rw [if_pos hname, ht]
      exact hc
  · next hparts =>
    simp only [reduceCtorEq, false_iff]
    rintro ⟨name, type, constraints, _, h, -⟩
    exact hparts name type constraints h

theorem nameAllowed_iff {name : String} :
    nameAllowed name = true ↔
      name ≠ "" ∧ ∀ x ∈ name.toList, Text.isBlank x = false ∧ x ≠ '.' ∧ x ≠ '|' := by
  simp [nameAllowed, and_assoc]

theorem ofText_wellFormed (h : ofText s = .ok c) : c.WellFormed := by
  obtain ⟨name, type, constraints, t, -, hname, ht, hc⟩ := ofText_eq_ok.mp h
  obtain ⟨hcname, hctype⟩ := constrainAll_keeps hc
  refine ⟨hcname ▸ hname, hctype ▸ ColumnType.ofText_wellFormed ht,
    constrainAll_primary (fun hp => by cases hp) hc, fun key hkey => ?_⟩
  rcases constrainAll_foreignKey hc with hnone | ⟨text, -, found, hfound, hof⟩
  · rw [hnone] at hkey
    cases hkey
  · cases hkey.symm.trans hfound
    exact ForeignKey.ofText_wellFormed (Constraint.ofText?_references hof)

end Column

/-! ### Stored definitions -/

namespace Definition
variable {d : Definition} {table document : String}

theorem decode_eq_ok :
    decode table document = .ok d ↔
      ∃ header grants columns, Text.lines document = header :: grants ∧ Text.trim header ≠ "" ∧
        (Text.split '|' (Text.trim header)).mapM Column.ofText = .ok columns ∧
        d = ⟨table, columns, grants.foldl readGrants .nobody⟩ := by
  unfold decode
  cases Text.lines document with
  | nil => simp
  | cons header grants =>
    by_cases hb : Text.trim header = ""
    · simp [hb]
    · cases hm : (Text.split '|' (Text.trim header)).mapM Column.ofText with
      | error e => simp [hb, hm]
      | ok columns => simp [hb, hm, eq_comm (b := d)]

theorem decode_name (h : decode table document = .ok d) : d.name = table := by
  obtain ⟨header, grants, columns, -, -, -, rfl⟩ := decode_eq_ok.mp h
  rfl

theorem decode_wellFormed (h : decode table document = .ok d) {c : Column} (hc : c ∈ d.columns) :
    c.WellFormed := by
  obtain ⟨header, grants, columns, -, -, hcolumns, rfl⟩ := decode_eq_ok.mp h
  obtain ⟨text, -, htext⟩ := exists_mem_left (mapM_eq_ok.mp hcolumns) hc
  exact Column.ofText_wellFormed htext

end Definition

end Leuit
