import Leuit.Proofs.Descriptors

/-! Descriptors without blanks, as they stand in queries. Of a column that was read from one all colons of
name and type stand inside parentheses in its stored form too, since that form leaves out commas and what
follows the last parenthesis and nothing else that matters (`Column.ofText_sealed`). The colons of the
foreign key may not: there may be fewer open parentheses in front of them than when they were read. Then
the key falls apart, and no part of it holds a key as long (`ForeignKey.length_inner_lt`). So the column
survives being stored exactly if its key is sealed (`Column.ofText_describe_iff`). -/
namespace Leuit
open Outcome

/-! ### Foreign keys that fall apart -/

/-- If a key is not sealed, each part that its constraint falls into holds less than a key. -/
theorem ForeignKey.length_inner_lt {key : ForeignKey} {depth : Int} {piece : List Char}
    (hbare : Text.Bare key.describe.toList)
    (hopen : Text.isSealed ':' (depth + 1) key.describe.toList = false)
    (hp : piece ∈ Text.splitOutside ':' depth key.text.toList) :
    (((Text.trim (String.ofList piece)).toList.dropWhile (· ≠ '(')).drop 1).dropLast.length <
      key.describe.toList.length := by
  have hpoint : '.' ∈ key.describe.toList := by simp [describe]
  have hpos := List.length_pos_of_mem hpoint
  have hinside : Text.Bare (key.describe.toList ++ [')']) := by
    intro c hc
    rcases List.mem_append.mp hc with hc | hc
    · exact hbare c hc
    · rw [List.mem_singleton.mp hc]
      decide
  have hsplit : Text.splitOutside ':' depth key.text.toList =
      (Text.splitOutside ':' (depth + 1) (key.describe.toList ++ [')'])).modifyHead
        fun first => 'F' :: 'K' :: '(' :: first := by
    rw [toList_text]
    simp [Text.splitOutside, Text.deepen, Function.comp_def]
  rw [hsplit] at hp
  have hparted := Text.splitOutside_parted ':' (depth + 1) (key.describe.toList ++ [')'])
  have hwhole := Text.intercalate_splitOutside ':' (depth + 1) (key.describe.toList ++ [')'])
  rcases hpieces : Text.splitOutside ':' (depth + 1) (key.describe.toList ++ [')']) with
    _ | ⟨first, _ | ⟨second, rest⟩⟩
  · exact absurd hpieces hparted.ne_nil
  · -- A single piece would be sealed.
    rw [hpieces] at hparted hwhole
    have hsealed := hparted.sealed_head
    rw [show first = key.describe.toList ++ [')'] by simpa using hwhole, Text.isSealed_append, hopen] at hsealed
    cases hsealed
  · rw [hpieces] at hp hwhole
    have hlength := congrArg List.length hwhole
    rw [List.intercalate_cons_of_ne_nil (List.cons_ne_nil _ _)] at hlength
    simp only [List.length_append, List.length_singleton] at hlength
    rcases List.mem_cons.mp hp with rfl | hp
    · have hfirst : Text.Bare first :=
        hinside.sublist (hwhole ▸ Text.sublist_intercalate List.mem_cons_self)
      have hbareText : Text.Bare (String.ofList ('F' :: 'K' :: '(' :: first)).toList := by
        intro c hc
        simp only [String.toList_ofList, List.mem_cons] at hc
        rcases hc with rfl | rfl | rfl | hc
        · decide
        · decide
        · decide
        · exact hfirst c hc
      rw [hbareText.trim]
      simp only [String.toList_ofList, List.length_dropLast]
      simp
      omega
    · have hpiece : Text.Bare (String.ofList piece).toList := by
        rw [String.toList_ofList]
        exact hinside.sublist (hwhole ▸ Text.sublist_intercalate (List.mem_cons_of_mem first hp))
      have hle : piece.length ≤ ([':'].intercalate (second :: rest)).length :=
        (Text.sublist_intercalate hp).length_le
      have hdrop : (piece.dropWhile (· ≠ '(')).length ≤ piece.length := List.length_dropWhile_le ..
      rw [hpiece.trim]
      simp only [String.toList_ofList, List.length_dropLast, List.length_drop]
      omega

namespace Column
variable {c : Column} {s : String}

/-- A key that is not sealed is not read back. -/
theorem keySealed_of_ofText_describe (h : c.WellFormed) (hs : c.Sealed)
    (hbare : ∀ key, c.foreignKey = some key → Text.Bare key.describe.toList)
    (hc : ofText c.describe = .ok c) : c.KeySealed := by
  intro key hk
  by_contra hopen
  rw [Bool.not_eq_true] at hopen
  rw [ofText_describe_eq_ok h hs] at hc
  simp only [keyTexts, hk, Option.toList_some, List.map_cons, List.map_nil, List.flatMap_cons,
    List.flatMap_nil, List.append_nil] at hc
  rcases constrainAll_foreignKey hc with hnone | ⟨text, htext, found, hfound, hof⟩
  · rw [hk] at hnone
    cases hnone
  · cases hk.symm.trans hfound
    obtain ⟨piece, hpiece, rfl⟩ := List.mem_map.mp htext
    have hshort := ForeignKey.length_inner_lt (hbare key hk) hopen hpiece
    have hlong := ForeignKey.length_describe_le (Constraint.ofText?_references hof)
    rw [String.toList_ofList] at hlong
    omega

end Column

/-! ### Reading texts without blanks -/

/-- A character that is its own upper case is found in the upper-case text. -/
theorem Text.mem_upper {c : Char} {s : String} (hc : upperChar c = [c]) (h : c ∈ s.toList) :
    c ∈ (upper s).toList := by
  rw [upper, String.toList_ofList, upperList, List.mem_flatMap]
  exact ⟨c, h, by rw [hc]; exact List.mem_singleton_self c⟩

namespace ColumnType
variable {t : ColumnType} {s : String} {depth : Int}

/-- The values of an enumeration are the text between the parentheses but for the commas. -/
theorem filter_values {inner : List Char} (hbare : Text.Bare inner) :
    (",".intercalate ((((Text.split ',' (String.ofList inner)).map Text.trim).map Text.trim).filter
      (· ≠ ""))).toList.filter (· ≠ ',') = inner.filter (· ≠ ',') := by
  have htrim : (Text.split ',' (String.ofList inner)).map Text.trim = Text.split ',' (String.ofList inner) := by
    rw [Text.split, String.toList_ofList, List.map_map]
    refine List.map_congr_left fun piece hp => ?_
    have hpiece : Text.Bare piece := by
      have hsub : piece.Sublist ([','].intercalate (inner.splitOn ',')) := Text.sublist_intercalate hp
      rw [List.intercalate_splitOn] at hsub
      exact hbare.sublist hsub
    exact Text.Bare.trim (by rwa [String.toList_ofList])
  have hlists : ((Text.split ',' (String.ofList inner)).filter (· ≠ "")).map String.toList =
      (inner.splitOn ',').filter (· ≠ []) := by
    rw [Text.split, String.toList_ofList, List.filter_map, List.map_map]
    simp [Function.comp_def]
  have hempty : ∀ pieces : List (List Char), (pieces.filter (· ≠ [])).flatMap (List.filter (· ≠ ',')) =
      pieces.flatMap (List.filter (· ≠ ',')) := by
    intro pieces
    induction pieces with
    | nil => rfl
    | cons piece rest ih => cases piece <;> simp_all
  rw [htrim, htrim, String.toList_intercalate, hlists]
  show ([','].intercalate _).filter _ = _
  rw [Text.filter_intercalate, hempty, ← Text.filter_intercalate, List.intercalate_splitOn]

/-- An enumeration as it is written: the values stand between the parentheses. -/
theorem ofText_eq_enum {values : List String} (hbare : Text.Bare s.toList)
    (h : ofText s = .ok (.enum values)) :
    ∃ base inner junk, s.toList = base ++ '(' :: (inner ++ ')' :: junk) ∧ '(' ∉ base ∧ ')' ∉ base ∧
      ')' ∉ junk ∧ Text.Bare inner ∧
      (",".intercalate values).toList.filter (· ≠ ',') = inner.filter (· ≠ ',') := by
  rcases ofText_cases h with ⟨-, h⟩ | ⟨base, inner, junk, hlist, hopen, hjunk, h⟩
  · obtain ⟨-, hvalues, hne⟩ := ofParts_eq_enum h
    exact absurd hvalues hne
  · obtain ⟨hupper, hvalues, -⟩ := ofParts_eq_enum h
    rw [hlist] at hbare
    have hbase : Text.Bare (String.ofList base).toList := by
      rw [String.toList_ofList]
      exact hbare.sublist (List.sublist_append_left ..)
    have hinner : Text.Bare inner :=
      hbare.sublist ((List.sublist_append_left ..).trans
        ((List.sublist_cons_self ..).trans (List.sublist_append_right ..)))
    rw [hbase.trim] at hupper
    have hclose : ')' ∉ base := by
      intro hmem
      have := Text.mem_upper (c := ')') (s := String.ofList base) (by decide)
        (by rwa [String.toList_ofList])
      rw [hupper] at this
      exact absurd this (by decide)
    exact ⟨base, inner, junk, hlist, hopen, hclose, hjunk, hinner, hvalues ▸ filter_values hinner⟩

theorem bare_describe (hbare : Text.Bare s.toList) (h : ofText s = .ok t) :
    Text.Bare t.describe.toList := by
  have hbracketed : ∀ base inner : String, Text.Bare base.toList → Text.Bare inner.toList →
      Text.Bare (base ++ "(" ++ inner ++ ")").toList := by
    intro base inner hbase hinner x hx
    simp only [String.toList_append, List.mem_append] at hx
    rcases hx with ((hx | hx) | hx) | hx
    · exact hbase x hx
    · rw [List.mem_singleton.mp hx]
      decide
    · exact hinner x hx
    · rw [List.mem_singleton.mp hx]
      decide
  cases t with
  | char limit => exact hbracketed "CHAR" (toString limit) (by decide) (bare_toString limit)
  | enum values =>
    obtain ⟨base, inner, junk, -, -, -, -, hinner, hfilter⟩ := ofText_eq_enum hbare h
    refine hbracketed "ENUM" _ (by decide) fun x hx => ?_
    by_cases hcomma : x = ','
    · rw [hcomma]
      decide
    · have hmem : x ∈ inner.filter (· ≠ ',') := by
        rw [← hfilter]
        exact List.mem_filter.mpr ⟨hx, by simpa using hcomma⟩
      exact hinner x (List.mem_filter.mp hmem).1
  | _ => decide

theorem depthAfter_bracketed {base inner : String} (hopen : '(' ∉ base.toList) (hclose : ')' ∉ base.toList)
    (depth : Int) :
    Text.depthAfter depth (base ++ "(" ++ inner ++ ")").toList =
      Text.depthAfter (depth + 1) inner.toList - 1 := by
  simp [Text.depthAfter_of_flat hopen hclose, Text.deepen]

theorem isSealed_bracketed {sep : Char} (hsep : sep ∉ ['(', ')']) {base inner : String}
    (hbase : Text.Flat sep base.toList) (depth : Int) :
    Text.isSealed sep depth (base ++ "(" ++ inner ++ ")").toList =
      Text.isSealed sep (depth + 1) inner.toList := by
  simp only [List.mem_cons, List.not_mem_nil, or_false, not_or] at hsep
  simp [Text.isSealed_append, Text.isSealed_of_not_mem hbase.1,
    Text.depthAfter_of_flat hbase.2.1 hbase.2.2, Text.isSealed, Text.deepen, Ne.symm hsep.1, Ne.symm hsep.2]

/-- A type that was read without blanks is sealed where its text was, and is written with no more open
parentheses than its text left. -/
theorem sealed_describe (hbare : Text.Bare s.toList) (h : ofText s = .ok t) (hdepth : depth ≤ 0)
    (hs : Text.isSealed ':' depth s.toList = true) :
    Text.isSealed ':' depth t.describe.toList = true ∧
      (Text.depthAfter depth s.toList ≤ 0 → Text.depthAfter depth t.describe.toList ≤ 0) := by
  cases t with
  | char limit =>
    have hdigits : ∀ c, c.isDigit = false → c ∉ (toString limit).toList :=
      fun c hc => not_mem_toString hc limit
    constructor
    · refine Text.isSealed_of_not_mem ?_ depth
      have := hdigits ':' (by decide)
      simp only [describe, String.toList_append, List.mem_append, not_or]
      exact ⟨⟨by decide, this⟩, by decide⟩
    · intro _
      show Text.depthAfter depth ("CHAR" ++ "(" ++ toString limit ++ ")").toList ≤ 0
      rw [depthAfter_bracketed (by decide) (by decide), Text.depthAfter_of_flat (hdigits _ (by decide))
        (hdigits _ (by decide))]
      omega
  | enum values =>
    obtain ⟨base, inner, junk, hlist, hopen, hclose, hjunk, -, hfilter⟩ := ofText_eq_enum hbare h
    rw [hlist] at hs ⊢
    have hafter := Text.depthAfter_filter (x := ',') (by decide) (by decide) (depth + 1)
      (",".intercalate values).toList
    rw [hfilter, Text.depthAfter_filter (by decide) (by decide)] at hafter
    have hsealed : Text.isSealed ':' (depth + 1) ((",".intercalate values).toList.filter (· ≠ ',')) =
        Text.isSealed ':' (depth + 1) (",".intercalate values).toList :=
      Text.isSealed_filter (by decide) (by decide) (by decide) _ _
    rw [hfilter, Text.isSealed_filter (by decide) (by decide) (by decide)] at hsealed
    have hflat := Text.depthAfter_of_flat hopen hclose depth
    constructor
    · rw [Text.isSealed_append, hflat] at hs
      simp only [Text.isSealed, Text.isSealed_append, Bool.and_eq_true, Text.deepen] at hs
      show Text.isSealed ':' depth ("ENUM" ++ "(" ++ ",".intercalate values ++ ")").toList = true
      rw [isSealed_bracketed (by decide) ⟨by decide, by decide, by decide⟩, ← hsealed]
      exact hs.2.2.1
    · intro hclosed
      show Text.depthAfter depth ("ENUM" ++ "(" ++ ",".intercalate values ++ ")").toList ≤ 0
      rw [depthAfter_bracketed (by decide) (by decide), ← hafter]
      have hrise := Text.le_depthAfter hjunk (Text.depthAfter (depth + 1) inner - 1)
      simp [hflat, Text.deepen] at hclosed
      omega
  | _ =>
    exact ⟨Text.isSealed_of_not_mem (by decide) depth,
      fun _ => by rw [Text.depthAfter_of_flat (by decide) (by decide)]; exact hdepth⟩

end ColumnType

namespace Column
variable {c : Column} {s : String}

/-- Of a column that was read without blanks, name and type are sealed, and no part has blanks. -/
theorem ofText_sealed (hbare : Text.Bare s.toList) (h : ofText s = .ok c) :
    c.Sealed ∧ Text.Bare c.type.describe.toList ∧
      ∀ key, c.foreignKey = some key → Text.Bare key.describe.toList := by
  obtain ⟨name, type, constraints, t, hparts, -, ht, hc⟩ := ofText_eq_ok.mp h
  rw [hbare.trim] at hparts
  rcases hsplit : Text.splitOutside ':' 0 s.toList with _ | ⟨n, _ | ⟨ty, cs⟩⟩
  · simp [hsplit] at hparts
  · simp [hsplit] at hparts
  · rw [hsplit, List.map_cons, List.map_cons, List.cons.injEq, List.cons.injEq] at hparts
    obtain ⟨rfl, rfl, rfl⟩ := hparts
    obtain ⟨hwhole, hparted⟩ := Text.splitOutside_eq_iff.mp hsplit
    have hpiece : ∀ piece ∈ n :: ty :: cs, Text.Bare (String.ofList piece).toList := by
      intro piece hp
      rw [String.toList_ofList]
      exact hbare.sublist (hwhole ▸ Text.sublist_intercalate hp)
    have hbareName := hpiece n (by simp)
    have hbareType := hpiece ty (by simp)
    obtain ⟨hname, htype⟩ := constrainAll_keeps hc
    rw [hbareName.trim] at hname
    rw [hbareType.trim] at ht
    have hcname : c.name.toList = n := by rw [hname]; exact String.toList_ofList
    obtain ⟨hdepth, hrest⟩ := hparted.tail (List.cons_ne_nil ty cs)
    obtain ⟨hsealed, hclosed⟩ := ColumnType.sealed_describe hbareType ht hdepth
      (by rw [String.toList_ofList]; exact hrest.sealed_head)
    have hctype : c.type = t := htype
    refine ⟨⟨hcname ▸ hparted.sealed_head, hcname ▸ hdepth, hcname.symm ▸ hctype ▸ hsealed, ?_⟩,
      hctype ▸ ColumnType.bare_describe hbareType ht, ?_⟩
    · intro htexts
      have hcs : cs ≠ [] := by
        rintro rfl
        cases hc
        exact htexts rfl
      rw [depth, hcname, hctype]
      exact hclosed (by rw [String.toList_ofList]; exact (hrest.tail hcs).1)
    · intro key hk
      rcases constrainAll_foreignKey hc with hnone | ⟨text, htext, found, hfound, hof⟩
      · rw [hk] at hnone
        cases hnone
      · cases hk.symm.trans hfound
        obtain ⟨piece, hp, rfl⟩ := List.mem_map.mp htext
        have hbarePiece := hpiece piece (by simp [hp])
        refine ForeignKey.bare_describe ?_ (Constraint.ofText?_references hof)
        rw [String.toList_ofList, hbarePiece.trim]
        exact hbarePiece.sublist
          ((List.dropLast_sublist _).trans ((List.drop_sublist ..).trans (List.dropWhile_sublist _)))

/-- **A column that was read without blanks survives being written** exactly if its foreign key is
sealed. -/
theorem ofText_describe_iff (hbare : Text.Bare s.toList) (h : ofText s = .ok c) :
    ofText c.describe = .ok c ↔ c.KeySealed := by
  obtain ⟨hs, -, hkeys⟩ := ofText_sealed hbare h
  have hwf := ofText_wellFormed h
  exact ⟨keySealed_of_ofText_describe hwf hs hkeys, ofText_describe hwf hs⟩

end Column

end Leuit
