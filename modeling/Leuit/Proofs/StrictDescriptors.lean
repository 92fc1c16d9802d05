import Leuit.Proofs.Columns
import Leuit.Proofs.Slices
import Leuit.Store.Basic
import Leuit.Value.Aggregate

/-! Descriptors and fields read by position. A descriptor is cut at byte positions that are counted along
the way, types, references and aggregates are cut at the brackets found in them, and the parts of a
descriptor are asked for by number. Every such read stays inside its text, whatever the text is, and gives
what the reading without positions gives (`Column.listOfTextStrict_eq`, `Definition.decodeStrict_eq`,
`Selection.ofTextStrict_eq`). -/
namespace Leuit
open Console (byteCount)
open Strict (settled read)

namespace Text

/-! ### Cutting outside parentheses -/

/-- The pieces of a text between the separators outside parentheses. The piece being read starts at the
byte position `start`, and what is left of the text at `i`. -/
def splitOutsideStrict (sep : Char) (cs : List Char) (start i : Nat) (depth : Int) :
    List Char → Option (List (List Char))
  | [] => (slice? cs start (byteCount cs)).map ([·])
  | c :: rest =>
    if c = sep ∧ depth ≤ 0 then do
      let piece ← slice? cs start i
      let pieces ← splitOutsideStrict sep cs (i + 1) (i + 1) depth rest
      return piece :: pieces
    else splitOutsideStrict sep cs start (i + c.utf8Size) (deepen depth c) rest

theorem splitOutsideStrict_from {sep : Char} (hsep : sep.utf8Size = 1) {cs : List Char}
    (before piece rest : List Char) (hcs : cs = before ++ (piece ++ rest)) (depth : Int) :
    splitOutsideStrict sep cs (byteCount before) (byteCount before + byteCount piece) depth rest =
      some ((splitOutside sep depth rest).modifyHead (piece ++ ·)) := by
  induction rest generalizing before piece depth with
  | nil =>
    have hend : byteCount cs = byteCount before + byteCount piece := by simp [hcs]
    rw [splitOutsideStrict, slice?_of_append hcs rfl hend, splitOutside]
    simp
  | cons c rest ih =>
    rw [splitOutsideStrict, splitOutside]
    split
    · next hc =>
      have hnext : byteCount before + byteCount piece + 1 = byteCount (before ++ (piece ++ [c])) := by
        simp [hc.1, hsep, Nat.add_assoc]
      have htail := ih (before ++ (piece ++ [c])) [] (by simp [hcs]) depth
      rw [byteCount_nil, Nat.add_zero, ← hnext] at htail
      rw [slice?_of_append hcs rfl rfl, htail]
      cases splitOutside sep depth rest <;> simp
    · have hstep : byteCount before + byteCount piece + c.utf8Size =
          byteCount before + byteCount (piece ++ [c]) := by
        simp [Nat.add_assoc]
      rw [hstep, ih before (piece ++ [c]) (by simp [hcs])]
      cases splitOutside sep (deepen depth c) rest <;> simp

theorem splitOutsideStrict_eq {sep : Char} (hsep : sep.utf8Size = 1) (cs : List Char) (depth : Int) :
    splitOutsideStrict sep cs 0 0 depth cs = some (splitOutside sep depth cs) := by
  have h := splitOutsideStrict_from hsep [] [] cs rfl depth
  rw [byteCount_nil, Nat.add_zero, List.nil_append, List.nil_append] at h
  rw [h]
  cases splitOutside sep depth cs <;> simp

/-! ### Cutting at brackets -/

theorem beforeLast?_eq_none {c : Char} {cs : List Char} : beforeLast? c cs = none ↔ c ∉ cs := by
  unfold beforeLast?
  split
  · next hdrop =>
    have hmem : c ∉ cs.reverse := fun hmem => by simpa using List.dropWhile_eq_nil_iff.mp hdrop c hmem
    simpa using hmem
  · next hdrop =>
    have hmem : c ∈ cs.reverse := (eq_of_dropWhile_ne hdrop).1 ▸ by simp
    simpa using hmem

/-- Where the first opening bracket stands, and the last closing one if it stands behind that. -/
def bracketsAt? (cs : List Char) : Option (Nat × Nat) :=
  match firstByte? '(' cs, lastByte? ')' cs with
  | some first, some last => if first < last then some (first, last) else none
  | _, _ => none

/-- How a text is cut at its brackets, by position and by character. -/
inductive BracketCut (cs : List Char) : Prop where
  | absent : firstByte? '(' cs = none → bracketsAt? cs = none →
      cs.dropWhile (· ≠ '(') = [] → BracketCut cs
  | unclosed {first : Nat} {after : List Char} : firstByte? '(' cs = some first → bracketsAt? cs = none →
      cs.dropWhile (· ≠ '(') = '(' :: after → beforeLast? ')' after = none → BracketCut cs
  | closed {first last : Nat} {inner after : List Char} : firstByte? '(' cs = some first →
      bracketsAt? cs = some (first, last) → cs.dropWhile (· ≠ '(') = '(' :: after →
      beforeLast? ')' after = some inner → slice? cs 0 first = some (cs.takeWhile (· ≠ '(')) →
      slice? cs (first + 1) last = some inner → BracketCut cs

theorem bracketCut (cs : List Char) : BracketCut cs := by
  by_cases hopen : '(' ∈ cs
  · obtain ⟨base, after, rfl, hbase⟩ := List.eq_append_cons_of_mem hopen
    have hfirst := firstByte?_append hbase after
    have hdrop := dropWhile_ne_append (b := after) hbase
    cases hlast : beforeLast? ')' after with
    | none =>
      -- a closing bracket in front of the first opening one encloses nothing
      have hafter : ')' ∉ '(' :: after := by simpa using beforeLast?_eq_none.mp hlast
      refine .unclosed hfirst ?_ hdrop hlast
      rw [bracketsAt?, hfirst]
      cases hat : lastByte? ')' (base ++ '(' :: after) with
      | none => rfl
      | some last => exact if_neg (Nat.lt_asymm (lastByte?_lt hafter hat))
    | some inner =>
      obtain ⟨junk, rfl, hjunk⟩ := beforeLast?_eq_some.mp hlast
      have hone : '('.utf8Size = 1 := rfl
      have hat : lastByte? ')' (base ++ '(' :: (inner ++ ')' :: junk)) =
          some (byteCount base + 1 + byteCount inner) := by
        have h := lastByte?_append (base ++ '(' :: inner) hjunk
        simpa [hone, Nat.add_assoc] using h
      have hbehind : byteCount base < byteCount base + 1 + byteCount inner := by omega
      have hbrackets : bracketsAt? (base ++ '(' :: (inner ++ ')' :: junk)) =
          some (byteCount base, byteCount base + 1 + byteCount inner) := by
        rw [bracketsAt?, hfirst, hat]
        exact if_pos hbehind
      refine .closed hfirst hbrackets hdrop hlast ?_ ?_
      · rw [takeWhile_ne_append hbase]
        exact slice?_of_append (a := []) rfl rfl (Nat.zero_add _).symm
      · exact slice?_of_append (a := base ++ ['(']) (c := ')' :: junk) (by simp) (by simp [hone])
          (by simp [hone])
  · have hfirst := firstByte?_of_not_mem hopen
    exact .absent hfirst (by rw [bracketsAt?, hfirst]) (dropWhile_ne_of_not_mem hopen)

end Text

/-! ### Types -/

/-- A type whose arguments are cut out of the text. -/
def ColumnType.ofTextStrict (s : String) : Strict ColumnType :=
  match Text.firstByte? '(' s.toList with
  | none => settled (ofParts s [])
  | some _ =>
    match Text.bracketsAt? s.toList with
    | none => settled (.error (.syntaxFault (.unbalancedType s)))
    | some (first, last) => do
      let inner ← read (Text.slice? s.toList (first + 1) last)
      let base ← read (Text.slice? s.toList 0 first)
      settled (ofParts (Text.trim (String.ofList base))
        ((Text.split ',' (String.ofList inner)).map Text.trim))

theorem ColumnType.ofTextStrict_eq (s : String) : ofTextStrict s = settled (ofText s) := by
  unfold ofTextStrict ofText
  cases Text.bracketCut s.toList with
  | absent hfirst _ hdrop => simp only [hfirst, hdrop]
  | unclosed hfirst hat hdrop hlast => simp only [hfirst, hat, hdrop, hlast]
  | closed hfirst hat hdrop hlast hbase hinner =>
    simp only [hfirst, hat, hdrop, hlast, hbase, hinner, Strict.read_some_bind]

/-! ### Aggregates -/

/-- A field whose aggregate and target are cut out of the text. -/
def Selection.ofTextStrict (s : String) : Option Selection :=
  match Text.bracketsAt? s.toList with
  | none => some (column s)
  | some (first, last) => do
    let name ← Text.slice? s.toList 0 first
    match Aggregate.ofName? (String.ofList name) with
    | none => return column s
    | some function =>
      let target ← Text.slice? s.toList (first + 1) last
      return aggregate function (Text.trim (String.ofList target)) s

theorem Selection.ofTextStrict_eq (s : String) : ofTextStrict s = some (ofText s) := by
  unfold ofTextStrict ofText
  cases Text.bracketCut s.toList with
  | absent _ hat hdrop => simp only [hat, hdrop]
  | unclosed _ hat hdrop hlast => simp only [hat, hdrop, hlast]
  | closed _ hat hdrop hlast hbase hinner =>
    simp only [hat, hdrop, hlast, hbase, hinner, Option.bind_eq_bind, Option.bind_some]
    cases Aggregate.ofName? (String.ofList (s.toList.takeWhile fun c => decide (c ≠ '('))) <;> rfl

/-! ### Constraints -/

/-- A constraint whose reference is cut out of the text. -/
def Constraint.ofTextStrict? (s : String) : Option (Strict Constraint) :=
  let word := Text.upperList (s.toList.filter (!Text.isBlank ·))
  if word = "PK".toList ∨ word = "PRIMARY".toList ∨ word = "PRIMARYKEY".toList then
    some (settled (.ok .primary))
  else if word = "UNIQUE".toList then some (settled (.ok .unique))
  else if word = "NOTNULL".toList then some (settled (.ok .notNull))
  else if word = [] then some (settled (.ok .nothing))
  else if "FK(".toList.isPrefixOf word ∧ word.getLast? = some ')' then
    let trimmed := (Text.trim s).toList
    let first := (Text.firstByte? '(' trimmed).getD 2
    some do
      let inner ← read (Text.slice? trimmed (first + 1) (byteCount trimmed - 1))
      settled ((ForeignKey.ofText (String.ofList inner)).map .references)
  else none

/-- In the upper case of a character stand the upper case of ASCII, the character itself, or characters from
the letter A on. -/
theorem Text.upperChar_cases (c : Char) :
    (c.toNat < 128 ∧ upperChar c = [c.toUpper]) ∨ upperChar c = [c] ∨
      ∃ codes ≠ [], (∀ n ∈ codes, 65 ≤ n) ∧ upperChar c = codes.map Char.ofNat := by
  have hexpansions : ∀ e ∈ upperExpansions, e.2 ≠ [] ∧ ∀ n ∈ e.2, 65 ≤ n := by decide +kernel
  have hruns : ∀ r ∈ upperRuns, 65 ≤ r.image := by decide +kernel
  unfold upperChar
  split
  · next hc => exact .inl ⟨hc, rfl⟩
  · unfold mapCase
    cases hlookup : upperExpansions.lookup c.toNat with
    | some codes =>
      obtain ⟨before, after, htable, -⟩ := List.lookup_eq_some_iff.mp hlookup
      obtain ⟨hne, hcodes⟩ := hexpansions (c.toNat, codes) (by simp [htable])
      exact .inr (.inr ⟨codes, hne, hcodes, rfl⟩)
    | none =>
      cases hrun : upperRuns.findSome? (·.image? c.toNat) with
      | none => exact .inr (.inl rfl)
      | some n =>
        obtain ⟨r, hr, himage⟩ := List.exists_of_findSome?_eq_some hrun
        unfold CaseRun.image? at himage
        split at himage
        · cases himage
          have hn : 65 ≤ r.image + (c.toNat - r.first) := Nat.le_add_right_of_le (hruns r hr)
          exact .inr (.inr ⟨[_], List.cons_ne_nil _ _, List.forall_mem_singleton.mpr hn, rfl⟩)
        · cases himage

theorem Text.upperChar_ne_nil (c : Char) : upperChar c ≠ [] := by
  obtain ⟨-, h⟩ | h | ⟨codes, hne, -, h⟩ := upperChar_cases c
  · rw [h]
    exact List.cons_ne_nil _ _
  · rw [h]
    exact List.cons_ne_nil _ _
  · rw [h]
    exact mt List.map_eq_nil_iff.mp hne

/-- A number from the letter A on is not the code of a character in front of it. -/
theorem Text.ne_ofNat {x : Char} {n : Nat} (hpos : 0 < x.toNat) (hx : x.toNat < 65) (hn : 65 ≤ n) :
    x ≠ Char.ofNat n := by
  intro heq
  have hcode : (Char.ofNat n).toNat = n ∨ (Char.ofNat n).toNat = 0 := by
    rw [Char.ofNat]
    by_cases hvalid : n.isValidChar
    · rw [dif_pos hvalid]
      exact .inl rfl
    · rw [dif_neg hvalid]
      exact .inr rfl
  rw [← heq] at hcode
  omega

/-- A bracket is the upper case of itself alone. -/
theorem Text.eq_of_bracket_mem_upperChar {c x : Char} (hx : x = '(' ∨ x = ')') (h : x ∈ upperChar c) :
    c = x := by
  have hopen : ∀ n < 128, (Char.ofNat n).toUpper = '(' → Char.ofNat n = '(' := by decide +kernel
  have hclose : ∀ n < 128, (Char.ofNat n).toUpper = ')' → Char.ofNat n = ')' := by decide +kernel
  obtain ⟨hc, hcase⟩ | hcase | ⟨codes, -, hcodes, hcase⟩ := upperChar_cases c
  · rw [hcase, List.mem_singleton] at h
    rcases hx with rfl | rfl
    · simpa only [Char.ofNat_toNat] using hopen c.toNat hc (by rw [Char.ofNat_toNat, h])
    · simpa only [Char.ofNat_toNat] using hclose c.toNat hc (by rw [Char.ofNat_toNat, h])
  · rw [hcase, List.mem_singleton] at h
    exact h.symm
  · rw [hcase] at h
    obtain ⟨n, hn, rfl⟩ := List.mem_map.mp h
    have hcode : 0 < (Char.ofNat n).toNat ∧ (Char.ofNat n).toNat < 65 := by
      rcases hx with hx | hx <;> rw [hx] <;> decide
    exact absurd rfl (ne_ofNat hcode.1 hcode.2 (hcodes n hn))

/-- Nothing but blanks is trimmed. -/
theorem Text.filter_trim (s : String) :
    (trim s).toList.filter (!isBlank ·) = s.toList.filter (!isBlank ·) := by
  have hdrop : ∀ cs : List Char, (cs.dropWhile isBlank).filter (!isBlank ·) = cs.filter (!isBlank ·) := by
    intro cs
    have hstart : (cs.takeWhile isBlank).filter (!isBlank ·) = [] :=
      List.filter_eq_nil_iff.mpr fun c hc => by simp [List.mem_takeWhile_imp hc]
    rw [← List.nil_append ((cs.dropWhile isBlank).filter _), ← hstart, ← List.filter_append,
      List.takeWhile_append_dropWhile]
  rw [toList_trim, dropEnds, List.filter_reverse, hdrop, List.filter_reverse, hdrop, List.reverse_reverse]

/-- A reference stands between the first bracket of its text and the last character. -/
theorem Constraint.around_reference {s : String}
    (hfirst : "FK(".toList.isPrefixOf (Text.upperList (s.toList.filter (!Text.isBlank ·))) = true)
    (hlast : (Text.upperList (s.toList.filter (!Text.isBlank ·))).getLast? = some ')') :
    ∃ base inner, (Text.trim s).toList = base ++ '(' :: (inner ++ [')']) ∧ '(' ∉ base := by
  rw [← Text.filter_trim] at hfirst hlast
  have hopen : '(' ∈ (Text.trim s).toList := by
    have hword := (List.isPrefixOf_iff_prefix.mp hfirst).subset (by decide : '(' ∈ "FK(".toList)
    obtain ⟨c, hc, hmem⟩ := List.mem_flatMap.mp hword
    exact Text.eq_of_bracket_mem_upperChar (.inl rfl) hmem ▸ (List.mem_filter.mp hc).1
  obtain ⟨before, z, hz⟩ : ∃ before z, (Text.trim s).toList = before ++ [z] :=
    ⟨_, _, (List.dropLast_append_getLast (List.ne_nil_of_mem hopen)).symm⟩
  have hbare : Text.isBlank z = false := Text.ends_dropEnds s.toList (.inr (by
    rw [← Text.toList_trim, hz, List.getLast?_concat]))
  have hclose : z = ')' := by
    rw [hz, List.filter_append, Text.upperList, List.flatMap_append, List.getLast?_append] at hlast
    simp only [List.filter_cons, hbare, Bool.not_false, if_true, List.filter_nil,
      List.flatMap_singleton] at hlast
    rw [List.getLast?_eq_some_getLast (Text.upperChar_ne_nil z)] at hlast
    exact Text.eq_of_bracket_mem_upperChar (.inr rfl) (Option.some.inj hlast ▸ List.getLast_mem _)
  have hmem : '(' ∈ before := by
    rw [hz, hclose] at hopen
    simpa using hopen
  obtain ⟨base, inner, rfl, hbase⟩ := List.eq_append_cons_of_mem hmem
  exact ⟨base, inner, by rw [hz, hclose, List.append_assoc, List.cons_append], hbase⟩

theorem Constraint.ofTextStrict?_eq (s : String) : ofTextStrict? s = (ofText? s).map settled := by
  unfold ofTextStrict? ofText?
  dsimp only
  split
  · rfl
  split
  · rfl
  split
  · rfl
  split
  · rfl
  split
  · next hreference =>
    obtain ⟨base, inner, htrim, hbase⟩ := around_reference hreference.1 hreference.2
    have hopen : '('.utf8Size = 1 := rfl
    have hclose : ')'.utf8Size = 1 := rfl
    have hinner : Text.slice? (Text.trim s).toList (byteCount base + 1) (byteCount (Text.trim s).toList - 1) =
        some inner := by
      refine Text.slice?_of_append (a := base ++ ['(']) (c := [')']) (by simp [htrim]) (by simp [hopen]) ?_
      simp only [htrim, Text.byteCount_append, Text.byteCount_cons, Text.byteCount_nil, hopen, hclose]
      omega
    have hcut : (((Text.trim s).toList.dropWhile (· ≠ '(')).drop 1).dropLast = inner := by
      rw [htrim, Text.dropWhile_ne_append hbase]
      simp
    rw [hcut, htrim, Text.firstByte?_append hbase, ← htrim, Option.getD_some, hinner]
    rfl
  · rfl

namespace Column

/-- The constraints of a descriptor, each read strictly. -/
def constrainAllStrict (c : Column) : List String → Strict Column
  | [] => settled (.ok c)
  | text :: rest =>
    match Constraint.ofTextStrict? text with
    | none => settled (.error (.syntaxFault (.unknownConstraint (Text.trim text) c.name)))
    | some reading => do
      let constraint ← reading
      (c.constrain constraint).constrainAllStrict rest

theorem constrainAllStrict_eq (c : Column) (texts : List String) :
    c.constrainAllStrict texts = settled (c.constrainAll texts) := by
  induction texts generalizing c with
  | nil => rfl
  | cons text rest ih =>
    rw [constrainAllStrict, constrainAll, Constraint.ofTextStrict?_eq]
    rcases Constraint.ofText? text with _ | e | constraint
    · rfl
    · rfl
    · exact ih _

/-- A descriptor whose parts are taken by number. -/
def ofTextStrict (s : String) : Strict Column := do
  let trimmed := (Text.trim s).toList
  let pieces ← read (Text.splitOutsideStrict ':' trimmed 0 0 0 trimmed)
  let parts := pieces.map String.ofList
  if parts.length < 2 then settled (.error (.syntaxFault (.columnForm s)))
  else
    let name ← read parts[0]?
    if nameAllowed (Text.trim name) then
      let typeText ← read parts[1]?
      let type ← ColumnType.ofTextStrict (Text.trim typeText)
      let constraints ← read (slice? parts 2 parts.length)
      (plain (Text.trim name) type).constrainAllStrict constraints
    else settled (.error (.syntaxFault (.columnName (Text.trim name))))

theorem ofTextStrict_eq (s : String) : ofTextStrict s = settled (ofText s) := by
  unfold ofTextStrict ofText
  dsimp only
  rw [Text.splitOutsideStrict_eq rfl, Strict.read_some_bind]
  match (Text.splitOutside ':' 0 (Text.trim s).toList).map String.ofList with
  | [] => rfl
  | [_] => rfl
  | name :: type :: constraints =>
    have hlong : ¬(name :: type :: constraints).length < 2 := by simp
    have hrest : slice? (name :: type :: constraints) 2 (name :: type :: constraints).length =
        some constraints := slice?_length (by simp)
    simp only [if_neg hlong, List.getElem?_cons_zero, List.getElem?_cons_succ, Strict.read_some_bind, hrest,
      ColumnType.ofTextStrict_eq, constrainAllStrict_eq]
    split
    · cases ColumnType.ofText (Text.trim type) <;> rfl
    · rfl

/-- Descriptors with distinct names, each read strictly. -/
def readDistinctStrict (taken : List String) : List String → Strict (List Column)
  | [] => settled (.ok [])
  | text :: rest => do
    let column ← ofTextStrict text
    if column.name ∈ taken then settled (.error (.syntaxFault (.duplicateColumn column.name)))
    else
      let columns ← readDistinctStrict (column.name :: taken) rest
      return column :: columns

theorem readDistinctStrict_eq (taken texts : List String) :
    readDistinctStrict taken texts = settled (readDistinct taken texts) := by
  induction texts generalizing taken with
  | nil => rfl
  | cons text rest ih =>
    rw [readDistinctStrict, readDistinct, ofTextStrict_eq]
    cases ofText text with
    | error e => rfl
    | ok column =>
      rw [Strict.settled_ok_bind]
      dsimp only
      split
      · rfl
      · rw [ih]
        cases readDistinct (column.name :: taken) rest <;> rfl

/-- The columns of a new table, read strictly. -/
def listOfTextStrict (s : String) : Strict (List Column) := do
  match ← readDistinctStrict [] (splitList s) with
  | [] => settled (.error (.syntaxFault .noColumns))
  | columns => return columns

theorem listOfTextStrict_eq (s : String) : listOfTextStrict s = settled (listOfText s) := by
  unfold listOfTextStrict listOfText
  rw [readDistinctStrict_eq]
  rcases readDistinct [] (splitList s) with e | _ | _ <;> rfl

end Column

/-! ### Stored definitions -/

/-- A stored document, its descriptors read strictly. -/
def Definition.decodeStrict (table document : String) : Strict Definition :=
  match Text.lines document with
  | [] => settled (.error (.storage (.emptySchema table)))
  | header :: grants =>
    if Text.trim header = "" then settled (.error (.storage (.emptySchema table)))
    else do
      let columns ← (Text.split '|' (Text.trim header)).mapM Column.ofTextStrict
      return ⟨table, columns, grants.foldl readGrants .nobody⟩

theorem Definition.decodeStrict_eq (table document : String) :
    decodeStrict table document = settled (decode table document) := by
  unfold decodeStrict decode
  cases Text.lines document with
  | nil => rfl
  | cons header grants =>
    dsimp only
    split
    · rfl
    · rw [Strict.mapM_settled fun text _ => Column.ofTextStrict_eq text]
      cases (Text.split '|' (Text.trim header)).mapM Column.ofText <;> rfl

end Leuit
