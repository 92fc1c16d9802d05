import Leuit.Proofs.StrictSelections
import Mathlib

/-! What joins make of the rows of two relations. A joined row comes from a row of each side or, padded with
nulls, from a row of one side alone (`Relation.Origin`). Which origins there are is decided by the matches
(`Relation.Origin.Occurs`) and their order by the positions of the rows (`Relation.Origin.Before`), so both
together determine the rows of a join (`Relation.joinBy_origins`). The kinds of join differ in the padded rows
only: up to their order, all hold the rows of the inner one, those of the left side without partner, and those
of the right side without partner (`Relation.joinBy_perm`), which gives their numbers. -/
namespace Leuit

/-- The test of a condition that names a column of each side, the left one first. -/
theorem JoinTest.of_named {left right : Relation} {on : Condition} {i j : Nat}
    (hleft : Relation.first? left.header on.field = some i)
    (hright : Relation.first? right.header on.literal = some j) :
    JoinTest.of left right on = ⟨some i, some j, on.operator, on.literal⟩ := by
  simp [JoinTest.of, hleft, hright]

namespace Relation

/-! ### Origins -/

/-- Where a joined row comes from: a row of each side, or one of a single side, by position. -/
inductive Origin where
  | pair (i j : Nat)
  | leftAlone (i : Nat)
  | rightAlone (j : Nat)
deriving DecidableEq, Repr

namespace Origin

/-- The joined row that comes from there. -/
def row (left right : Relation) : Origin → Row
  | pair i j => left.rows.getD i [] ++ right.rows.getD j []
  | leftAlone i => left.rows.getD i [] ++ blankRow right.width
  | rightAlone j => blankRow left.width ++ right.rows.getD j []

/-- Whether a joined row comes from there: from every two rows that match, and from a row that matches none
if the kind of join keeps those of its side. -/
def Occurs (kind : JoinKind) (matchRows : Row → Row → Bool) (left right : Relation) : Origin → Prop
  | pair i j => ∃ l r, left.rows[i]? = some l ∧ right.rows[j]? = some r ∧ matchRows l r = true
  | leftAlone i => kind.keepsLeft = true ∧
      ∃ l, left.rows[i]? = some l ∧ ∀ r ∈ right.rows, matchRows l r = false
  | rightAlone j => kind.keepsRight = true ∧
      ∃ r, right.rows[j]? = some r ∧ ∀ l ∈ left.rows, matchRows l r = false

/-- The order of joined rows: by the row of the left side, then by that of the right side. Those of the right
side alone come last. -/
def Before : Origin → Origin → Prop
  | pair i j, pair i' j' => i < i' ∨ i = i' ∧ j < j'
  | pair i _, leftAlone i' | leftAlone i, pair i' _ | leftAlone i, leftAlone i' => i < i'
  | rightAlone j, rightAlone j' => j < j'
  | rightAlone _, _ => False
  | _, rightAlone _ => True

end Origin

/-! ### Rows and their positions -/

section
variable {rows : List Row} {p : Row → Bool}

/-- Rows that are picked with their positions are picked without them. -/
theorem filter_zipIdx_fst (rows : List Row) (p : Row → Bool) :
    (rows.zipIdx.filter (p ·.1)).map (·.1) = rows.filter p := by
  rw [show (fun r : Row × Nat => p r.1) = p ∘ Prod.fst from rfl, ← List.filter_map, List.zipIdx_map_fst]

theorem mem_filter_zipIdx {row : Row} {i : Nat} :
    (row, i) ∈ rows.zipIdx.filter (p ·.1) ↔ rows[i]? = some row ∧ p row = true := by
  rw [List.mem_filter, List.mem_zipIdx_iff_getElem?]

theorem getD_of_mem_zipIdx {r : Row × Nat} (h : r ∈ rows.zipIdx) : rows.getD r.2 [] = r.1 := by
  rw [List.getD_eq_getElem?_getD, List.mem_zipIdx_iff_getElem?.mp h]
  rfl

/-- The positions of rows increase. -/
theorem pairwise_zipIdx (rows : List Row) : rows.zipIdx.Pairwise (·.2 < ·.2) := by
  have h := List.pairwise_lt_range' (s := 0) (n := rows.length)
  rwa [← List.zipIdx_map_snd, List.pairwise_map] at h

end

/-! ### The rows of a join -/

variable {kind : JoinKind} {matchRows : Row → Row → Bool} {left right : Relation}

/-- Whether a row of the left side matches none of the right side. -/
def lonely (matchRows : Row → Row → Bool) (right : Relation) (row : Row) : Bool :=
  right.rows.all fun r => !matchRows row r

theorem lonely_eq_true {row : Row} :
    lonely matchRows right row = true ↔ ∀ r ∈ right.rows, matchRows row r = false := by
  simp [lonely]

/-- Whether a row of the right side matches none of the left side. -/
def stray (matchRows : Row → Row → Bool) (left : Relation) (row : Row) : Bool :=
  left.rows.all fun l => !matchRows l row

theorem stray_eq_true {row : Row} :
    stray matchRows left row = true ↔ ∀ l ∈ left.rows, matchRows l row = false := by
  simp [stray]

theorem strayRows_eq (kind : JoinKind) (matchRows : Row → Row → Bool) (left right : Relation) :
    strayRows kind matchRows left right =
      if kind.keepsRight then (right.rows.filter (stray matchRows left)).map (blankRow left.width ++ ·)
      else [] := by
  have hstray : (fun r => !left.rows.any (matchRows · r)) = stray matchRows left :=
    funext fun r => List.not_any_eq_all_not ..
  rw [strayRows, hstray]

/-- A row of the left side gives its partners, or itself if it has none and is kept. -/
theorem joinRow_eq (kind : JoinKind) (matchRows : Row → Row → Bool) (right : Relation) (row : Row) :
    joinRow kind (matchRows row) right row = (right.rows.filter (matchRows row)).map (row ++ ·) ++
      if kind.keepsLeft && lonely matchRows right row then [row ++ blankRow right.width] else [] := by
  unfold joinRow
  split
  · next hnone =>
    have hlonely : lonely matchRows right row = true :=
      lonely_eq_true.mpr fun r hr => by simpa using List.filter_eq_nil_iff.mp hnone r hr
    rw [hnone, hlonely, Bool.and_true]
    rfl
  · next hsome =>
    have hlonely : lonely matchRows right row = false := by
      by_contra hl
      exact hsome (List.filter_eq_nil_iff.mpr fun r hr => by
        simp [lonely_eq_true.mp (by simpa using hl) r hr])
    rw [hlonely, Bool.and_false]
    exact (List.append_nil _).symm

/-- The origins of the joined rows that a row of the left side gives. -/
def originsAt (kind : JoinKind) (matchRows : Row → Row → Bool) (right : Relation) (row : Row × Nat) :
    List Origin :=
  (right.rows.zipIdx.filter (matchRows row.1 ·.1)).map (fun r => .pair row.2 r.2) ++
    if kind.keepsLeft && lonely matchRows right row.1 then [.leftAlone row.2] else []

/-- The origins of the rows of a join. -/
def origins (kind : JoinKind) (matchRows : Row → Row → Bool) (left right : Relation) : List Origin :=
  left.rows.zipIdx.flatMap (originsAt kind matchRows right) ++
    if kind.keepsRight then (right.rows.zipIdx.filter (stray matchRows left ·.1)).map (.rightAlone ·.2)
    else []

theorem rows_originsAt {row : Row × Nat} (h : row ∈ left.rows.zipIdx) :
    (originsAt kind matchRows right row).map (Origin.row left right) =
      joinRow kind (matchRows row.1) right row.1 := by
  have hrow := getD_of_mem_zipIdx h
  have hpairs : (right.rows.zipIdx.filter (matchRows row.1 ·.1)).map
      (Origin.row left right ∘ fun r => .pair row.2 r.2) =
        (right.rows.filter (matchRows row.1)).map (row.1 ++ ·) := by
    rw [← filter_zipIdx_fst, List.map_map]
    refine List.map_congr_left fun r hr => ?_
    show left.rows.getD row.2 [] ++ right.rows.getD r.2 [] = row.1 ++ r.1
    rw [hrow, getD_of_mem_zipIdx (List.mem_of_mem_filter hr)]
  have halone : Origin.row left right (.leftAlone row.2) = row.1 ++ blankRow right.width := by
    rw [Origin.row, hrow]
  rw [joinRow_eq, originsAt, List.map_append, List.map_map, hpairs]
  split
  · rw [List.map_singleton, halone]
  · rfl

/-- The rows of a join are those that come from its origins. -/
theorem rows_joinBy (kind : JoinKind) (matchRows : Row → Row → Bool) (left right : Relation) :
    (joinBy kind matchRows left right).rows =
      (origins kind matchRows left right).map (Origin.row left right) := by
  have hstrays : (right.rows.zipIdx.filter (stray matchRows left ·.1)).map
      (Origin.row left right ∘ fun r => .rightAlone r.2) =
        (right.rows.filter (stray matchRows left)).map (blankRow left.width ++ ·) := by
    rw [← filter_zipIdx_fst, List.map_map]
    refine List.map_congr_left fun r hr => ?_
    show blankRow left.width ++ right.rows.getD r.2 [] = blankRow left.width ++ r.1
    rw [getD_of_mem_zipIdx (List.mem_of_mem_filter hr)]
  have hrows : left.rows.flatMap (fun row => joinRow kind (matchRows row) right row) =
      left.rows.zipIdx.flatMap fun row => (originsAt kind matchRows right row).map
        (Origin.row left right) := by
    rw [← List.zipIdx_map_fst 0 left.rows, List.flatMap_map, List.zipIdx_map_fst]
    exact List.flatMap_congr fun row hrow => (rows_originsAt hrow).symm
  rw [origins, List.map_append, List.map_flatMap, ← hrows, joinBy, strayRows_eq]
  split
  · rw [List.map_map, hstrays]
  · rfl

theorem mem_originsAt {row : Row × Nat} {o : Origin} :
    o ∈ originsAt kind matchRows right row ↔
      (∃ j r, right.rows[j]? = some r ∧ matchRows row.1 r = true ∧ o = .pair row.2 j) ∨
        (kind.keepsLeft = true ∧ (∀ r ∈ right.rows, matchRows row.1 r = false) ∧ o = .leftAlone row.2) := by
  rw [originsAt, List.mem_append, List.mem_map]
  refine or_congr ⟨?_, ?_⟩ ?_
  · rintro ⟨⟨r, j⟩, hr, rfl⟩
    obtain ⟨hget, hmatch⟩ := mem_filter_zipIdx.mp hr
    exact ⟨j, r, hget, hmatch, rfl⟩
  · rintro ⟨j, r, hget, hmatch, rfl⟩
    exact ⟨(r, j), mem_filter_zipIdx.mpr ⟨hget, hmatch⟩, rfl⟩
  · rw [← lonely_eq_true, ← and_assoc, ← Bool.and_eq_true]
    split
    · next h => rw [List.mem_singleton, h, eq_self, true_and]
    · next h => simp only [List.not_mem_nil, h, Bool.false_eq_true, false_and]

/-- The origins of a join are those that occur. -/
theorem mem_origins {o : Origin} :
    o ∈ origins kind matchRows left right ↔ o.Occurs kind matchRows left right := by
  have hrows : o ∈ left.rows.zipIdx.flatMap (originsAt kind matchRows right) ↔
      ∃ i l, left.rows[i]? = some l ∧ o ∈ originsAt kind matchRows right (l, i) := by
    rw [List.mem_flatMap]
    constructor
    · rintro ⟨⟨l, i⟩, hl, ho⟩
      exact ⟨i, l, List.mem_zipIdx_iff_getElem?.mp hl, ho⟩
    · rintro ⟨i, l, hl, ho⟩
      exact ⟨(l, i), List.mem_zipIdx_iff_getElem?.mpr hl, ho⟩
  have hstrays : (o ∈ if kind.keepsRight then
        (right.rows.zipIdx.filter (stray matchRows left ·.1)).map (.rightAlone ·.2) else []) ↔
      ∃ j r, kind.keepsRight = true ∧ right.rows[j]? = some r ∧
        (∀ l ∈ left.rows, matchRows l r = false) ∧ o = .rightAlone j := by
    split
    · next hkeeps =>
      rw [List.mem_map]
      constructor
      · rintro ⟨⟨r, j⟩, hr, rfl⟩
        obtain ⟨hget, hstray⟩ := mem_filter_zipIdx.mp hr
        exact ⟨j, r, hkeeps, hget, stray_eq_true.mp hstray, rfl⟩
      · rintro ⟨j, r, -, hget, hstray, rfl⟩
        exact ⟨(r, j), mem_filter_zipIdx.mpr ⟨hget, stray_eq_true.mpr hstray⟩, rfl⟩
    · next hkeeps => simp [hkeeps]
  rw [origins, List.mem_append, hrows, hstrays]
  simp only [mem_originsAt]
  cases o with
  | pair i j => simp [Origin.Occurs]
  | leftAlone i => simp [Origin.Occurs, and_left_comm]
  | rightAlone j => simp [Origin.Occurs]

/-- The origins of a join are in order. -/
theorem pairwise_origins : (origins kind matchRows left right).Pairwise Origin.Before := by
  rw [origins, List.pairwise_append]
  refine ⟨List.pairwise_flatMap.mpr ⟨fun row _ => ?row, ?rows⟩, ?strays, ?last⟩
  case row =>
    rw [originsAt, List.pairwise_append]
    refine ⟨?_, by split <;> simp, fun o ho o' ho' => ?_⟩
    · rw [List.pairwise_map]
      exact ((pairwise_zipIdx right.rows).filter _).imp fun h => .inr ⟨rfl, h⟩
    · -- A row with a partner is not kept alone.
      obtain ⟨⟨r, j⟩, hr, -⟩ := List.mem_map.mp ho
      obtain ⟨hget, hmatch⟩ := mem_filter_zipIdx.mp hr
      split at ho'
      · next hlonely =>
        rw [Bool.and_eq_true, lonely_eq_true] at hlonely
        rw [hlonely.2 r (List.mem_of_getElem? hget)] at hmatch
        cases hmatch
      · cases ho'
  case rows =>
    refine (pairwise_zipIdx left.rows).imp fun {a b} hlt o ho o' ho' => ?_
    rcases mem_originsAt.mp ho with ⟨j, r, -, -, rfl⟩ | ⟨-, -, rfl⟩ <;>
      rcases mem_originsAt.mp ho' with ⟨j', r', -, -, rfl⟩ | ⟨-, -, rfl⟩
    · exact .inl hlt
    · exact hlt
    · exact hlt
    · exact hlt
  case strays =>
    split
    · rw [List.pairwise_map]
      exact (pairwise_zipIdx right.rows).filter _
    · exact .nil
  case last =>
    intro o ho o' ho'
    obtain ⟨row, -, ho⟩ := List.mem_flatMap.mp ho
    split at ho'
    · obtain ⟨r, -, rfl⟩ := List.mem_map.mp ho'
      rcases mem_originsAt.mp ho with ⟨j, r, -, -, rfl⟩ | ⟨-, -, rfl⟩ <;> trivial
    · cases ho'

namespace Origin

/-- There is only one list of some origins in order. -/
theorem eq_of_before {os os' : List Origin} (h : os.Pairwise Before) (h' : os'.Pairwise Before)
    (hmem : ∀ o, o ∈ os ↔ o ∈ os') : os = os' := by
  have hirrefl : ∀ o : Origin, ¬o.Before o := by rintro (_ | _ | _) <;> simp [Before]
  have hasymm : ∀ o o' : Origin, o.Before o' → ¬o'.Before o := by
    rintro (⟨i, j⟩ | i | j) (⟨i', j'⟩ | i' | j') h h' <;> simp only [Before] at h h' <;> omega
  have hnodup : ∀ {os : List Origin}, os.Pairwise Before → os.Nodup := fun h =>
    h.imp fun {a b} hab => by rintro rfl; exact hirrefl a hab
  exact ((List.perm_ext_iff_of_nodup (hnodup h) (hnodup h')).mpr hmem).eq_of_pairwise
    (fun o o' _ _ hoo' ho'o => absurd ho'o (hasymm o o' hoo')) h h'

end Origin

/-- The origins that occur, in order, determine the rows of a join. -/
theorem joinBy_origins (kind : JoinKind) (matchRows : Row → Row → Bool) (left right : Relation) :
    ∃! origins : List Origin,
      ((∀ o, o ∈ origins ↔ o.Occurs kind matchRows left right) ∧ origins.Pairwise Origin.Before) ∧
        (joinBy kind matchRows left right).rows = origins.map (Origin.row left right) :=
  ⟨origins kind matchRows left right, ⟨⟨fun _ => mem_origins, pairwise_origins⟩, rows_joinBy ..⟩,
    fun _ h => Origin.eq_of_before h.1.2 pairwise_origins fun o => (h.1.1 o).trans mem_origins.symm⟩

/-! ### What the kinds of join have in common -/

/-- The rows that a pair of matching rows gives, by the left row and then by the right one. -/
def pairRows (matchRows : Row → Row → Bool) (left right : Relation) : List Row :=
  left.rows.flatMap fun l => (right.rows.filter (matchRows l)).map (l ++ ·)

theorem mem_pairRows {matchRows : Row → Row → Bool} {row : Row} :
    row ∈ pairRows matchRows left right ↔
      ∃ l ∈ left.rows, ∃ r ∈ right.rows, matchRows l r = true ∧ row = l ++ r := by
  simp only [pairRows, List.mem_flatMap, List.mem_map, List.mem_filter]
  constructor
  · rintro ⟨l, hl, r, ⟨hr, hmatch⟩, rfl⟩
    exact ⟨l, hl, r, hr, hmatch, rfl⟩
  · rintro ⟨l, hl, r, hr, hmatch, rfl⟩
    exact ⟨l, hl, r, ⟨hr, hmatch⟩, rfl⟩

/-- The rows of the left side without partner, padded. -/
def lonelyRows (matchRows : Row → Row → Bool) (left right : Relation) : List Row :=
  (left.rows.filter (lonely matchRows right)).map (· ++ blankRow right.width)

/-- The rows of an inner join are those of the matching pairs. -/
theorem rows_joinBy_inner (matchRows : Row → Row → Bool) (left right : Relation) :
    (joinBy .inner matchRows left right).rows = pairRows matchRows left right := by
  show left.rows.flatMap (fun l => joinRow .inner (matchRows l) right l) ++ [] = _
  rw [List.append_nil, pairRows]
  refine List.flatMap_congr fun l _ => ?_
  rw [joinRow_eq]
  exact List.append_nil _

/-- What is picked and mapped one by one is picked and mapped as a list. -/
theorem flatMap_ite_singleton {α β : Type} (p : α → Bool) (f : α → β) (xs : List α) :
    (xs.flatMap fun x => if p x then [f x] else []) = (xs.filter p).map f := by
  induction xs with
  | nil => rfl
  | cons x rest ih => cases hx : p x <;> simp [hx, ih]

/-- Up to the order of its rows, a join is the inner one with the rows without partner that are kept. -/
theorem joinBy_perm (kind : JoinKind) (matchRows : Row → Row → Bool) (left right : Relation) :
    (joinBy kind matchRows left right).rows.Perm
      (pairRows matchRows left right ++
        (if kind.keepsLeft then lonelyRows matchRows left right else []) ++
          strayRows kind matchRows left right) := by
  have halone : (if kind.keepsLeft then lonelyRows matchRows left right else []) =
      left.rows.flatMap fun l =>
        if kind.keepsLeft && lonely matchRows right l then [l ++ blankRow right.width] else [] := by
    cases kind.keepsLeft with
    | false => simp
    | true => simp only [if_true, Bool.true_and, flatMap_ite_singleton, lonelyRows]
  rw [joinBy, halone, pairRows]
  refine List.Perm.append_right _ ?_
  simp only [joinRow_eq]
  exact (List.flatMap_append_perm ..).symm

theorem inner_sublist (kind : JoinKind) (matchRows : Row → Row → Bool) (left right : Relation) :
    (joinBy .inner matchRows left right).rows.Sublist (joinBy kind matchRows left right).rows := by
  rw [rows_joinBy_inner, pairRows, joinBy]
  refine (List.Sublist.flatMap_right _ fun l _ => ?_).trans (List.sublist_append_left ..)
  rw [joinRow_eq]
  exact List.sublist_append_left ..

/-- The number of rows of a join. -/
theorem length_joinBy (kind : JoinKind) (matchRows : Row → Row → Bool) (left right : Relation) :
    (joinBy kind matchRows left right).rows.length = (joinBy .inner matchRows left right).rows.length +
      (if kind.keepsLeft then left.rows.countP (lonely matchRows right) else 0) +
      if kind.keepsRight then right.rows.countP (stray matchRows left) else 0 := by
  have hlonely : (lonelyRows matchRows left right).length = left.rows.countP (lonely matchRows right) := by
    rw [lonelyRows, List.length_map, List.countP_eq_length_filter]
  have hstray : ((right.rows.filter (stray matchRows left)).map (blankRow left.width ++ ·)).length =
      right.rows.countP (stray matchRows left) := by
    rw [List.length_map, List.countP_eq_length_filter]
  rw [(joinBy_perm kind matchRows left right).length_eq, strayRows_eq, List.length_append,
    List.length_append, apply_ite List.length, apply_ite List.length, hlonely, hstray, rows_joinBy_inner]
  rfl

/-! ### Joins on a condition -/

/-- Whether two rows match by the test that a condition stands for. -/
def matchesOn (left right : Relation) (on : Condition) : Row → Row → Bool :=
  (JoinTest.of left right on).matchRows left.header

/-- An inner join holds the pairs of matching rows. -/
theorem mem_join_inner {on : Condition} {row : Row} :
    row ∈ (left.join .inner right on).rows ↔
      ∃ l ∈ left.rows, ∃ r ∈ right.rows, left.matchesOn right on l r = true ∧ row = l ++ r := by
  show row ∈ (joinBy .inner (left.matchesOn right on) left right).rows ↔ _
  rw [rows_joinBy_inner, mem_pairRows]

/-- What the joins of two relations on a condition make of their rows. -/
structure Accounted (left right : Relation) (on : Condition) : Prop where
  header : ∀ kind, (left.join kind right on).header = left.header ++ right.header
  width : ∀ kind, ∀ row ∈ (left.join kind right on).rows, row.length = left.width + right.width
  /-- The rows are those of the origins that occur, each once and in order. -/
  origins : ∀ kind, ∃! origins : List Origin,
    ((∀ o, o ∈ origins ↔ o.Occurs kind (left.matchesOn right on) left right) ∧
        origins.Pairwise Origin.Before) ∧
      (left.join kind right on).rows = origins.map (Origin.row left right)
  /-- Going through both sides in two loops that mark the partners gives the same. -/
  marked : ∀ kind, left.joinStrict kind right on = some (left.join kind right on)
  sublist : ∀ kind, (left.join .inner right on).rows.Sublist (left.join kind right on).rows
  leftLength : (left.join .left right on).rows.length = (left.join .inner right on).rows.length +
    left.rows.countP fun l => right.rows.all fun r => !left.matchesOn right on l r
  rightLength : (left.join .right right on).rows.length = (left.join .inner right on).rows.length +
    right.rows.countP fun r => left.rows.all fun l => !left.matchesOn right on l r
  fullLength : (left.join .full right on).rows.length + (left.join .inner right on).rows.length =
    (left.join .left right on).rows.length + (left.join .right right on).rows.length
  /-- A null in the column that the test looks at matches nothing, on either side. -/
  leftNull : ∀ i, (JoinTest.of left right on).left = some i → ∀ l r, (l.cell i).isNull = true →
    left.matchesOn right on l r = false
  rightNull : ∀ j, (JoinTest.of left right on).right = some j → ∀ l r, (r.cell j).isNull = true →
    left.matchesOn right on l r = false

/-- **Joins lose and invent nothing.** Each two rows that match are joined once, each row without partner is
kept once by the kinds of join that keep its side, and there are no other rows. -/
theorem joins_account (left right : Relation) (hleft : left.Rectangular) (hright : right.Rectangular)
    (on : Condition) : left.Accounted right on := by
  have hlength := fun kind => length_joinBy kind (left.matchesOn right on) left right
  have hl := hlength .left
  have hr := hlength .right
  have hf := hlength .full
  simp only [JoinKind.keepsLeft, JoinKind.keepsRight, Bool.false_eq_true, if_true, if_false,
    Nat.add_zero] at hl hr hf
  refine ⟨fun _ => rfl, fun kind row hrow => ?_, fun kind => joinBy_origins ..,
    fun kind => joinStrict_eq hleft hright kind on, fun kind => inner_sublist .., hl, hr, ?_,
    fun i hi l r hnull => ?_, fun j hj l r hnull => ?_⟩
  · rw [hleft.join hright kind on row hrow]
    exact List.length_append
  · show (joinBy .full (left.matchesOn right on) left right).rows.length + _ =
      (joinBy .left (left.matchesOn right on) left right).rows.length +
        (joinBy .right (left.matchesOn right on) left right).rows.length
    rw [hl, hr, hf]
    show _ + (joinBy .inner (left.matchesOn right on) left right).rows.length = _
    omega
  · simp [matchesOn, JoinTest.matchRows, hi, hnull]
  · rw [matchesOn, JoinTest.matchRows, hj]
    split <;> simp [hnull]

/-- Two rows that are equal, one without a number and one with a number that is not there. -/
def staff : Relation where
  header := [⟨"pegawai", "id", .int⟩, ⟨"pegawai", "divisi", .int⟩]
  rows := [[.int 1, .int 10], [.int 1, .int 10], [.int 2, .null], [.int 3, .int 20]]

def divisions : Relation where
  header := [⟨"divisi", "id", .int⟩, ⟨"divisi", "nama", .string⟩]
  rows := [[.int 30, .text "HRD"], [.int 10, .text "IT"]]

theorem joins_account_staff :
    staff.Rectangular ∧ divisions.Rectangular ∧
      staff.Accounted divisions ⟨"divisi.id", .eq, "pegawai.divisi", none⟩ := by
  have hstaff : staff.Rectangular := by unfold Rectangular; decide
  have hdivisions : divisions.Rectangular := by unfold Rectangular; decide
  exact ⟨hstaff, hdivisions, joins_account staff divisions hstaff hdivisions _⟩

example : (staff.join .full divisions ⟨"divisi.id", .eq, "pegawai.divisi", none⟩).rows =
    [[.int 1, .int 10, .int 10, .text "IT"], [.int 1, .int 10, .int 10, .text "IT"],
      [.int 2, .null, .null, .null], [.int 3, .int 20, .null, .null],
      [.null, .null, .int 30, .text "HRD"]] := by
  decide +kernel

end Relation

end Leuit
