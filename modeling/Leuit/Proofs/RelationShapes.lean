import Leuit.Engine.Selecting
import Leuit.Proofs.AnyComparison
import Leuit.Proofs.Constraints

/-! The shape of relations. In a rectangular relation every row has a value for each column of the header.
A stored table is read as one, and joining, filtering, sorting and paging keep the shape: a row without
partner is padded to the width of the other side. So a selection gives as many values in each row as it
names columns (`SelectRows.rectangular_result`), and with an aggregate among its fields it gives one row
(`SelectRows.length_rows_result`). -/
namespace Leuit
open Outcome

namespace Relation

/-- Every row is as wide as the header. -/
def Rectangular (r : Relation) : Prop := ∀ row ∈ r.rows, row.length = r.width

/-! ### Positions of columns -/

section
variable {header : List HeaderColumn} {field : String} {i : Nat}

theorem lastIdx?_lt {α : Type} {p : α → Bool} {xs : List α} (h : lastIdx? p xs = some i) : i < xs.length := by
  induction xs generalizing i with
  | nil => cases h
  | cons x rest ih =>
    rw [lastIdx?] at h
    split at h
    · next j hj =>
      cases h
      exact Nat.succ_lt_succ (ih hj)
    · split at h
      · cases h
        exact Nat.zero_lt_succ _
      · cases h

theorem first?_lt (h : first? header field = some i) : i < header.length := by
  rw [first?, Option.orElse_eq_orElse, Option.orElse_eq_or, Option.or_eq_some_iff] at h
  obtain h | ⟨-, h⟩ := h
  · exact (List.findIdx?_eq_some_iff_getElem.mp h).1
  · exact (List.findIdx?_eq_some_iff_getElem.mp h).1

theorem last?_lt (h : last? header field = some i) : i < header.length := by
  rw [last?, Option.orElse_eq_orElse, Option.orElse_eq_or, Option.or_eq_some_iff] at h
  obtain h | ⟨-, h⟩ := h
  · exact (List.findIdx?_eq_some_iff_getElem.mp h).1
  · exact lastIdx?_lt h

end

/-! ### Tables and joins -/

/-- A table that is read has a field for each column in every record. -/
theorem rows_of_ofTable {d : Definition} {records : List String} {r : Relation}
    (h : ofTable d records = .ok r) :
    (∀ record ∈ Record.rows records, (Record.fields record).length = d.columns.length) ∧
      r = ⟨headerOf d, (Record.rows records).map fun record => d.values (Record.fields record)⟩ := by
  obtain ⟨rows, hrows, rfl⟩ := map_eq_ok.mp h
  rw [mapM_map_each] at hrows
  obtain ⟨read, hread, rfl⟩ := map_eq_ok.mp hrows
  obtain ⟨harity, rfl⟩ := Definition.mapM_fieldsOf_eq_ok.mp hread
  exact ⟨harity, by rw [List.map_map]; rfl⟩

theorem rectangular_ofTable {d : Definition} {records : List String} {r : Relation}
    (h : ofTable d records = .ok r) : r.Rectangular := by
  obtain ⟨harity, rfl⟩ := rows_of_ofTable h
  intro row hrow
  obtain ⟨record, hmem, rfl⟩ := List.mem_map.mp hrow
  simp [Definition.values, width, headerOf, harity record hmem]

variable {left right : Relation}

/-- Where the rows of a join come from: a row of each side, or one of a single side with nulls. -/
inductive JoinedRow (left right : Relation) : Row → Prop
  | pair {l r : Row} (hl : l ∈ left.rows) (hr : r ∈ right.rows) : JoinedRow left right (l ++ r)
  | leftAlone {l : Row} (hl : l ∈ left.rows) : JoinedRow left right (l ++ blankRow right.width)
  | rightAlone {r : Row} (hr : r ∈ right.rows) : JoinedRow left right (blankRow left.width ++ r)

theorem joinedRow_of_mem {kind : JoinKind} {on : Condition} {row : Row}
    (h : row ∈ (left.join kind right on).rows) : JoinedRow left right row := by
  rcases List.mem_append.mp h with h | h
  · obtain ⟨l, hl, h⟩ := List.mem_flatMap.mp h
    unfold joinRow at h
    split at h
    · split at h
      · rw [List.mem_singleton.mp h]
        exact .leftAlone hl
      · cases h
    · obtain ⟨r, hr, rfl⟩ := List.mem_map.mp h
      exact .pair hl (List.mem_of_mem_filter hr)
  · unfold strayRows at h
    split at h
    · obtain ⟨r, hr, rfl⟩ := List.mem_map.mp h
      exact .rightAlone (List.mem_of_mem_filter hr)
    · cases h

theorem Rectangular.join (hleft : left.Rectangular) (hright : right.Rectangular) (kind : JoinKind)
    (on : Condition) : (left.join kind right on).Rectangular := by
  intro row hrow
  have hwidth : (left.join kind right on).width = left.width + right.width := List.length_append
  have hblank : ∀ width, (blankRow width).length = width := fun _ => List.length_replicate
  rw [hwidth]
  cases joinedRow_of_mem hrow with
  | pair hl hr => rw [List.length_append, hleft _ hl, hright _ hr]
  | leftAlone hl => rw [List.length_append, hleft _ hl, hblank]
  | rightAlone hr => rw [List.length_append, hblank, hright _ hr]

/-! ### Filtering and sorting -/

variable {r : Relation}

theorem Rectangular.filter (h : r.Rectangular) (conditions : List Condition) :
    (r.filter conditions).Rectangular :=
  fun row hrow => h row (List.mem_of_mem_filter hrow)

/-- Sorting keeps the header and changes no more than the order of the rows. -/
theorem of_sort {sorted : Relation} {sorting : Option Sorting} (h : r.sort sorting = .ok sorted) :
    sorted.header = r.header ∧ sorted.rows.Perm r.rows := by
  unfold sort at h
  split at h
  · cases h
    exact ⟨rfl, .refl _⟩
  · split at h
    · cases h
      exact ⟨rfl, .refl _⟩
    · split at h
      · cases h
      · next rows hrows =>
        cases h
        exact ⟨rfl, StableSort.sort_perm hrows⟩

theorem Rectangular.of_sort {sorted : Relation} {sorting : Option Sorting} (h : r.Rectangular)
    (hsort : r.sort sorting = .ok sorted) : sorted.Rectangular := by
  obtain ⟨hheader, hperm⟩ := Relation.of_sort hsort
  intro row hrow
  rw [width, hheader]
  exact h row (hperm.mem_iff.mp hrow)

end Relation

/-! ### Joined tables -/

namespace SelectRows

/-- What holds of stored tables and is kept by joins. -/
structure Lasting (P : Relation → Prop) : Prop where
  ofTable : ∀ {d : Definition} {records : List String} {r : Relation},
    Relation.ofTable d records = .ok r → P r
  join : ∀ {left right : Relation}, P left → P right → ∀ kind on, P (left.join kind right on)

variable {P : Relation → Prop} {view : Snapshot} {role : String} {r current joined : Relation}

theorem Lasting.readTable (hP : Lasting P) {table : String} (h : readTable view role table = .ok r) : P r := by
  unfold SelectRows.readTable at h
  split at h
  · cases h
  · split at h
    · cases h
    · exact hP.ofTable h

/-- It holds of all relations that come from joining tables one after the other. -/
theorem Lasting.joinAll (hP : Lasting P) {joins : List Join} (hcurrent : P current)
    (h : joinAll view role current joins = .ok joined) : P joined := by
  induction joins generalizing current with
  | nil =>
    cases h
    exact hcurrent
  | cons j rest ih =>
    rw [SelectRows.joinAll] at h
    split at h
    · cases h
    · next target htarget => exact ih (hP.join hcurrent (hP.readTable htarget) j.kind j.condition) h

theorem lasting_rectangular : Lasting Relation.Rectangular where
  ofTable := Relation.rectangular_ofTable
  join := Relation.Rectangular.join

end SelectRows

/-! ### Results -/

/-- A result whose rows have a value under each name of the heading. -/
def ResultSet.Rectangular (r : ResultSet) : Prop := ∀ row ∈ r.rows, row.length = r.columns.length

namespace SelectRows
variable {q : SelectRows} {joined : Relation}

/-- Paging leaves rows of the relation. -/
theorem mem_of_mem_page {rows : List Row} {row : Row} (h : row ∈ q.page rows) : row ∈ rows := by
  unfold page at h
  split at h
  · exact List.mem_of_mem_drop h
  · exact List.mem_of_mem_drop (List.mem_of_mem_take h)

theorem rectangular_result {result : ResultSet} (h : joined.Rectangular) (hresult : q.result joined = .ok result) :
    result.Rectangular := by
  intro row hrow
  unfold SelectRows.result at hresult
  dsimp only at hresult
  split at hresult
  · cases hresult
    rw [List.mem_singleton.mp hrow]
    simp [Relation.aggregate]
  · obtain ⟨sorted, hsort, rfl⟩ := map_eq_ok.mp hresult
    obtain ⟨hheader, -⟩ := Relation.of_sort hsort
    unfold heading at hrow ⊢
    dsimp only at hrow ⊢
    split at hrow
    · next hall =>
      rw [if_pos hall, List.length_map, (h.filter q.conditions).of_sort hsort row (mem_of_mem_page hrow),
        Relation.width, hheader]
      rfl
    · next hall =>
      obtain ⟨whole, -, rfl⟩ := List.mem_map.mp hrow
      rw [if_neg hall]
      simp [Relation.project]

/-- A selection with an aggregate among its fields gives one row. -/
theorem length_rows_result (hall : q.selectsAll = false) {field : String} (hfield : field ∈ q.fields)
    (haggregate : (Selection.ofText field).isAggregate = true) {result : ResultSet}
    (hresult : q.result joined = .ok result) : result.rows.length = 1 := by
  have hany : q.selections.any Selection.isAggregate = true := by
    rw [selections, if_neg (by simp [hall]), List.any_map, List.any_eq_true]
    exact ⟨field, hfield, haggregate⟩
  unfold SelectRows.result at hresult
  rw [if_pos hany] at hresult
  cases hresult
  rfl

end SelectRows

end Leuit
