import Leuit.Proofs.Comparisons
import Leuit.Proofs.Footprints
import Leuit.Proofs.StableSorting
import Leuit.Proofs.StrictSelections
import Mathlib

/-! Sorted results and their pages. The order that sorting goes by is not transitive on all values, since it
takes numerals in texts for numbers; on the values of a column where it is (`Value.Preordered`), sorting
succeeds, permutes the rows, puts them in order and leaves those alone that the order does not tell apart, in
either direction (`Relation.sort_of_preordered`, `Relation.sortedBy_mergeSort`). On other values it may fail, if
there are many (`Relation.sort_eq_error`). A page is then a slice of one list, whatever the sums of its bounds
come to (`SelectRows.clampedPage?_eq`), and the pages of one length that follow each other are the whole
(`SelectRows.flatMap_pages`). -/
namespace Leuit
open Outcome

/-! ### Sorting lists -/

section
variable {α : Type} {before : α → α → Bool} {xs : List α}
  (htotal : ∀ a b, (before a b || before b a) = true)
  (htrans : ∀ a ∈ xs, ∀ b ∈ xs, ∀ c ∈ xs, before a b = true → before b c = true → before a c = true)
include htotal htrans

theorem pairwise_mergeSort_of_mem : (xs.mergeSort before).Pairwise fun a b => before a b = true := by
  rw [StableSort.mergeSort_attach, List.pairwise_map]
  apply List.pairwise_mergeSort
  · exact fun a b c => htrans a a.2 b b.2 c c.2
  · exact fun a b => htotal a b

theorem filter_mergeSort_of_mem {p : α → Bool}
    (hp : ∀ a ∈ xs, ∀ b ∈ xs, p a = true → p b = true → before a b = true) :
    (xs.mergeSort before).filter p = xs.filter p := by
  have hattached : (xs.attach.mergeSort fun a b => before a.1 b.1).filter (fun a => p a.1) =
      xs.attach.filter fun a => p a.1 := by
    apply filter_mergeSort
    · exact fun a b => htotal a b
    · exact fun a b c => htrans a a.2 b b.2 c c.2
    · exact fun a b => hp a a.2 b b.2
  rw [StableSort.mergeSort_attach, List.filter_map]
  conv_rhs => rw [← List.attach_map_subtype_val xs, List.filter_map]
  exact congrArg (List.map Subtype.val) hattached

end

/-! ### Values in order -/

namespace Value

/-- Whether the order that rows are sorted by is a total preorder on some values. Any two values stand in it
one way or the other (`total_mayPrecede`), so it is if it is transitive on them. -/
def Preordered (values : List Value) : Prop :=
  ∀ a ∈ values, ∀ b ∈ values, ∀ c ∈ values, a.order b ≠ .gt → b.order c ≠ .gt → a.order c ≠ .gt

instance (values : List Value) : Decidable (Preordered values) :=
  inferInstanceAs (Decidable (∀ a ∈ values, ∀ b ∈ values, ∀ c ∈ values,
    a.order b ≠ .gt → b.order c ≠ .gt → a.order c ≠ .gt))

/-- Numbers are told apart as numbers, and a number and a text as texts. -/
example : ¬ Preordered [.int 9, .int 10, .text "1a"] := by decide +kernel

/-- Values that are no numerals are in the order of what they show. -/
theorem preordered_of_no_numbers {values : List Value} (h : ∀ v ∈ values, v.number? = none) :
    Preordered values := by
  have horder : ∀ a ∈ values, ∀ b, a.order b = compare a.display b.display := by
    intro a ha b
    rw [order, h a ha]
  intro a ha b hb c _ hab hbc
  rw [horder a ha, ne_eq, ← Ordering.isLE_iff_ne_gt] at hab ⊢
  rw [horder b hb, ne_eq, ← Ordering.isLE_iff_ne_gt] at hbc
  exact Std.TransOrd.isLE_trans hab hbc

/-- Whether a value may stand before another, in ascending or in descending order. -/
def mayPrecede (descending : Bool) (a b : Value) : Bool :=
  if descending then b.order a != .gt else a.order b != .gt

theorem not_precedes (descending : Bool) (a b : Value) :
    (!precedes descending b a) = mayPrecede descending a b := by
  unfold precedes mayPrecede
  rw [order_swap a b]
  cases descending <;> cases a.order b <;> rfl

theorem total_mayPrecede (descending : Bool) (a b : Value) :
    (mayPrecede descending a b || mayPrecede descending b a) = true := by
  unfold mayPrecede
  rw [order_swap a b]
  cases descending <;> cases a.order b <;> rfl

section
variable {values : List Value} {a b c : Value} {descending : Bool}

theorem Preordered.mayPrecede_trans (h : Preordered values) (ha : a ∈ values) (hb : b ∈ values)
    (hc : c ∈ values) (hab : mayPrecede descending a b = true) (hbc : mayPrecede descending b c = true) :
    mayPrecede descending a c = true := by
  cases descending with
  | false =>
    simp only [mayPrecede, Bool.false_eq_true, if_false, bne_iff_ne] at *
    exact h a ha b hb c hc hab hbc
  | true =>
    simp only [mayPrecede, if_true, bne_iff_ne] at *
    exact h c hc b hb a ha hbc hab

/-- Values that are level with the same value may stand in any order. -/
theorem Preordered.mayPrecede_of_level (h : Preordered values) (ha : a ∈ values) (hb : b ∈ values)
    (hc : c ∈ values) (hac : a.order c = .eq) (hbc : b.order c = .eq) : mayPrecede descending a b = true := by
  have hcb : c.order b = .eq := by rw [order_swap, hbc]; rfl
  have hca : c.order a = .eq := by rw [order_swap, hac]; rfl
  apply h.mayPrecede_trans ha hc hb
  · cases descending <;> simp [mayPrecede, hac, hca]
  · cases descending <;> simp [mayPrecede, hbc, hcb]

end

end Value

/-! ### Sorted rows -/

/-- Whether the value of a row in a column is level with a value. -/
def Row.levelWith (row : Row) (i : Nat) (v : Value) : Bool := (row.cell i).order v == .eq

namespace Relation

/-- What rows are once they are sorted by a column. -/
structure SortedBy (i : Nat) (descending : Bool) (rows sorted : List Row) : Prop where
  perm : sorted.Perm rows
  ordered : sorted.Pairwise fun a b => Value.mayPrecede descending (a.cell i) (b.cell i) = true
  /-- Rows that are level with each other follow each other as before. -/
  stable : ∀ v ∈ rows.map (·.cell i), sorted.filter (·.levelWith i v) = rows.filter (·.levelWith i v)

theorem sortedBy_mergeSort {i : Nat} {rows : List Row} (h : Value.Preordered (rows.map (·.cell i)))
    (descending : Bool) :
    SortedBy i descending rows
      (rows.mergeSort fun a b => Value.mayPrecede descending (a.cell i) (b.cell i)) := by
  have hmem : ∀ row ∈ rows, row.cell i ∈ rows.map (·.cell i) := fun _ => List.mem_map_of_mem
  have htotal (a b : Row) := Value.total_mayPrecede descending (a.cell i) (b.cell i)
  have htrans : ∀ a ∈ rows, ∀ b ∈ rows, ∀ c ∈ rows,
      Value.mayPrecede descending (a.cell i) (b.cell i) = true →
        Value.mayPrecede descending (b.cell i) (c.cell i) = true →
          Value.mayPrecede descending (a.cell i) (c.cell i) = true :=
    fun a ha b hb c hc => h.mayPrecede_trans (hmem a ha) (hmem b hb) (hmem c hc)
  refine ⟨List.mergeSort_perm .., pairwise_mergeSort_of_mem htotal htrans, fun v hv => ?_⟩
  apply filter_mergeSort_of_mem htotal htrans
  intro a ha b hb hav hbv
  exact h.mayPrecede_of_level (hmem a ha) (hmem b hb) hv (eq_of_beq hav) (eq_of_beq hbv)

/-- What a sorting makes of rows under a header. -/
structure Arranged (header : List HeaderColumn) (sorting : Option Sorting) (rows sorted : List Row) : Prop where
  perm : sorted.Perm rows
  /-- Without a column to sort by, the rows stay as they are. -/
  kept : (∀ s ∈ sorting, first? header s.column = none) → sorted = rows
  sortedBy : ∀ s ∈ sorting, ∀ i, first? header s.column = some i →
    Value.Preordered (rows.map (·.cell i)) → SortedBy i s.descending rows sorted

section
variable {r sorted : Relation} {s : Sorting} {i : Nat}

/-- Where the order is a total preorder, sorting is merge sort. -/
theorem sort_of_preordered (h : first? r.header s.column = some i)
    (hpreordered : Value.Preordered (r.rows.map (·.cell i))) :
    r.sort (some s) = .ok ⟨r.header,
      r.rows.mergeSort fun a b => Value.mayPrecede s.descending (a.cell i) (b.cell i)⟩ := by
  have hmem : ∀ row ∈ r.rows, row.cell i ∈ r.rows.map (·.cell i) := fun _ => List.mem_map_of_mem
  have hasymm : ∀ a ∈ r.rows, ∀ b ∈ r.rows, Value.precedes s.descending (a.cell i) (b.cell i) = true →
      Value.precedes s.descending (b.cell i) (a.cell i) = false := by
    intro a _ b _ hab
    have htotal := Value.total_mayPrecede s.descending (b.cell i) (a.cell i)
    rw [← Value.not_precedes, ← Value.not_precedes, hab] at htotal
    simpa using htotal
  have htrans : ∀ a ∈ r.rows, ∀ b ∈ r.rows, ∀ c ∈ r.rows,
      Value.precedes s.descending (b.cell i) (a.cell i) = false →
        Value.precedes s.descending (c.cell i) (b.cell i) = false →
          Value.precedes s.descending (c.cell i) (a.cell i) = false := by
    intro a ha b hb c hc hab hbc
    rw [← Bool.not_eq_true', Value.not_precedes] at *
    exact hpreordered.mayPrecede_trans (hmem a ha) (hmem b hb) (hmem c hc) hab hbc
  simp only [sort, h, StableSort.sort_eq_mergeSort hasymm htrans, Value.not_precedes]

/-- Sorting fails on many rows only, and only if the order is no total preorder of their values. -/
theorem sort_eq_error {sorting : Option Sorting} {e : QueryError} (h : r.sort sorting = .error e) :
    e = .aborted ∧ StableSort.insertable < r.rows.length ∧ ∃ s ∈ sorting, ∃ i, first? r.header s.column = some i ∧
      ¬Value.Preordered (r.rows.map (·.cell i)) := by
  cases sorting with
  | none => cases h
  | some s =>
    cases hcolumn : first? r.header s.column with
    | none =>
      simp only [sort, hcolumn] at h
      cases h
    | some i =>
      have hdisorder : ¬Value.Preordered (r.rows.map (·.cell i)) := fun hpreordered => by
        cases (sort_of_preordered hcolumn hpreordered).symm.trans h
      simp only [sort, hcolumn] at h
      split at h
      · next hsort =>
        cases h
        exact ⟨rfl, StableSort.insertable_lt_of_sort_eq_none hsort, s, rfl, i, hcolumn, hdisorder⟩
      · cases h

theorem arranged_sort {sorting : Option Sorting} (h : r.sort sorting = .ok sorted) :
    Arranged r.header sorting r.rows sorted.rows := by
  refine ⟨(of_sort h).2, fun hnone => ?_, fun s hs i hi hpreordered => ?_⟩
  · cases sorting with
    | none =>
      cases h
      rfl
    | some s =>
      simp only [sort, hnone s rfl] at h
      cases h
      rfl
  · cases hs
    cases (sort_of_preordered hi hpreordered).symm.trans h
    exact sortedBy_mergeSort hpreordered s.descending

end

end Relation

/-! ### Pages -/

namespace SelectRows

/-- The rows between two bounds that are held to the number of rows, the upper one being a sum that stops at
the largest number there is. -/
def clampedPage? (largest limit offset : Nat) (rows : List Row) : Option (List Row) :=
  let start := min offset rows.length
  slice? rows start (min (min (start + limit) largest) rows.length)

/-- Where there are no more rows than the largest number, it does not matter that sums stop there. -/
theorem clampedPage?_eq {largest : Nat} {rows : List Row} (h : rows.length ≤ largest) (limit offset : Nat) :
    clampedPage? largest limit offset rows = some ((rows.drop offset).take limit) := by
  have hpage := pageStrict_eq ⟨"", [], [], [], none, some limit, offset⟩ rows
  have hstop : min (min (min offset rows.length + limit) largest) rows.length =
      min (min offset rows.length + limit) rows.length := by omega
  unfold clampedPage?
  dsimp only
  rw [hstop]
  exact hpage

/-- Pages of one length that follow each other. -/
theorem flatMap_pages (rows : List Row) (limit count : Nat) :
    ((List.range count).flatMap fun i => (rows.drop (i * limit)).take limit) = rows.take (count * limit) := by
  induction count with
  | zero => simp
  | succ count ih => simp [List.range_succ, ih, Nat.succ_mul, List.take_add]

/-- The query with other bounds of its page. -/
def withPage (q : SelectRows) (limit : Option Nat) (offset : Nat) : SelectRows := { q with limit, offset }

/-- What a selection without aggregates shows of sorted rows, before they are paged. -/
def projected (q : SelectRows) (sorted : Relation) : List Row :=
  if q.selectsAll then sorted.rows else sorted.rows.map (Relation.project sorted.header q.selections)

variable {q : SelectRows}

theorem page_map (f : Row → Row) (rows : List Row) : q.page (rows.map f) = (q.page rows).map f := by
  unfold page
  cases q.limit with
  | none => rw [List.map_drop]
  | some n => rw [List.map_take, List.map_drop]

/-- Without aggregates, it makes no difference whether the rows are paged or projected first. -/
theorem result_eq_page (hplain : q.selections.any Selection.isAggregate = false) (joined : Relation) :
    q.result joined = ((joined.filter q.conditions).sort q.sorting).map fun sorted =>
      ⟨q.heading joined.header, q.page (q.projected sorted)⟩ := by
  unfold result
  rw [hplain]
  simp only [Bool.false_eq_true, if_false]
  cases hsort : (joined.filter q.conditions).sort q.sorting with
  | error e => rfl
  | ok sorted =>
    have hheader : sorted.header = joined.header := (Relation.of_sort hsort).1
    simp only [Except.map, projected, hheader]
    cases q.selectsAll with
    | true => rfl
    | false => simp only [Bool.false_eq_true, if_false, page_map]

/-- A selection that may fail to sort its rows: there are more of them than are sorted by insertion, and the order
is no total preorder of their values in the column that they are sorted by. -/
structure Disordered (q : SelectRows) (joined : Relation) : Prop where
  plain : q.selections.any Selection.isAggregate = false
  many : StableSort.insertable < (joined.filter q.conditions).rows.length
  disorder : ∃ s ∈ q.sorting, ∃ i, Relation.first? joined.header s.column = some i ∧
    ¬Value.Preordered ((joined.filter q.conditions).rows.map (·.cell i))

theorem result_eq_error {joined : Relation} {fault : QueryError} (h : q.result joined = .error fault) :
    fault = .aborted ∧ q.Disordered joined := by
  cases hplain : q.selections.any Selection.isAggregate with
  | true =>
    unfold result at h
    rw [hplain] at h
    cases h
  | false =>
    rw [result_eq_page hplain] at h
    obtain ⟨habort, hmany, hdisorder⟩ := Relation.sort_eq_error (map_eq_error.mp h)
    exact ⟨habort, hplain, hmany, hdisorder⟩

/-- The rows of all tables of a selection, joined. -/
def source (q : SelectRows) (view : Snapshot) (role : String) : Except QueryError Relation :=
  match readTable view role q.table with
  | .error e => .error e
  | .ok rows => joinAll view role rows q.joins

end SelectRows

/-! ### Runs -/

namespace Engine
variable {σ : Type} [Storage σ] {e : Engine σ} {caller : Caller} {q : SelectRows}

theorem run_select_eq (e : Engine σ) (caller : Caller) (q : SelectRows) :
    (e.run caller (.select q)).1 =
      match q.source (Storage.snapshot e.store caller.database) caller.role with
      | .error fault => .error fault
      | .ok joined => (q.result joined).map .rows := by
  have hplan : (Command.select q).planned (Storage.snapshot e.store caller.database) caller =
      match q.source (Storage.snapshot e.store caller.database) caller.role with
      | .error fault => .error fault
      | .ok joined => (q.result joined).map fun result => ⟨[], .rows result⟩ := by
    rw [Command.planned_select_eq, SelectRows.source]
    cases SelectRows.readTable (Storage.snapshot e.store caller.database) caller.role q.table <;> rfl
  cases hsource : q.source (Storage.snapshot e.store caller.database) caller.role with
  | error fault => exact (run_of_refused (by rw [hplan, hsource])).1
  | ok joined =>
    rw [hsource] at hplan
    dsimp only at hplan ⊢
    cases hresult : q.result joined with
    | error fault => exact (run_of_refused (by rw [hplan, hresult]; rfl)).1
    | ok result =>
      rw [(run_of_planned (by rw [hplan, hresult]; rfl)).1]
      rfl

/-- How the pages of a selection lie in its whole result, and how that comes about. -/
structure Paged (e : Engine σ) (caller : Caller) (q : SelectRows) (joined : Relation) (sorted : List Row)
    (whole : ResultSet) : Prop where
  source : q.source (Storage.snapshot e.store caller.database) caller.role = .ok joined
  arranged : Relation.Arranged joined.header q.sorting (joined.filter q.conditions).rows sorted
  columns : whole.columns = q.heading joined.header
  rows : whole.rows = if q.selectsAll then sorted else sorted.map (Relation.project joined.header q.selections)
  run_whole : (e.run caller (.select (q.withPage none 0))).1 = .ok (.rows whole)
  run_page : ∀ limit offset, (e.run caller (.select (q.withPage (some limit) offset))).1 =
    .ok (.rows ⟨whole.columns, (whole.rows.drop offset).take limit⟩)
  run_rest : ∀ offset, (e.run caller (.select (q.withPage none offset))).1 =
    .ok (.rows ⟨whole.columns, whole.rows.drop offset⟩)
  /-- Such a page is the slice between bounds of which no sum is larger than the largest number. -/
  clamped : ∀ largest limit offset, whole.rows.length ≤ largest →
    SelectRows.clampedPage? largest limit offset whole.rows = some ((whole.rows.drop offset).take limit)
  /-- Pages that follow each other and reach the end are the whole result. -/
  run_pages : ∀ limit count, whole.rows.length ≤ count * limit → ∃ pages : List ResultSet,
    List.Forall₂ (fun i page => (e.run caller (.select (q.withPage (some limit) (i * limit)))).1 =
      .ok (.rows page)) (List.range count) pages ∧ pages.flatMap (·.rows) = whole.rows

/-- **Pages are slices of one sorted result.** In any store: a selection without aggregates that succeeds
does so with every offset and limit, and returns that part of the rows it returns without them; so the pages
that follow each other are all of them, none left out or repeated. These rows are the filtered ones, sorted by
the column that the query names and then projected one by one. -/
theorem pages_of_result {answer : Answer} (hplain : q.selections.any Selection.isAggregate = false)
    (h : (e.run caller (.select q)).1 = .ok answer) :
    ∃ joined sorted whole, e.Paged caller q joined sorted whole := by
  rw [run_select_eq] at h
  cases hsource : q.source (Storage.snapshot e.store caller.database) caller.role with
  | error fault =>
    rw [hsource] at h
    cases h
  | ok joined =>
    rw [hsource] at h
    obtain ⟨result, hresult, -⟩ := map_eq_ok.mp h
    rw [SelectRows.result_eq_page hplain] at hresult
    obtain ⟨sorted, hsort, -⟩ := map_eq_ok.mp hresult
    -- Neither the joined rows nor what is made of them before they are paged depends on the page.
    have hrun (limit : Option Nat) (offset : Nat) :
        (e.run caller (.select (q.withPage limit offset))).1 =
          .ok (.rows ⟨q.heading joined.header, (q.withPage limit offset).page (q.projected sorted)⟩) := by
      have hsource' : (q.withPage limit offset).source (Storage.snapshot e.store caller.database) caller.role =
          .ok joined := hsource
      have hplain' : (q.withPage limit offset).selections.any Selection.isAggregate = false := hplain
      have hsort' : (joined.filter (q.withPage limit offset).conditions).sort (q.withPage limit offset).sorting =
          .ok sorted := hsort
      rw [run_select_eq, hsource']
      dsimp only
      rw [SelectRows.result_eq_page hplain', hsort']
      rfl
    have hprojected : q.projected sorted =
        if q.selectsAll then sorted.rows else sorted.rows.map (Relation.project joined.header q.selections) := by
      rw [SelectRows.projected, (Relation.of_sort hsort).1]
      rfl
    refine ⟨joined, sorted.rows, ⟨q.heading joined.header, q.projected sorted⟩, hsource,
      Relation.arranged_sort hsort, rfl, hprojected, hrun none 0, fun limit => hrun (some limit), hrun none,
      fun largest limit offset hlength => SelectRows.clampedPage?_eq hlength limit offset,
      fun limit count hcount => ?_⟩
    refine ⟨(List.range count).map fun i =>
      ⟨q.heading joined.header, ((q.projected sorted).drop (i * limit)).take limit⟩, ?_, ?_⟩
    · rw [List.forall₂_map_right_iff, List.forall₂_same]
      exact fun i _ => hrun (some limit) (i * limit)
    · rw [List.flatMap_map, SelectRows.flatMap_pages, List.take_of_length_le hcount]

/-- Goods on two shelves. -/
def goods : Memory where
  schemas := ⟨[(("kantor", "barang"), "ngaran:STRING|rak:CHAR(3)\nuser=read\n")]⟩
  records := ⟨[(("kantor", "barang"), ["kopi|b", "teh|a", "", "gula|b", "uyah|a", "beas|c"])]⟩

theorem pages_of_result_goods :
    let caller : Caller := ⟨"asep", "user", "kantor"⟩
    let q : SelectRows := ⟨"barang", ["ngaran"], [], [⟨"rak", .ne, "c", none⟩], some ⟨"rak", true⟩, some 2, 1⟩
    let joined : Relation := ⟨[⟨"barang", "ngaran", .string⟩, ⟨"barang", "rak", .char 3⟩],
      [[.text "kopi", .text "b"], [.text "teh", .text "a"], [.text "gula", .text "b"],
        [.text "uyah", .text "a"], [.text "beas", .text "c"]]⟩
    let result : ResultSet := ⟨["ngaran"], [[.text "gula"], [.text "teh"]]⟩
    q.selections.any Selection.isAggregate = false ∧
      ((ofStore goods).run caller (.select q)).1 = .ok (.rows result) ∧
      Value.Preordered ((joined.filter q.conditions).rows.map (·.cell 1)) ∧
      ∃ sorted whole, (ofStore goods).Paged caller q joined sorted whole ∧
        Relation.SortedBy 1 true (joined.filter q.conditions).rows sorted := by
  intro caller q joined result
  have hplain : q.selections.any Selection.isAggregate = false := by decide +kernel
  have hsource : q.source (Storage.snapshot goods "kantor") "user" = .ok joined := by decide +kernel
  have hrun : ((ofStore goods).run caller (.select q)).1 = .ok (.rows result) := by decide +kernel
  have hpreordered : Value.Preordered ((joined.filter q.conditions).rows.map (·.cell 1)) :=
    Value.preordered_of_no_numbers (by decide +kernel)
  obtain ⟨found, sorted, whole, hpaged⟩ := pages_of_result hplain hrun
  cases hsource.symm.trans hpaged.source
  exact ⟨hplain, hrun, hpreordered, sorted, whole, hpaged,
    hpaged.arranged.sortedBy ⟨"rak", true⟩ rfl 1 (by decide +kernel) hpreordered⟩

end Engine

end Leuit
