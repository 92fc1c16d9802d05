import Leuit.Proofs.NearestFloats
import Leuit.Proofs.ShownValues
import Leuit.Proofs.SortedPages

/-! Sorting by a column of integers. Conditions compare integers as they are, and sorting compares the floats
nearest to them, so both agree on two integers unless these are different and round alike
(`Value.comparesNearest`). Sorted integers therefore stand in order as far as those that round alike stood in
order before, and as sorting moves none of these past each other, no further
(`Rounding.pairwise_sortNearest_iff`). Every value of a joined row is one that its column's type reads
(`SelectRows.typed_source`), so this is what a selection makes of a column of integers
(`Engine.integers_sort_nearest`). -/
namespace Leuit
open Rounding

/-! ### Two integers -/

/-- Whether an integer has 64 bits, one of them for the sign. -/
def Decimal.Fits (n : Int) : Prop := -(signedBound : Int) ≤ n ∧ n < signedBound

instance (n : Int) : Decidable (Decimal.Fits n) := inferInstanceAs (Decidable (_ ∧ _))

theorem Decimal.Fits.natAbs_le {n : Int} (h : Fits n) : n.natAbs ≤ 2 ^ 63 := by
  obtain ⟨hlow, hhigh⟩ := h
  simp only [signedBound] at hlow hhigh
  omega

namespace Value
variable {a b : Int}

theorem order_int (ha : Decimal.Fits a) (hb : Decimal.Fits b) :
    (int a).order (int b) = compare (nearest a) (nearest b) := by
  show (floatOrder? (Float.ofInt a) (Float.ofInt b)).getD .eq = _
  rw [floatOrder?_ofInt ha.natAbs_le hb.natAbs_le]
  rfl

/-- How two integers compare where rows are sorted and where they are filtered. -/
structure ComparesNearest (a b : Int) : Prop where
  order_eq : (int a).order (int b) = compare (nearest a) (nearest b)
  compares_eq : ∀ op, op ≠ .like → (int a).compares op (int b) = op.holds (compare a b)
  /-- Both agree unless different integers round alike. -/
  agrees_iff : (int a).order (int b) = compare a b ↔ (nearest a = nearest b → a = b)

theorem comparesNearest (ha : Decimal.Fits a) (hb : Decimal.Fits b) : ComparesNearest a b where
  order_eq := order_int ha hb
  compares_eq op hop := by
    unfold compares
    rw [if_neg hop]
    rfl
  agrees_iff := by rw [order_int ha hb, compare_nearest_iff]

end Value

/-! ### Lists of integers -/

namespace Rounding
variable {descending : Bool} {a b : Int}

/-- Whether an integer may stand before another, in ascending or in descending order. -/
def leads (descending : Bool) (a b : Int) : Bool := if descending then decide (b ≤ a) else decide (a ≤ b)

/-- The integers in the order of their nearest ones. -/
def sortNearest (descending : Bool) (ns : List Int) : List Int :=
  ns.mergeSort fun a b => leads descending (nearest a) (nearest b)

theorem leads_total (descending : Bool) (a b : Int) : (leads descending a b || leads descending b a) = true := by
  cases descending <;> simp [leads, Int.le_total]

theorem leads_self (descending : Bool) (a : Int) : leads descending a a = true := by
  simpa using leads_total descending a a

theorem leads_trans {c : Int} (hab : leads descending a b = true) (hbc : leads descending b c = true) :
    leads descending a c = true := by
  cases descending <;> simp only [leads, if_true, Bool.false_eq_true, if_false, decide_eq_true_eq] at * <;> omega

/-- Integers that do not round alike stand as their nearest ones do. -/
theorem leads_of_nearest (h : leads descending (nearest a) (nearest b) = true) (hne : nearest a ≠ nearest b) :
    leads descending a b = true := by
  have hless : ∀ {a b : Int}, nearest a ≤ nearest b → nearest a ≠ nearest b → a ≤ b := fun hle hne => by
    by_contra hlt
    have := nearest_mono (Int.le_of_lt (Int.not_le.mp hlt))
    omega
  cases descending with
  | false =>
    simp only [leads, Bool.false_eq_true, if_false, decide_eq_true_eq] at *
    exact hless h hne
  | true =>
    simp only [leads, if_true, decide_eq_true_eq] at *
    exact hless h hne.symm

theorem pairwise_sortNearest (descending : Bool) (ns : List Int) :
    (sortNearest descending ns).Pairwise fun a b => leads descending (nearest a) (nearest b) = true := by
  apply List.pairwise_mergeSort
  · exact fun a b c => leads_trans
  · exact fun a b => leads_total descending (nearest a) (nearest b)

/-- Integers that round alike follow each other as before. -/
theorem sublist_sortNearest_iff (ns : List Int) (h : nearest a = nearest b) :
    [a, b].Sublist (sortNearest descending ns) ↔ [a, b].Sublist ns := by
  have hstable : (sortNearest descending ns).filter (nearest · == nearest a) =
      ns.filter (nearest · == nearest a) := by
    apply filter_mergeSort
    · exact fun x y => leads_total descending (nearest x) (nearest y)
    · exact fun x y z => leads_trans
    · intro x y hx hy
      rw [eq_of_beq hx, eq_of_beq hy]
      exact leads_self descending _
  have hpair : [a, b].filter (nearest · == nearest a) = [a, b] := by simp [h]
  have hiff : ∀ xs : List Int, [a, b].Sublist xs ↔ [a, b].Sublist (xs.filter (nearest · == nearest a)) :=
    fun xs => ⟨fun hab => hpair ▸ hab.filter _, fun hab => hab.trans List.filter_sublist⟩
  rw [hiff, hstable, ← hiff]

/-- Sorted by their nearest ones, integers stand in order exactly if those that round alike did before. -/
theorem pairwise_sortNearest_iff (descending : Bool) (ns : List Int) :
    (sortNearest descending ns).Pairwise (leads descending · · = true) ↔
      ns.Pairwise fun a b => nearest a = nearest b → leads descending a b = true := by
  have hordered := pairwise_sortNearest descending ns
  rw [List.pairwise_iff_forall_sublist] at hordered ⊢
  rw [List.pairwise_iff_forall_sublist]
  constructor
  · exact fun h a b hab hnearest => h ((sublist_sortNearest_iff ns hnearest).mpr hab)
  · intro h a b hab
    by_cases hnearest : nearest a = nearest b
    · exact h ((sublist_sortNearest_iff ns hnearest).mp hab) hnearest
    · exact leads_of_nearest (hordered hab) hnearest

/-- Integers that are floats are sorted. -/
theorem pairwise_sortNearest_of_le {ns : List Int} (h : ∀ n ∈ ns, n.natAbs ≤ 2 ^ 53) :
    (sortNearest descending ns).Pairwise (leads descending · · = true) := by
  refine (pairwise_sortNearest_iff descending ns).mpr (List.pairwise_of_forall_mem_list ?_)
  intro a ha b hb hnearest
  rw [nearest_of_le (h a ha), nearest_of_le (h b hb)] at hnearest
  subst hnearest
  exact leads_self descending a

end Rounding

/-! ### Columns and their values -/

namespace Relation

/-- Whether a value is one that the type of a column reads, null being read from blanks. -/
def Reads (column : HeaderColumn) (v : Value) : Prop := ∃ raw, Value.ofField column.type raw = v

/-- Every value is one that the type of its column reads. -/
def Typed (r : Relation) : Prop := ∀ row ∈ r.rows, List.Forall₂ Reads r.header row

variable {left right r : Relation}

theorem reads_blankRow (header : List HeaderColumn) : List.Forall₂ Reads header (blankRow header.length) := by
  induction header with
  | nil => exact .nil
  | cons column header ih => exact .cons ⟨"", Value.ofField_of_null (by decide)⟩ ih

theorem typed_ofTable {d : Definition} {records : List String} (h : ofTable d records = .ok r) : r.Typed := by
  obtain ⟨harity, rfl⟩ := rows_of_ofTable h
  intro row hrow
  obtain ⟨record, hmem, rfl⟩ := List.mem_map.mp hrow
  have hlength := harity record hmem
  generalize Record.fields record = fields at hlength ⊢
  show List.Forall₂ Reads (d.columns.map _) (d.columns.zipWith _ fields)
  generalize d.columns = columns at hlength ⊢
  induction columns generalizing fields with
  | nil => exact .nil
  | cons c columns ih =>
    cases fields with
    | nil => cases hlength
    | cons field fields => exact .cons ⟨field, rfl⟩ (ih fields (Nat.succ.inj hlength))

theorem Typed.join (hleft : left.Typed) (hright : right.Typed) (kind : JoinKind) (on : Condition) :
    (left.join kind right on).Typed := by
  intro row hrow
  cases joinedRow_of_mem hrow with
  | pair hl hr => exact List.rel_append (hleft _ hl) (hright _ hr)
  | leftAlone hl => exact List.rel_append (hleft _ hl) (reads_blankRow right.header)
  | rightAlone hr => exact List.rel_append (reads_blankRow left.header) (hright _ hr)

theorem Typed.filter (h : r.Typed) (conditions : List Condition) : (r.filter conditions).Typed :=
  fun row hrow => h row (List.mem_of_mem_filter hrow)

theorem Typed.cell {row : Row} {i : Nat} {column : HeaderColumn} (h : r.Typed) (hrow : row ∈ r.rows)
    (hcolumn : r.header[i]? = some column) : Reads column (row.cell i) := by
  have hreads := h row hrow
  obtain ⟨hi, rfl⟩ := List.getElem?_eq_some_iff.mp hcolumn
  have hi' : i < row.length := hreads.length_eq ▸ hi
  have hcell := hreads.get hi hi'
  rwa [Row.cell, List.getElem?_eq_getElem hi']

/-- Whether a column is one of integers, in which no value is null and no field was left unread. -/
structure HoldsIntegers (r : Relation) (i : Nat) : Prop where
  type : ∃ column, r.header[i]? = some column ∧ column.type = .int
  not_null : ∀ row ∈ r.rows, row.cell i ≠ .null
  not_text : ∀ row ∈ r.rows, ∀ raw, row.cell i ≠ .text raw

/-- The values of such a column are integers of 64 bits. -/
theorem HoldsIntegers.cells {i : Nat} (h : r.HoldsIntegers i) (htyped : r.Typed) :
    ∃ ns : List Int, r.rows.map (·.cell i) = ns.map .int ∧ ∀ n ∈ ns, Decimal.Fits n := by
  obtain ⟨⟨column, hcolumn, htype⟩, hnull, htext⟩ := h
  have hcells : ∀ v ∈ r.rows.map (·.cell i), ∃ n, Decimal.Fits n ∧ v = .int n := by
    intro v hv
    obtain ⟨row, hrow, rfl⟩ := List.mem_map.mp hv
    obtain ⟨raw, hraw⟩ := htyped.cell hrow hcolumn
    have hsource := Value.comesFrom_of_eq hraw
    rw [htype] at hsource
    generalize hv : row.cell i = v at hsource
    cases hsource with
    | null => exact absurd hv (hnull row hrow)
    | int hn => exact ⟨_, Decimal.integer?_bounds hn, rfl⟩
    | text raw => exact absurd hv (htext row hrow raw)
  generalize r.rows.map (·.cell i) = values at hcells
  induction values with
  | nil => exact ⟨[], rfl, nofun⟩
  | cons v values ih =>
    obtain ⟨n, hn, rfl⟩ := hcells v List.mem_cons_self
    obtain ⟨ns, rfl, hns⟩ := ih fun v hv => hcells v (List.mem_cons_of_mem _ hv)
    exact ⟨n :: ns, rfl, List.forall_mem_cons.mpr ⟨hn, hns⟩⟩

end Relation

namespace SelectRows
variable {view : Snapshot} {role : String} {joined : Relation} {q : SelectRows}

theorem lasting_typed : Lasting Relation.Typed where
  ofTable := Relation.typed_ofTable
  join := Relation.Typed.join

/-- The values of joined rows are ones that the types of their columns read. -/
theorem typed_source (h : q.source view role = .ok joined) : joined.Typed := by
  unfold source at h
  split at h
  · cases h
  · next rows hrows => exact lasting_typed.joinAll (lasting_typed.readTable hrows) h

end SelectRows

/-! ### Runs -/

namespace Relation

/-- Rows can be sorted by a column of integers, and then have them in the order of the nearest ones. -/
theorem sort_integers {r : Relation} {s : Sorting} {i : Nat} {ns : List Int}
    (hcolumn : first? r.header s.column = some i) (hcells : r.rows.map (·.cell i) = ns.map .int)
    (hns : ∀ n ∈ ns, Decimal.Fits n) :
    ∃ sorted, r.sort (some s) = .ok sorted ∧
      sorted.rows.map (·.cell i) = (sortNearest s.descending ns).map .int := by
  have hpreordered : Value.Preordered (r.rows.map (·.cell i)) := by
    rw [hcells]
    unfold Value.Preordered
    simp only [List.forall_mem_map]
    intro a ha b hb c hc hab hbc
    rw [Value.order_int (hns a ha) (hns b hb), compare_le_iff_le] at hab
    rw [Value.order_int (hns b hb) (hns c hc), compare_le_iff_le] at hbc
    rw [Value.order_int (hns a ha) (hns c hc), compare_le_iff_le]
    exact hab.trans hbc
  refine ⟨_, sort_of_preordered hcolumn hpreordered, ?_⟩
  have horder : ∀ a ∈ ns, ∀ b ∈ ns, Value.mayPrecede s.descending (.int a) (.int b) =
      leads s.descending (nearest a) (nearest b) := by
    intro a ha b hb
    unfold Value.mayPrecede leads
    rw [Value.order_int (hns b hb) (hns a ha), Value.order_int (hns a ha) (hns b hb)]
    have hle : ∀ x y : Int, (compare x y != .gt) = decide (x ≤ y) := fun x y => by
      rw [Bool.eq_iff_iff, bne_iff_ne, compare_le_iff_le, decide_eq_true_eq]
    rw [hle, hle]
  rw [List.map_mergeSort (s := Value.mayPrecede s.descending) fun _ _ _ _ => rfl, hcells, sortNearest]
  exact (List.map_mergeSort fun a ha b hb => (horder a ha b hb).symm).symm

end Relation

namespace Engine
variable {σ : Type} [Storage σ] {e : Engine σ} {caller : Caller} {q : SelectRows} {s : Sorting}
  {joined : Relation} {i : Nat}

/-- What a selection returns whose rows are sorted by a column of integers: the page of the filtered rows, put
in the order in which the integers nearest to theirs stand. -/
structure SortsNearest (e : Engine σ) (caller : Caller) (q : SelectRows) (s : Sorting) (joined : Relation)
    (i : Nat) (ns : List Int) (sorted : List Row) : Prop where
  run : (e.run caller (.select q)).1 = .ok (.rows ⟨q.heading joined.header, q.page
    (if q.selectsAll then sorted else sorted.map (Relation.project joined.header q.selections))⟩)
  perm : sorted.Perm (joined.filter q.conditions).rows
  cells : (joined.filter q.conditions).rows.map (·.cell i) = ns.map .int
  fits : ∀ n ∈ ns, Decimal.Fits n
  sorted_cells : sorted.map (·.cell i) = (sortNearest s.descending ns).map .int
  /-- They stand in order exactly if those that round alike did before. -/
  ordered_iff : (sortNearest s.descending ns).Pairwise (leads s.descending · · = true) ↔
    ns.Pairwise fun a b => nearest a = nearest b → leads s.descending a b = true
  /-- Integers of no more than 53 bits are sorted. -/
  ordered_of_le : (∀ n ∈ ns, n.natAbs ≤ 2 ^ 53) →
    (sortNearest s.descending ns).Pairwise (leads s.descending · · = true)

theorem sortsNearest (hplain : q.selections.any Selection.isAggregate = false) (hsorting : q.sorting = some s)
    (hsource : q.source (Storage.snapshot e.store caller.database) caller.role = .ok joined)
    (hcolumn : Relation.first? joined.header s.column = some i)
    (hcells : (joined.filter q.conditions).HoldsIntegers i) :
    ∃ ns sorted, e.SortsNearest caller q s joined i ns sorted := by
  obtain ⟨ns, hns, hfits⟩ := hcells.cells ((SelectRows.typed_source hsource).filter q.conditions)
  have hcolumn' : Relation.first? (joined.filter q.conditions).header s.column = some i := hcolumn
  obtain ⟨sorted, hsort, hcells⟩ := Relation.sort_integers hcolumn' hns hfits
  refine ⟨ns, sorted.rows, ?_, (Relation.arranged_sort hsort).perm, hns, hfits, hcells,
    pairwise_sortNearest_iff s.descending ns, pairwise_sortNearest_of_le⟩
  rw [run_select_eq, hsource]
  dsimp only
  rw [SelectRows.result_eq_page hplain, hsorting, hsort, Except.map, SelectRows.projected,
    (Relation.of_sort hsort).1]
  rfl

/-- **Integers are sorted by their nearest floats.** Sorting finds for two integers of 64 bits what comparing
finds exactly unless they are different and round alike. So a selection that is sorted by a column of integers,
none of them null, returns these in order, or in descending order, exactly if those that round alike stood so
before they were sorted. -/
theorem integers_sort_nearest (a b : Int) (e : Engine σ) (caller : Caller) (q : SelectRows) (s : Sorting)
    (joined : Relation) (i : Nat) :
    (Decimal.Fits a → Decimal.Fits b → Value.ComparesNearest a b) ∧
    (q.selections.any Selection.isAggregate = false → q.sorting = some s →
      q.source (Storage.snapshot e.store caller.database) caller.role = .ok joined →
      Relation.first? joined.header s.column = some i → (joined.filter q.conditions).HoldsIntegers i →
      ∃ ns sorted, e.SortsNearest caller q s joined i ns sorted) :=
  ⟨Value.comparesNearest, sortsNearest⟩

/-- Scores, one of which no float is equal to. -/
def scores : Memory where
  schemas := ⟨[(("kantor", "skor"), "ngaran:STRING|jumlah:INT\nuser=read\n")]⟩
  records := ⟨[(("kantor", "skor"), ["asep|12", "siti|-3", "", "oman|9007199254740993", "ujang|012"])]⟩

theorem integers_sort_nearest_scores :
    let caller : Caller := ⟨"asep", "user", "kantor"⟩
    let q : SelectRows := ⟨"skor", ["*"], [], [⟨"jumlah", .gt, "-9", none⟩], some ⟨"jumlah", true⟩, some 3, 0⟩
    let joined : Relation := ⟨[⟨"skor", "ngaran", .string⟩, ⟨"skor", "jumlah", .int⟩],
      [[.text "asep", .int 12], [.text "siti", .int (-3)], [.text "oman", .int 9007199254740993],
        [.text "ujang", .int 12]]⟩
    Value.ComparesNearest 9007199254740993 9007199254740992 ∧
      ∃ sorted, (ofStore scores).SortsNearest caller q ⟨"jumlah", true⟩ joined 1 [12, -3, 9007199254740993, 12]
          sorted ∧
        (sortNearest true [12, -3, 9007199254740993, 12]).Pairwise (leads true · · = true) := by
  intro caller q joined
  have hplain : q.selections.any Selection.isAggregate = false := by decide +kernel
  have hsource : q.source (Storage.snapshot scores "kantor") "user" = .ok joined := by decide +kernel
  have hrows : (joined.filter q.conditions).rows = joined.rows := by decide +kernel
  have hcells : (joined.filter q.conditions).HoldsIntegers 1 := by
    refine ⟨⟨⟨"skor", "jumlah", .int⟩, rfl, rfl⟩, ?_, ?_⟩ <;> rw [hrows] <;> simp [joined, Row.cell]
  obtain ⟨hcompares, hsorts⟩ := integers_sort_nearest 9007199254740993 9007199254740992 (ofStore scores) caller q
    ⟨"jumlah", true⟩ joined 1
  obtain ⟨ns, sorted, hsorted⟩ := hsorts hplain rfl hsource (by decide +kernel) hcells
  have hns : ns = [12, -3, 9007199254740993, 12] := by
    apply List.map_injective_iff.mpr fun a b h => Value.int.inj h
    rw [← hsorted.cells, hrows]
    rfl
  subst hns
  exact ⟨hcompares (by decide) (by decide), sorted, hsorted, hsorted.ordered_iff.mpr (by decide +kernel)⟩

/-- A table with two neighbours, the greater one first. -/
def neighbours : List (Caller × String) :=
  let caller : Caller := ⟨"asep", superRole, "kantor"⟩
  [(caller, "DAMEL t id:INT"), (caller, "SIMPEN t 9007199254740993"), (caller, "SIMPEN t 9007199254740992")]

/-- **Neighbours that round alike are told apart but not sorted.** -/
theorem neighbours_stay_unsorted :
    (Value.int 9007199254740993).compares .gt (.int 9007199254740992) = true ∧
      (Value.int 9007199254740993).order (.int 9007199254740992) = .eq ∧
      ((reached neighbours).execute ⟨"asep", superRole, "kantor"⟩ "TINGALI t RUNTUYKEUN id").1 =
        .ok (.rows ⟨["t.id"], [[.int 9007199254740993], [.int 9007199254740992]]⟩) :=
  ⟨by decide +kernel, by decide +kernel, by decide +kernel⟩

end Engine

end Leuit
