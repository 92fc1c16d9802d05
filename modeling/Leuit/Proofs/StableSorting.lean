import Leuit.Proofs.StableMerging
import Mathlib

/-! Sorting by a total preorder. Pivots part a list into what goes to either side of them
(`StableSort.sortParts_eq`), and runs are joined in the order in which they stand in the list
(`StableSort.sortRuns_eq`). So sorting by such a comparison does not fail, and it is merge sort
(`StableSort.sort_eq_mergeSort`). -/
namespace Leuit.StableSort
open scoped Function
variable {α κ : Type}

/-! ### Partition -/

section
variable {less : α → α → Bool} {xs : List α}

theorem median_lt {n a b c : Nat} (ha : a < n) (hb : b < n) (hc : c < n) : median less xs a b c < n := by
  unfold median
  dsimp only
  split
  · split <;> assumption
  · exact ha

/-- A median of elements lies where they are taken from: each is followed by so many more. -/
theorem medianOf_lt {m n a b c : Nat} (hn : 0 < n) (ha : a + n ≤ m) (hb : b + n ≤ m) (hc : c + n ≤ m) :
    medianOf less xs n a b c < m := by
  induction n using Nat.strong_induction_on generalizing a b c with
  | _ n ih =>
    rw [medianOf]
    split
    · have hlt : n / 8 < n := Nat.div_lt_self hn (by omega)
      have hnear {a : Nat} (ha : a + n ≤ m) :
          medianOf less xs (n / 8) a (a + n / 8 * 4) (a + n / 8 * 7) < m :=
        ih _ hlt (by omega) (by omega) (by omega) (by omega)
      exact median_lt (hnear ha) (hnear hb) (hnear hc)
    · exact median_lt (by omega) (by omega) (by omega)

theorem pivot_lt (less : α → α → Bool) {xs : List α} (hxs : shortest < xs.length) :
    pivot less xs < xs.length := by
  unfold shortest at hxs
  unfold pivot
  dsimp only
  split
  · exact median_lt (by omega) (by omega) (by omega)
  · exact medianOf_lt (by omega) (by omega) (by omega) (by omega)

end

/-- Parting what is around a pivot is parting the list, of which the pivot goes to its own side. -/
theorem filter_around (goes : α → Bool) {p : α} (hp : goes p = true) (before after : List α) :
    before.filter goes ++ p :: after.filter goes = (before ++ p :: after).filter goes := by
  rw [List.filter_append, List.filter_cons_of_pos hp]

theorem filter_beside (goes : α → Bool) {p : α} (hp : goes p = false) (before after : List α) :
    before.filter goes ++ after.filter goes = (before ++ p :: after).filter goes := by
  rw [List.filter_append, List.filter_cons_of_neg (by simp [hp])]

variable [LinearOrder κ] {key : α → κ}

theorem below_self (p : α) : below key p p = false := decide_eq_false (lt_irrefl _)

/-- The elements that are level with the least one come first, as they stand. -/
theorem sorted_of_least {p : α} {xs : List α} (hleast : ∀ x ∈ xs, key p ≤ key x) :
    xs.filter (!below key p ·) ++ sorted key (xs.filter (below key p)) = sorted key xs := by
  have hlevel : (xs.filter (!below key p ·)).Pairwise (key · ≤ key ·) := by
    rw [List.pairwise_filter]
    refine List.pairwise_of_forall_mem_list fun a _ b hb hap _ => ?_
    exact (not_below_eq_true.1 hap).trans (hleast b hb)
  have hparts : _ = sorted key xs := sorted_parts (fun k => !decide (key p < k)) ?_ xs
  · simp only [Bool.not_not] at hparts
    rw [← hparts, ← sorted_of_ordered hlevel]
    rfl
  · intro a b ha hb
    simp only [Bool.not_eq_true', decide_eq_false_iff_not, not_lt, Bool.not_eq_false',
      decide_eq_true_eq] at ha hb
    exact ha.trans hb.le

theorem sorted_around (p : α) (xs : List α) :
    sorted key (xs.filter (below key · p)) ++ sorted key (xs.filter (!below key · p)) = sorted key xs := by
  refine sorted_parts (fun k => decide (k < key p)) ?_ xs
  intro a b ha hb
  simp only [decide_eq_true_eq, decide_eq_false_iff_not, not_lt] at ha hb
  exact ha.le.trans hb

theorem sortParts_eq {otherwise : List α → Option (List α)}
    (hotherwise : ∀ xs, otherwise xs = some (sorted key xs)) {limit : Nat} {ancestor : Option α} {xs : List α}
    (hancestor : ∀ a, ancestor = some a → ∀ x ∈ xs, key a ≤ key x) :
    sortParts (below key) otherwise limit ancestor xs = some (sorted key xs) := by
  induction limit generalizing ancestor xs with
  | zero =>
    unfold sortParts
    rw [sortShort_eq, hotherwise]
    exact ite_self _
  | succ limit ih =>
    unfold sortParts
    rw [sortShort_eq, List.splitAt_eq]
    split
    · rfl
    next hlong =>
      have hpivot := pivot_lt (below key) (Nat.lt_of_not_le hlong)
      have hxs := List.take_append_drop (pivot (below key) xs) xs
      have hlength := List.length_drop (i := pivot (below key) xs) (l := xs)
      generalize xs.take _ = before at *
      generalize xs.drop _ = rest at *
      cases rest with
      | nil => simp at hlength; omega
      | cons p after =>
        dsimp only
        have hlevel : (!below key p p) = true := by rw [below_self]; rfl
        rw [filter_beside (below key · p) (below_self p), filter_beside (below key p) (below_self p),
          filter_around (!below key p ·) hlevel, filter_around (!below key · p) hlevel, hxs]
        split
        · next hleast =>
          have hleast : ∀ x ∈ xs, key p ≤ key x := by
            intro x hx
            rw [Bool.or_eq_true, Option.any_eq_true, List.isEmpty_iff, List.filter_eq_nil_iff] at hleast
            obtain ⟨a, ha, hap⟩ | hnone := hleast
            · exact (not_below_eq_true.1 hap).trans (hancestor a ha x hx)
            · exact not_lt.1 fun hlt => hnone x hx (below_eq_true.2 hlt)
          have hnone : ∀ a, none = some a → ∀ x ∈ xs.filter (below key p), key a ≤ key x := by
            intro a ha
            cases ha
          rw [ih hnone, Option.map_some, sorted_of_least hleast]
        · have hlow : ∀ a, ancestor = some a → ∀ x ∈ xs.filter (below key · p), key a ≤ key x :=
            fun a ha x hx => hancestor a ha x (List.mem_of_mem_filter hx)
          have hhigh : ∀ a, some p = some a → ∀ x ∈ xs.filter (!below key · p), key a ≤ key x := by
            intro a ha x hx
            cases ha
            exact not_below_eq_true.1 (List.mem_filter.1 hx).2
          rw [ih hlow, ih hhigh]
          exact congrArg some (sorted_around p xs)

/-! ### Runs -/

theorem isChain_goesOn (less : α → α → Bool) (falling : Bool) (last : α) (xs : List α) :
    (last :: xs.take (goesOn less falling last xs)).IsChain fun a b => less b a = falling := by
  induction xs generalizing last with
  | nil => exact .singleton last
  | cons x rest ih =>
    unfold goesOn
    split
    · next h =>
      rw [List.take_succ_cons, List.isChain_cons_cons]
      exact ⟨h, ih x⟩
    · exact .singleton last

theorem isChain_orderedStart (less : α → α → Bool) (xs : List α) :
    (xs.take (orderedStart less xs).1).IsChain fun a b => less b a = (orderedStart less xs).2 := by
  match xs with
  | [] => exact .nil
  | [a] => exact .singleton a
  | a :: b :: rest => exact (isChain_goesOn less (less b a) b rest).cons_cons rfl

theorem orderedStart_pos (less : α → α → Bool) {xs : List α} (h : xs ≠ []) : 0 < (orderedStart less xs).1 := by
  match xs with
  | [_] => exact Nat.one_pos
  | _ :: _ :: _ => exact Nat.succ_pos _

theorem ordered_of_isChain {xs : List α} (h : xs.IsChain fun a b => below key b a = false) :
    xs.Pairwise (key · ≤ key ·) := by
  have hkeys : (xs.map key).IsChain (· ≤ ·) :=
    (List.isChain_map key).2 (h.imp fun a b hab => not_lt.1 (of_decide_eq_false hab))
  exact List.pairwise_map.1 hkeys.pairwise

/-- A list that falls is sorted by turning it round, since no two of its elements are level. -/
theorem sorted_of_falling {xs : List α} (h : xs.IsChain fun a b => below key b a = true) :
    sorted key xs = xs.reverse := by
  have hkeys : (xs.map key).IsChain (· > ·) :=
    (List.isChain_map key).2 (h.imp fun a b hab => below_eq_true.1 hab)
  have hfalls : xs.Pairwise (key · > key ·) := List.pairwise_map.1 hkeys.pairwise
  refine (Sorts.eq ⟨List.pairwise_reverse.2 (hfalls.imp le_of_lt), fun k => ?_⟩).symm
  rw [List.filter_reverse]
  have hlevel : ∀ x ∈ xs.filter (key · = k), key x = k := by simp
  match hfound : xs.filter (key · = k), hlevel, hfalls.filter (key · = k) with
  | [], _, _ => rfl
  | [x], _, _ => rfl
  | x :: y :: _, hlevel, hfalls =>
    have hlt : key x > key y := List.rel_of_pairwise_cons hfalls List.mem_cons_self
    rw [hlevel x List.mem_cons_self, hlevel y (by simp)] at hlt
    exact absurd hlt (lt_irrefl k)

/-- A run for a part of a list: that part in order, or the part itself where runs may be sorted later. -/
inductive Run.Holds (key : α → κ) (later : Prop) : Run α → List α → Prop
  | inOrder (part : List α) : Holds key later ⟨sorted key part, true⟩ part
  | unsorted (h : later) (part : List α) : Holds key later ⟨part, false⟩ part

theorem firstRun_holds (key : α → κ) {later : Prop} {eager : Bool} (hlater : eager = false → later)
    (good : Nat) {xs : List α} (hxs : xs ≠ []) :
    ∃ run part rest, firstRun (below key) eager good xs = some (run, rest) ∧ run.Holds key later part ∧
      part ≠ [] ∧ part ++ rest = xs := by
  have htake {n : Nat} (hn : 0 < n) : xs.take n ≠ [] := by
    simpa [hxs] using hn.ne'
  have hpos := orderedStart_pos (below key) hxs
  have hchain := isChain_orderedStart (below key) xs
  unfold firstRun
  generalize orderedStart (below key) xs = start at *
  obtain ⟨n, falling⟩ := start
  dsimp only at *
  split
  · refine ⟨_, xs.take n, xs.drop n, rfl, ?_, htake hpos, List.take_append_drop ..⟩
    cases falling with
    | true =>
      rw [if_pos rfl, ← sorted_of_falling hchain]
      exact .inOrder _
    | false =>
      have h : Run.Holds key later _ (xs.take n) := .inOrder _
      rwa [sorted_of_ordered (ordered_of_isChain hchain)] at h
  · next hgood =>
    cases eager with
    | true =>
      rw [if_pos rfl, sortShort_eq]
      exact ⟨_, xs.take shortest, _, rfl, .inOrder _, htake (by decide), List.take_append_drop ..⟩
    | false =>
      exact ⟨_, xs.take good, _, rfl, .unsorted (hlater rfl) _, htake (by omega), List.take_append_drop ..⟩

theorem runs_holds (key : α → κ) {later : Prop} {eager : Bool} (hlater : eager = false → later)
    (good : Nat) {n : Nat} {xs : List α} (hn : xs.length ≤ n) :
    ∃ found parts, runs (below key) eager good n xs = some found ∧
      List.Forall₂ (Run.Holds key later) found parts ∧ parts.flatten = xs := by
  induction n generalizing xs with
  | zero =>
    cases List.length_eq_zero_iff.1 (Nat.le_zero.1 hn)
    exact ⟨[], [], rfl, .nil, rfl⟩
  | succ n ih =>
    cases xs with
    | nil => exact ⟨[], [], rfl, .nil, rfl⟩
    | cons x xs =>
      obtain ⟨run, part, rest, hfirst, hrun, hpart, happend⟩ :=
        firstRun_holds key hlater good (List.cons_ne_nil x xs)
      have hlength := congrArg List.length happend
      have hpos := List.length_pos_iff.2 hpart
      rw [List.length_append] at hlength
      have hrest : rest.length ≤ n := by
        rw [List.length_cons] at hlength hn
        omega
      obtain ⟨found, parts, hfound, hholds, hflatten⟩ := ih hrest
      refine ⟨run :: found, part :: parts, ?_, .cons hrun hholds, ?_⟩
      · unfold runs
        rw [hfirst, Option.bind_eq_bind, Option.bind_some]
        dsimp only
        rw [hfound]
        rfl
      · rw [List.flatten_cons, hflatten, happend]

/-! ### Joining runs -/

section
variable {later : Prop} {capacity : Nat} {sortAll : List α → Option (List α)}
  (hsort : later → ∀ xs, sortAll xs = some (sorted key xs))
include hsort

theorem Run.Holds.settle {run : Run α} {part : List α} (h : run.Holds key later part) :
    run.settle sortAll = some (sorted key part) := by
  cases h with
  | inOrder => rfl
  | unsorted hlater => exact hsort hlater part

theorem Run.Holds.join {left right : Run α} {a b : List α} (hleft : left.Holds key later a)
    (hright : right.Holds key later b) :
    ∃ joined, left.join (below key) capacity sortAll right = some joined ∧ joined.Holds key later (a ++ b) := by
  unfold Run.join
  split
  · next hunsorted =>
    simp only [Bool.and_eq_true, Bool.not_eq_true'] at hunsorted
    cases hleft with
    | inOrder => cases hunsorted.1.2
    | unsorted hlater =>
      cases hright with
      | inOrder => cases hunsorted.2
      | unsorted => exact ⟨_, rfl, .unsorted hlater _⟩
  · rw [hleft.settle hsort, hright.settle hsort]
    refine ⟨_, rfl, ?_⟩
    rw [merge_eq (ordered_sorted ..) (ordered_sorted ..), sorted_append_sorted]
    exact .inOrder _

theorem collapse_holds (depth : Nat) {waiting : List (Run α × Nat)} {parts : List (List α)} {run : Run α}
    {part : List α} (hwaiting : List.Forall₂ (fun w p => w.1.Holds key later p) waiting parts)
    (hrun : run.Holds key later part) :
    ∃ joined left parts' part', collapse (below key) capacity sortAll depth waiting run = some (joined, left) ∧
      List.Forall₂ (fun w p => w.1.Holds key later p) left parts' ∧ joined.Holds key later part' ∧
      parts'.reverse.flatten ++ part' = parts.reverse.flatten ++ part := by
  induction hwaiting generalizing run part with
  | nil => exact ⟨run, [], [], part, rfl, .nil, hrun, rfl⟩
  | cons hlast hwaiting ih =>
    unfold collapse
    split
    · obtain ⟨both, hboth, hholds⟩ := hlast.join hsort hrun
      obtain ⟨joined, left, parts', part', hcollapse, hleft, hjoined, hflatten⟩ := ih hholds
      refine ⟨joined, left, parts', part', ?_, hleft, hjoined, ?_⟩
      · rw [hboth]
        exact hcollapse
      · rw [hflatten]
        simp
    · exact ⟨run, _, _, part, rfl, .cons hlast hwaiting, hrun, rfl⟩

theorem joinAll_holds {length start : Nat} {waiting : List (Run α × Nat)} {parts : List (List α)}
    {run : Run α} {part : List α} {others : List (Run α)} {otherParts : List (List α)}
    (hwaiting : List.Forall₂ (fun w p => w.1.Holds key later p) waiting parts)
    (hrun : run.Holds key later part) (hothers : List.Forall₂ (Run.Holds key later) others otherParts) :
    ∃ joined, joinAll (below key) capacity sortAll length start waiting run others = some joined ∧
      joined.Holds key later (parts.reverse.flatten ++ part ++ otherParts.flatten) := by
  induction hothers generalizing start waiting parts run part with
  | nil =>
    obtain ⟨joined, left, parts', part', hcollapse, hleft, hjoined, hflatten⟩ :=
      collapse_holds hsort 0 hwaiting hrun
    cases collapse_zero hcollapse
    cases hleft
    refine ⟨joined, by rw [joinAll, hcollapse]; rfl, ?_⟩
    rw [← hflatten]
    simpa using hjoined
  | cons hnext hothers ih =>
    unfold joinAll
    obtain ⟨both, left, parts', part', hcollapse, hleft, hboth, hflatten⟩ :=
      collapse_holds hsort (depthOf length start _ _) hwaiting hrun
    dsimp only
    rw [hcollapse]
    obtain ⟨joined, hjoin, hjoined⟩ := ih (.cons (a := (both, _)) hboth hleft) hnext
    refine ⟨joined, hjoin, ?_⟩
    simpa [← hflatten] using hjoined

theorem sortRuns_eq {eager : Bool} (hlater : eager = false → later) (xs : List α) :
    sortRuns (below key) capacity sortAll eager xs = some (sorted key xs) := by
  obtain ⟨found, parts, hfound, hholds, hflatten⟩ :=
    runs_holds key hlater (goodLength xs.length) (le_refl xs.length)
  unfold sortRuns
  rw [hfound, Option.bind_eq_bind, Option.bind_some]
  cases hholds with
  | nil =>
    rw [← hflatten, List.flatten_nil, sorted_of_ordered .nil]
    rfl
  | cons hfirst hothers =>
    obtain ⟨joined, hjoin, hjoined⟩ := joinAll_holds hsort .nil hfirst hothers
    dsimp only
    rw [hjoin, Option.bind_eq_bind, Option.bind_some, hjoined.settle hsort, List.reverse_nil, List.flatten_nil,
      List.nil_append, ← List.flatten_cons, hflatten]

end

/-! ### Whole lists -/

theorem sortUnsorted_eq (key : α → κ) (xs : List α) : sortUnsorted (below key) xs = some (sorted key xs) :=
  have heager : true = false → False := nofun
  have hnone : ∀ a, none = some a → ∀ x ∈ xs, key a ≤ key x := nofun
  sortParts_eq (sortRuns_eq False.elim heager) hnone

theorem sort_eq (key : α → κ) (xs : List α) : sort (below key) xs = some (sorted key xs) := by
  unfold sort
  split
  · exact congrArg some (insertAll_eq .nil xs)
  · exact sortRuns_eq (fun _ : True => sortUnsorted_eq key) (fun _ => trivial) xs

/-! ### Total preorders -/

/-- Sorting compares nothing but members of the list. -/
theorem mergeSort_attach (before : α → α → Bool) (xs : List α) :
    xs.mergeSort before = (xs.attach.mergeSort fun a b => before a.1 b.1).map (·.1) := by
  rw [List.map_mergeSort (s := before) fun _ _ _ _ => rfl, List.attach_map_subtype_val]

section
variable {less : α → α → Bool} {xs : List α} (hasymm : ∀ a ∈ xs, ∀ b ∈ xs, less a b = true → less b a = false)
  (htrans : ∀ a ∈ xs, ∀ b ∈ xs, ∀ c ∈ xs, less b a = false → less c b = false → less c a = false)
include hasymm htrans

/-- In a total preorder, what is less has fewer elements below it. -/
theorem less_eq_below {a b : α} (ha : a ∈ xs) (hb : b ∈ xs) :
    less a b = below (fun a => xs.countP (less · a)) a b := by
  cases hab : less a b with
  | true =>
    have hself : less a a = false := by
      cases h : less a a with
      | true => exact h.symm.trans (hasymm a ha a ha h)
      | false => rfl
    have hbelow : ∀ x ∈ xs.filter (less · a), less x b = true := by
      intro x hx
      obtain ⟨hx, hxa⟩ := List.mem_filter.1 hx
      by_contra hxb
      rw [htrans a ha b hb x hx (hasymm a ha b hb hab) (Bool.eq_false_iff.2 hxb)] at hxa
      cases hxa
    have hmore : 0 < (xs.filter (!less · a)).countP (less · b) :=
      List.countP_pos_iff.2 ⟨a, List.mem_filter.2 ⟨ha, by rw [hself]; rfl⟩, hab⟩
    have hparts := List.countP_eq_countP_filter_add xs (less · b) (less · a)
    rw [List.countP_eq_length.2 hbelow, ← List.countP_eq_length_filter] at hparts
    symm
    rw [below_eq_true]
    omega
  | false =>
    symm
    rw [below, decide_eq_false_iff_not, not_lt]
    refine List.countP_mono_left fun x hx hxb => ?_
    by_contra hxa
    rw [htrans b hb a ha x hx hab (Bool.eq_false_iff.2 hxa)] at hxb
    cases hxb

/-- **Sorting by a total preorder is merge sort**, whatever the number of elements. -/
theorem sort_eq_mergeSort : sort less xs = some (xs.mergeSort fun a b => !less b a) := by
  let key (a : { a // a ∈ xs }) : Nat := xs.countP (less · a.1)
  have hkey : (less on Subtype.val) = below key := by
    funext a b
    exact less_eq_below hasymm htrans a.2 b.2
  have hbefore : (fun a b : { a // a ∈ xs } => !less b.1 a.1) = fun a b => decide (key a ≤ key b) := by
    funext a b
    rw [less_eq_below hasymm htrans b.2 a.2, below, ← decide_not]
    exact decide_eq_decide.2 not_lt
  rw [mergeSort_attach, hbefore]
  conv_lhs => rw [← List.attach_map_subtype_val xs]
  rw [sort_map, hkey, sort_eq]
  rfl

end

end Leuit.StableSort
