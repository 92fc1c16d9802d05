import Leuit.Relation.StableSort
import Mathlib

/-! Sorting by any comparison, be it an order or not. If it does not fail, the list it gives is a permutation of
the list it was given (`StableSort.sort_perm`). And it looks at elements only by comparing them: what is sorted by
a property of its elements is sorted as the properties are (`StableSort.sort_map`). Both hold of every step. -/
namespace Leuit.StableSort
open scoped Function
variable {α β : Type} {less : α → α → Bool}

/-! ### Short lists -/

theorem insertBack_perm (x : α) (back : List α) : (insertBack less x back).Perm (x :: back) := by
  induction back with
  | nil => exact .refl _
  | cons y rest ih =>
    unfold insertBack
    split
    · exact (ih.cons y).trans (.swap ..)
    · exact .refl _

theorem insertAll_perm (sorted xs : List α) : (insertAll less sorted xs).Perm (sorted ++ xs) := by
  have hfold : ∀ back : List α,
      (xs.foldl (fun back x => insertBack less x back) back).Perm (back ++ xs) := by
    induction xs with
    | nil => simp
    | cons x rest ih =>
      intro back
      rw [List.foldl_cons]
      refine (ih _).trans (((insertBack_perm x back).append_right rest).trans ?_)
      exact List.perm_middle.symm
  exact (List.reverse_perm _).trans ((hfold _).trans ((List.reverse_perm sorted).append_right xs))

theorem inOrder_perm (a b : α) : [(inOrder less a b).1, (inOrder less a b).2].Perm [a, b] := by
  unfold inOrder
  split
  · exact .swap a b []
  · exact .refl _

theorem mergePairs_perm (left right : α × α) :
    (mergePairs less left right).Perm [left.1, left.2, right.1, right.2] := by
  classical
  rw [List.perm_iff_count]
  intro x
  unfold mergePairs
  dsimp only
  repeat' split
  all_goals simp only [List.count_cons, List.count_nil] <;> omega

theorem sortFour_perm (a b c d : α) : (sortFour less a b c d).Perm [a, b, c, d] :=
  (mergePairs_perm _ _).trans ((inOrder_perm a b).append (inOrder_perm c d))

theorem sortHalf_perm (byFour : Bool) (xs : List α) : (sortHalf less byFour xs).Perm xs := by
  unfold sortHalf
  split
  · next a b c d rest =>
    exact (insertAll_perm ..).trans ((sortFour_perm a b c d).append_right rest)
  · exact insertAll_perm [] xs

/-- What is taken from two lists is what has gone from their starts. -/
theorem takeMerged_perm (takesLeft : α → α → Bool) (n : Nat) (left right : List α) :
    ∃ l r, left = l ++ (takeMerged takesLeft n left right).2.1 ∧
      right = r ++ (takeMerged takesLeft n left right).2.2 ∧
      (takeMerged takesLeft n left right).1.Perm (l ++ r) := by
  fun_induction takeMerged takesLeft n left right with
  | case1 n l left r right hless taken left' right' heq ih =>
    obtain ⟨ls, rs, hl, hr, hperm⟩ := ih
    simp only [heq] at hl hr hperm
    exact ⟨l :: ls, rs, by simp [hl], hr, hperm.cons l⟩
  | case2 n l left r right hless taken left' right' heq ih =>
    obtain ⟨ls, rs, hl, hr, hperm⟩ := ih
    simp only [heq] at hl hr hperm
    exact ⟨ls, r :: rs, hl, by simp [hr], (hperm.cons r).trans List.perm_middle.symm⟩
  | case3 => exact ⟨[], [], by simp⟩

/-- A list that is taken from at both of its ends, and from neither too much. -/
theorem eq_append_take_append {xs a b c d : List α} (hfront : xs = a ++ b) (hback : xs.reverse = c ++ d)
    (hlen : xs.length ≤ b.length + d.length) :
    xs = a ++ b.take (b.length + d.length - xs.length) ++ c.reverse := by
  have hend : xs = d.reverse ++ c.reverse := by
    rw [← List.reverse_append, ← hback, List.reverse_reverse]
  have hcount : xs.length = a.length + b.length := by rw [hfront, List.length_append]
  have hcount' : xs.length = d.length + c.length := by
    rw [hend, List.length_append, List.length_reverse, List.length_reverse]
  have htake : b.take (b.length + d.length - xs.length) = (xs.take d.length).drop a.length := by
    rw [List.drop_take, hfront, List.drop_left, List.length_append]
    congr 1
    omega
  have hlow : a = (xs.take d.length).take a.length := by
    rw [List.take_take, Nat.min_eq_left (by omega), hfront, List.take_left]
  have hhigh : c.reverse = xs.drop d.length := by
    have hlength : d.reverse.length = d.length := List.length_reverse
    rw [hend, ← hlength, List.drop_left]
  calc xs = xs.take d.length ++ xs.drop d.length := (List.take_append_drop ..).symm
    _ = (xs.take d.length).take a.length ++ (xs.take d.length).drop a.length ++ c.reverse := by
        rw [hhigh, List.take_append_drop a.length]
    _ = a ++ b.take (b.length + d.length - xs.length) ++ c.reverse := by rw [← hlow, htake]

theorem mergeHalves_perm {left right merged : List α} (h : mergeHalves less left right = some merged) :
    merged.Perm (left ++ right) := by
  classical
  obtain ⟨l₁, r₁, hleft₁, hright₁, hlow⟩ :=
    takeMerged_perm (fun l r => !less r l) left.length left right
  obtain ⟨l₂, r₂, hleft₂, hright₂, hhigh⟩ :=
    takeMerged_perm (fun l r => less r l) left.length left.reverse right.reverse
  unfold mergeHalves at h
  generalize takeMerged (fun l r => !less r l) left.length left right = front at *
  generalize takeMerged (fun l r => less r l) left.length left.reverse right.reverse = back at *
  simp only [Option.ite_none_right_eq_some, Option.some.injEq] at h
  obtain ⟨⟨hl, hr⟩, rfl⟩ := h
  have hleft := eq_append_take_append hleft₁ hleft₂ hl
  have hright := eq_append_take_append hright₁ hright₂ hr
  generalize front.2.1.take _ = restLeft at hleft ⊢
  generalize front.2.2.take _ = restRight at hright ⊢
  rw [hleft, hright]
  refine (((hlow.append_right restLeft).append_right restRight).append
    ((List.reverse_perm _).trans hhigh)).trans ?_
  rw [List.perm_iff_count]
  intro x
  simp only [List.count_append, List.count_reverse]
  omega

theorem sortShort_perm {xs ys : List α} (h : sortShort less xs = some ys) : ys.Perm xs := by
  unfold sortShort at h
  split at h
  · rw [← Option.some.inj h]
  · refine (mergeHalves_perm h).trans (((sortHalf_perm ..).append (sortHalf_perm ..)).trans ?_)
    rw [List.take_append_drop]

/-! ### Partition -/

/-- The elements that a partition puts before a pivot's others, and those it leaves. -/
theorem parted_perm (goes : α → Bool) (before after : List α) (p : α) :
    ((before.filter goes ++ after.filter goes) ++
      (before.filter (!goes ·) ++ p :: after.filter (!goes ·))).Perm (before ++ p :: after) := by
  classical
  rw [List.perm_iff_count]
  intro x
  have hbefore := (List.perm_iff_count.1 (List.filter_append_perm goes before)) x
  have hafter := (List.perm_iff_count.1 (List.filter_append_perm goes after)) x
  simp only [List.count_append, List.count_cons] at *
  omega

theorem sortParts_perm {otherwise : List α → Option (List α)}
    (hotherwise : ∀ xs ys, otherwise xs = some ys → ys.Perm xs) {limit : Nat} {ancestor : Option α}
    {xs ys : List α} (h : sortParts less otherwise limit ancestor xs = some ys) : ys.Perm xs := by
  induction limit generalizing ancestor xs ys with
  | zero =>
    unfold sortParts at h
    split at h
    · exact sortShort_perm h
    · exact hotherwise _ _ h
  | succ limit ih =>
    unfold sortParts at h
    split at h
    · exact sortShort_perm h
    rw [List.splitAt_eq] at h
    have hxs := List.take_append_drop (pivot less xs) xs
    generalize List.take (pivot less xs) xs = before at h hxs
    generalize List.drop (pivot less xs) xs = rest at h hxs
    cases rest with
    | nil => cases h
    | cons p after =>
      subst hxs
      dsimp only at h
      split at h
      · obtain ⟨above, habove, rfl⟩ := Option.map_eq_some_iff.1 h
        have hparted := parted_perm (less p) before after p
        exact ((ih habove).append_left _).trans (List.perm_append_comm.trans hparted)
      · simp only [Option.bind_eq_bind, Option.bind_eq_some_iff, Option.pure_def,
          Option.some.injEq] at h
        obtain ⟨high, hhigh, low, hlow, rfl⟩ := h
        exact ((ih hlow).append (ih hhigh)).trans (parted_perm (less · p) before after p)

/-! ### Runs -/

theorem firstRun_perm {eager : Bool} {good : Nat} {xs rest : List α} {run : Run α}
    (h : firstRun less eager good xs = some (run, rest)) : (run.items ++ rest).Perm xs := by
  unfold firstRun at h
  dsimp only at h
  split at h
  · cases h
    dsimp only
    split
    · refine ((List.reverse_perm _).append_right _).trans ?_
      rw [List.take_append_drop]
    · rw [List.take_append_drop]
  split at h
  · obtain ⟨items, hitems, hrun⟩ := Option.map_eq_some_iff.1 h
    cases hrun
    refine ((sortShort_perm hitems).append_right _).trans ?_
    rw [List.take_append_drop]
  · cases h
    rw [List.take_append_drop]

theorem runs_perm {eager : Bool} {good n : Nat} {xs : List α} {found : List (Run α)}
    (h : runs less eager good n xs = some found) : (found.flatMap Run.items).Perm xs := by
  induction n generalizing xs found with
  | zero =>
    cases xs with
    | nil => cases h; exact .refl _
    | cons x rest => cases h
  | succ n ih =>
    cases xs with
    | nil => cases h; exact .refl _
    | cons x rest =>
      unfold runs at h
      simp only [Option.bind_eq_bind, Option.bind_eq_some_iff, Option.pure_def, Option.some.injEq] at h
      obtain ⟨⟨run, rest⟩, hfirst, others, hothers, rfl⟩ := h
      rw [List.flatMap_cons]
      exact ((ih hothers).append_left _).trans (firstRun_perm hfirst)

/-! ### Merging runs -/

theorem merge_perm (left right : List α) : (merge less left right).Perm (left ++ right) := by
  unfold merge
  split
  · exact List.merge_perm_append _
  · refine (List.reverse_perm _).trans ((List.merge_perm_append _).trans ?_)
    exact ((List.reverse_perm _).append (List.reverse_perm _)).trans List.perm_append_comm

section
variable {capacity : Nat} {sortAll : List α → Option (List α)}
  (hsort : ∀ xs ys, sortAll xs = some ys → ys.Perm xs)
include hsort

theorem Run.settle_perm {run : Run α} {ys : List α} (h : run.settle sortAll = some ys) :
    ys.Perm run.items := by
  unfold Run.settle at h
  split at h
  · cases h
    exact .refl _
  · exact hsort _ _ h

theorem Run.join_perm {left right joined : Run α} (h : left.join less capacity sortAll right = some joined) :
    joined.items.Perm (left.items ++ right.items) := by
  unfold Run.join at h
  split at h
  · cases h
    exact .refl _
  · simp only [Option.bind_eq_bind, Option.bind_eq_some_iff, Option.pure_def, Option.some.injEq] at h
    obtain ⟨ls, hleft, rs, hright, rfl⟩ := h
    exact (merge_perm ls rs).trans ((settle_perm hsort hleft).append (settle_perm hsort hright))

theorem collapse_perm {depth : Nat} {waiting left : List (Run α × Nat)} {run joined : Run α}
    (h : collapse less capacity sortAll depth waiting run = some (joined, left)) :
    (left.flatMap (·.1.items) ++ joined.items).Perm (waiting.flatMap (·.1.items) ++ run.items) := by
  induction waiting generalizing run with
  | nil => cases h; exact .refl _
  | cons last waiting ih =>
    unfold collapse at h
    split at h
    · simp only [Option.bind_eq_bind, Option.bind_eq_some_iff] at h
      obtain ⟨both, hboth, hrest⟩ := h
      refine (ih hrest).trans (((Run.join_perm hsort hboth).append_left _).trans ?_)
      rw [List.flatMap_cons, List.append_assoc, ← List.append_assoc, ← List.append_assoc]
      exact List.perm_append_comm.append_right _
    · cases h
      exact .refl _

omit hsort in
/-- Nothing waits at no depth. -/
theorem collapse_zero {waiting left : List (Run α × Nat)} {run joined : Run α}
    (h : collapse less capacity sortAll 0 waiting run = some (joined, left)) : left = [] := by
  induction waiting generalizing run with
  | nil => cases h; rfl
  | cons last waiting ih =>
    unfold collapse at h
    simp only [Nat.zero_le, if_true, Option.bind_eq_bind, Option.bind_eq_some_iff] at h
    obtain ⟨both, _, hrest⟩ := h
    exact ih hrest

theorem joinAll_perm {length start : Nat} {waiting : List (Run α × Nat)} {run joined : Run α}
    {others : List (Run α)}
    (h : joinAll less capacity sortAll length start waiting run others = some joined) :
    joined.items.Perm (waiting.flatMap (·.1.items) ++ run.items ++ others.flatMap Run.items) := by
  induction others generalizing start waiting run with
  | nil =>
    unfold joinAll at h
    obtain ⟨⟨all, left⟩, hall, rfl⟩ := Option.map_eq_some_iff.1 h
    cases collapse_zero hall
    simpa using collapse_perm hsort hall
  | cons next others ih =>
    unfold joinAll at h
    simp only [Option.bind_eq_bind, Option.bind_eq_some_iff] at h
    obtain ⟨⟨both, left⟩, hboth, hrest⟩ := h
    have hperm := (List.perm_append_comm.trans (collapse_perm hsort hboth)).append_right
      (next.items ++ others.flatMap Run.items)
    refine (ih hrest).trans ?_
    simpa only [List.flatMap_cons, List.append_assoc] using hperm

theorem sortRuns_perm {eager : Bool} {xs ys : List α}
    (h : sortRuns less capacity sortAll eager xs = some ys) : ys.Perm xs := by
  unfold sortRuns at h
  simp only [Option.bind_eq_bind, Option.bind_eq_some_iff] at h
  obtain ⟨found, hruns, h⟩ := h
  cases found with
  | nil =>
    cases h
    exact runs_perm hruns
  | cons first others =>
    simp only [Option.bind_eq_some_iff] at h
    obtain ⟨joined, hjoined, hsettle⟩ := h
    exact (Run.settle_perm hsort hsettle).trans ((joinAll_perm hsort hjoined).trans (runs_perm hruns))

end

/-! ### Whole lists -/

theorem sortUnsorted_perm {xs ys : List α} (h : sortUnsorted less xs = some ys) : ys.Perm xs :=
  sortParts_perm (fun _ _ hys => sortRuns_perm (fun _ _ h => by cases h; exact .refl _) hys) h

/-- Whatever the comparison, sorting neither drops nor doubles an element. -/
theorem sort_perm {xs ys : List α} (h : sort less xs = some ys) : ys.Perm xs := by
  unfold sort at h
  split at h
  · cases h
    exact insertAll_perm [] xs
  · exact sortRuns_perm (fun _ _ => sortUnsorted_perm) h

/-- Insertion never fails, so if sorting does, there are many elements. -/
theorem insertable_lt_of_sort_eq_none {xs : List α} (h : sort less xs = none) : insertable < xs.length := by
  unfold sort at h
  split at h
  · cases h
  · next hlong => exact Nat.lt_of_not_le hlong

/-! ### Elements and what they are compared by -/

section
variable (f : α → β) {less : β → β → Bool}

theorem insertBack_map (x : α) (back : List α) :
    insertBack less (f x) (back.map f) = (insertBack (less on f) x back).map f := by
  induction back with
  | nil => rfl
  | cons y rest ih =>
    simp only [List.map_cons, insertBack, ih]
    split <;> rfl

theorem insertAll_map (sorted xs : List α) :
    insertAll less (sorted.map f) (xs.map f) = (insertAll (less on f) sorted xs).map f := by
  have hfold : ∀ back : List α, (xs.map f).foldl (fun back x => insertBack less x back) (back.map f) =
      (xs.foldl (fun back x => insertBack (less on f) x back) back).map f := by
    induction xs with
    | nil => intro back; rfl
    | cons x rest ih =>
      intro back
      rw [List.map_cons, List.foldl_cons, insertBack_map, ih, List.foldl_cons]
  simp only [insertAll, ← List.map_reverse, hfold]

theorem inOrder_map (a b : α) :
    inOrder less (f a) (f b) = (inOrder (less on f) a b).map f f := by
  unfold inOrder
  split <;> rfl

theorem mergePairs_map (left right : α × α) :
    mergePairs less (left.map f f) (right.map f f) = (mergePairs (less on f) left right).map f := by
  simp only [mergePairs, Prod.map, Function.onFun, apply_ite f, apply_ite (List.map f), List.map_cons,
    List.map_nil]

theorem sortFour_map (a b c d : α) :
    sortFour less (f a) (f b) (f c) (f d) = (sortFour (less on f) a b c d).map f := by
  simp only [sortFour, inOrder_map, mergePairs_map]

theorem sortHalf_map (byFour : Bool) (xs : List α) :
    sortHalf less byFour (xs.map f) = (sortHalf (less on f) byFour xs).map f := by
  match byFour, xs with
  | true, a :: b :: c :: d :: rest =>
    simp only [List.map_cons, sortHalf, sortFour_map, insertAll_map]
  | false, xs => exact insertAll_map f [] xs
  | true, [] => exact insertAll_map f [] []
  | true, [a] => exact insertAll_map f [] [a]
  | true, [a, b] => exact insertAll_map f [] [a, b]
  | true, [a, b, c] => exact insertAll_map f [] [a, b, c]

theorem takeMerged_map (takesLeft : β → β → Bool) (n : Nat) (left right : List α) :
    takeMerged takesLeft n (left.map f) (right.map f) =
      ((takeMerged (takesLeft on f) n left right).1.map f,
        (takeMerged (takesLeft on f) n left right).2.1.map f,
        (takeMerged (takesLeft on f) n left right).2.2.map f) := by
  induction n generalizing left right with
  | zero => simp only [takeMerged, List.map_nil]
  | succ n ih =>
    match left, right with
    | [], _ => simp only [takeMerged, List.map_nil]
    | _ :: _, [] => simp only [takeMerged, List.map_nil, List.map_cons]
    | l :: left, r :: right =>
      have ihl := ih left (r :: right)
      have ihr := ih (l :: left) right
      rw [List.map_cons] at ihl ihr
      simp only [List.map_cons, takeMerged, ihl, ihr]
      split <;> rfl

theorem mergeHalves_map (left right : List α) :
    mergeHalves less (left.map f) (right.map f) =
      (mergeHalves (less on f) left right).map (List.map f) := by
  unfold mergeHalves
  simp only [← List.map_reverse, List.length_map, takeMerged_map, ← List.map_take, ← List.map_append]
  split <;> rfl

theorem sortShort_map (xs : List α) :
    sortShort less (xs.map f) = (sortShort (less on f) xs).map (List.map f) := by
  unfold sortShort
  rw [List.length_map]
  split
  · rfl
  · simp only [← List.map_take, ← List.map_drop, sortHalf_map, mergeHalves_map]

theorem lessAt_map (xs : List α) (i j : Nat) : lessAt less (xs.map f) i j = lessAt (less on f) xs i j := by
  unfold lessAt
  simp only [List.getElem?_map]
  cases xs[i]? <;> cases xs[j]? <;> rfl

theorem median_map (xs : List α) (a b c : Nat) :
    median less (xs.map f) a b c = median (less on f) xs a b c := by
  simp only [median, lessAt_map]

theorem medianOf_map (xs : List α) (n a b c : Nat) :
    medianOf less (xs.map f) n a b c = medianOf (less on f) xs n a b c := by
  induction n using Nat.strong_induction_on generalizing a b c with
  | _ n ih =>
    rw [medianOf, medianOf]
    split
    · have hlt : n / 8 < n := Nat.div_lt_self (by omega) (by omega)
      simp only [ih _ hlt, median_map]
    · rw [median_map]

theorem pivot_map (xs : List α) : pivot less (xs.map f) = pivot (less on f) xs := by
  simp only [pivot, List.length_map, median_map, medianOf_map]

theorem sortParts_map {otherwise : List β → Option (List β)} {otherwise' : List α → Option (List α)}
    (hotherwise : ∀ xs, otherwise (xs.map f) = (otherwise' xs).map (List.map f)) (limit : Nat)
    (ancestor : Option α) (xs : List α) :
    sortParts less otherwise limit (ancestor.map f) (xs.map f) =
      (sortParts (less on f) otherwise' limit ancestor xs).map (List.map f) := by
  induction limit generalizing ancestor xs with
  | zero =>
    unfold sortParts
    rw [List.length_map, sortShort_map, hotherwise]
    split <;> rfl
  | succ limit ih =>
    unfold sortParts
    rw [List.length_map, sortShort_map, pivot_map, List.splitAt_eq, List.splitAt_eq, ← List.map_take,
      ← List.map_drop]
    split
    · rfl
    cases List.drop (pivot (less on f) xs) xs with
    | nil => rfl
    | cons p after =>
      generalize List.take (pivot (less on f) xs) xs = before
      have habove := ih none (before.filter (fun x => less (f p) (f x)) ++
        after.filter fun x => less (f p) (f x))
      have hhigh := ih (some p) (before.filter (fun x => !less (f x) (f p)) ++
        p :: after.filter fun x => !less (f x) (f p))
      simp only [Option.map_some, Option.map_none, List.map_append, List.map_cons] at habove hhigh
      simp only [List.map_cons, List.filter_map, ← List.map_append, Option.any_map, List.isEmpty_map, ih,
        Function.comp_def, Function.onFun] at habove hhigh ⊢
      split
      · simp only [Option.map_map, Function.comp_def, List.map_append, List.map_cons] at habove ⊢
        rw [habove, Option.map_map]
        rfl
      · simp only [hhigh, Option.bind_eq_bind, Option.bind_map, Option.map_bind, Function.comp_def,
          Option.pure_def, Option.map_some, List.map_append]

theorem goesOn_map (falling : Bool) (last : α) (xs : List α) :
    goesOn less falling (f last) (xs.map f) = goesOn (less on f) falling last xs := by
  induction xs generalizing last with
  | nil => rfl
  | cons x rest ih => simp only [List.map_cons, goesOn, ih]

theorem orderedStart_map (xs : List α) : orderedStart less (xs.map f) = orderedStart (less on f) xs := by
  match xs with
  | [] => rfl
  | [_] => rfl
  | a :: b :: rest => simp only [List.map_cons, orderedStart, goesOn_map]

def Run.map (run : Run α) : Run β := ⟨run.items.map f, run.isSorted⟩

theorem firstRun_map (eager : Bool) (good : Nat) (xs : List α) :
    firstRun less eager good (xs.map f) =
      (firstRun (less on f) eager good xs).map (Prod.map (Run.map f) (List.map f)) := by
  unfold firstRun
  simp only [orderedStart_map, ← List.map_take, ← List.map_drop, sortShort_map, ← List.map_reverse]
  split
  · split <;> rfl
  split
  · simp only [Option.map_map]; rfl
  · rfl

theorem runs_map (eager : Bool) (good n : Nat) (xs : List α) :
    runs less eager good n (xs.map f) = (runs (less on f) eager good n xs).map (List.map (Run.map f)) := by
  induction n generalizing xs with
  | zero => cases xs <;> rfl
  | succ n ih =>
    cases xs with
    | nil => rfl
    | cons x rest =>
      rw [List.map_cons]
      unfold runs
      rw [← List.map_cons, firstRun_map]
      cases firstRun (less on f) eager good (x :: rest) with
      | none => rfl
      | some first =>
        simp only [Option.map_some, Prod.map, Option.bind_eq_bind, Option.bind_some, ih, Option.bind_map,
          Option.map_bind, Function.comp_def, Option.pure_def, List.map_cons]

theorem merge_map (left right : List α) :
    merge less (left.map f) (right.map f) = (merge (less on f) left right).map f := by
  have hmerge (s : β → β → Bool) (l r : List α) : (l.map f).merge (r.map f) s = (l.merge r (s on f)).map f :=
    (List.map_merge (f := f) (s := s) fun _ _ _ _ => rfl).symm
  unfold merge
  simp only [List.length_map, ← List.map_reverse, hmerge]
  split <;> rfl

section
variable {capacity : Nat} {sortAll : List β → Option (List β)} {sortAll' : List α → Option (List α)}
  (hsort : ∀ xs, sortAll (xs.map f) = (sortAll' xs).map (List.map f))
include hsort

theorem Run.settle_map (run : Run α) :
    (run.map f).settle sortAll = (run.settle sortAll').map (List.map f) := by
  unfold Run.settle Run.map
  rw [hsort]
  split <;> rfl

theorem Run.join_map (left right : Run α) : (left.map f).join less capacity sortAll (right.map f) =
    (left.join (less on f) capacity sortAll' right).map (Run.map f) := by
  unfold Run.join
  rw [settle_map f hsort, settle_map f hsort]
  simp only [Run.map, List.length_map]
  split
  · simp only [Option.map_some, Run.map, List.map_append]
  · simp only [Option.bind_eq_bind, Option.bind_map, Option.map_bind, Function.comp_def, Option.pure_def,
      Option.map_some, merge_map, Run.map]

theorem collapse_map (depth : Nat) (waiting : List (Run α × Nat)) (run : Run α) :
    collapse less capacity sortAll depth (waiting.map (Prod.map (Run.map f) id)) (run.map f) =
      (collapse (less on f) capacity sortAll' depth waiting run).map
        (Prod.map (Run.map f) (List.map (Prod.map (Run.map f) id))) := by
  induction waiting generalizing run with
  | nil => rfl
  | cons last waiting ih =>
    simp only [List.map_cons, Prod.map, collapse, id, Run.join_map f hsort]
    split
    · simp only [Option.bind_eq_bind, Option.bind_map, Option.map_bind, Function.comp_def, ih]
    · rfl

theorem joinAll_map (length start : Nat) (waiting : List (Run α × Nat)) (run : Run α)
    (others : List (Run α)) :
    joinAll less capacity sortAll length start (waiting.map (Prod.map (Run.map f) id)) (run.map f)
        (others.map (Run.map f)) =
      (joinAll (less on f) capacity sortAll' length start waiting run others).map (Run.map f) := by
  induction others generalizing start waiting run with
  | nil =>
    simp only [List.map_nil, joinAll, collapse_map f hsort, Option.map_map]
    rfl
  | cons next others ih =>
    have hlength (r : Run α) : (r.map f).items.length = r.items.length := List.length_map f
    simp only [List.map_cons, joinAll, hlength, collapse_map f hsort]
    simp only [Option.bind_eq_bind, Option.bind_map, Option.map_bind, Function.comp_def]
    congr 1
    funext joined
    exact ih _ ((joined.1, _) :: joined.2) next

theorem sortRuns_map (eager : Bool) (xs : List α) : sortRuns less capacity sortAll eager (xs.map f) =
    (sortRuns (less on f) capacity sortAll' eager xs).map (List.map f) := by
  unfold sortRuns
  rw [List.length_map, runs_map]
  cases runs (less on f) eager (goodLength xs.length) xs.length xs with
  | none => rfl
  | some found =>
    cases found with
    | nil => rfl
    | cons first others =>
      simp only [Option.map_some, Option.bind_eq_bind, Option.bind_some, List.map_cons]
      rw [← List.map_nil, joinAll_map f hsort, Option.bind_map, Option.map_bind]
      congr 1
      funext joined
      exact Run.settle_map f hsort joined

end

theorem sortUnsorted_map (xs : List α) :
    sortUnsorted less (xs.map f) = (sortUnsorted (less on f) xs).map (List.map f) := by
  unfold sortUnsorted
  rw [List.length_map, ← sortParts_map f fun _ => sortRuns_map f (fun _ => rfl) true _]
  rfl

/-- Sorting looks at elements only by comparing them. -/
theorem sort_map (xs : List α) : sort less (xs.map f) = (sort (less on f) xs).map (List.map f) := by
  unfold sort
  rw [List.length_map]
  split
  · exact congrArg some (insertAll_map f [] xs)
  · exact sortRuns_map f (sortUnsorted_map f) _ xs

end

end Leuit.StableSort
