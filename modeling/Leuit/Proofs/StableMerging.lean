import Leuit.Proofs.AnyComparison
import Mathlib

/-! Merging by a linear order of keys. There is one list that has the elements of another in order and leaves
those alone that are level (`StableSort.Sorts.unique`). Merging gives it for two sorted lists, from the start and
from the end (`StableSort.merge_eq`); so merges of two halves from both of their ends meet, and short lists are
sorted (`StableSort.sortShort_eq`). -/
namespace Leuit

/-- Sorting leaves alone what may stand in any order: such members follow each other as they did. -/
theorem filter_mergeSort {α : Type} {before : α → α → Bool} {p : α → Bool}
    (htotal : ∀ a b, (before a b || before b a) = true)
    (htrans : ∀ a b c, before a b = true → before b c = true → before a c = true)
    (hp : ∀ a b, p a = true → p b = true → before a b = true) (xs : List α) :
    (xs.mergeSort before).filter p = xs.filter p := by
  -- Those members are in order as they stand, so they are a sublist of the sorted list too, which has no more.
  have hlevel : (xs.filter p).Pairwise fun a b => before a b = true :=
    List.pairwise_filter.mpr (List.pairwise_of_forall fun a b ha hb => hp a b ha hb)
  have hsub : (xs.filter p).Sublist ((xs.mergeSort before).filter p) := by
    simpa using (List.sublist_mergeSort htrans htotal hlevel List.filter_sublist).filter p
  exact (hsub.eq_of_length ((List.mergeSort_perm xs before).filter p).length_eq.symm).symm

open scoped Function

namespace StableSort
variable {α κ : Type} [LinearOrder κ]

/-! ### Elements and their keys -/

/-- Whether the key of an element is less. -/
def below (key : α → κ) (a b : α) : Bool := decide (key a < key b)

/-- The elements in order of their keys. -/
def sorted (key : α → κ) (xs : List α) : List α := xs.mergeSort fun a b => decide (key a ≤ key b)

variable {key : α → κ} {xs ys zs : List α}

@[simp] theorem below_eq_true {a b : α} : below key a b = true ↔ key a < key b := decide_eq_true_iff

@[simp] theorem not_below_eq_true {a b : α} : (!below key a b) = true ↔ key b ≤ key a := by
  rw [Bool.not_eq_true', below, decide_eq_false_iff_not, not_lt]

/-- The elements of a list in order of their keys, each key's elements in the order of the list. -/
structure Sorts (key : α → κ) (xs ys : List α) : Prop where
  ordered : ys.Pairwise (key · ≤ key ·)
  kept : ∀ k, ys.filter (key · = k) = xs.filter (key · = k)

/-- Of two sorted lists with the same elements for each key, neither can start before the other. -/
theorem Sorts.key_le {x y : α} (hx : Sorts key xs (x :: ys)) (hy : Sorts key xs (y :: zs)) : key x ≤ key y := by
  have hmem : y ∈ (x :: ys).filter (key · = key y) := by
    rw [hx.kept, ← hy.kept, List.filter_cons_of_pos (by simp)]
    exact List.mem_cons_self
  obtain rfl | hmem := List.mem_cons.1 (List.mem_of_mem_filter hmem)
  · exact le_rfl
  · exact List.rel_of_pairwise_cons hx.ordered hmem

theorem Sorts.unique (hys : Sorts key xs ys) (hzs : Sorts key xs zs) : ys = zs := by
  induction ys generalizing xs zs with
  | nil =>
    cases zs with
    | nil => rfl
    | cons z zs =>
      have h := (hys.kept (key z)).trans (hzs.kept (key z)).symm
      simp at h
  | cons y ys ih =>
    cases zs with
    | nil =>
      have h := (hys.kept (key y)).trans (hzs.kept (key y)).symm
      simp at h
    | cons z zs =>
      have hkey : key z = key y := le_antisymm (hzs.key_le hys) (hys.key_le hzs)
      have hkept (k : κ) := (hys.kept k).trans (hzs.kept k).symm
      have hhead := hkept (key y)
      rw [List.filter_cons_of_pos (by simp), List.filter_cons_of_pos (by simpa using hkey)] at hhead
      obtain ⟨rfl, -⟩ := List.cons.inj hhead
      have hrest : ys = zs := by
        have htail : Sorts key ys ys := ⟨hys.ordered.tail, fun _ => rfl⟩
        refine ih htail ⟨hzs.ordered.tail, fun k => ?_⟩
        have h := hkept k
        by_cases hk : key y = k
        · rw [List.filter_cons_of_pos (by simpa using hk), List.filter_cons_of_pos (by simpa using hk)] at h
          exact (List.cons.inj h).2.symm
        · rw [List.filter_cons_of_neg (by simpa using hk), List.filter_cons_of_neg (by simpa using hk)] at h
          exact h.symm
      rw [hrest]

theorem sorts_sorted (key : α → κ) (xs : List α) : Sorts key xs (sorted key xs) := by
  have htotal (a b : α) : (decide (key a ≤ key b) || decide (key b ≤ key a)) = true := by
    simpa using le_total (key a) (key b)
  have htrans (a b c : α) (hab : decide (key a ≤ key b) = true) (hbc : decide (key b ≤ key c) = true) :
      decide (key a ≤ key c) = true :=
    decide_eq_true ((of_decide_eq_true hab).trans (of_decide_eq_true hbc))
  refine ⟨(List.pairwise_mergeSort htrans htotal xs).imp of_decide_eq_true, fun k => ?_⟩
  apply filter_mergeSort htotal htrans
  intro a b ha hb
  simp only [decide_eq_true_eq] at ha hb ⊢
  rw [ha, hb]

theorem Sorts.eq (h : Sorts key xs ys) : ys = sorted key xs := h.unique (sorts_sorted key xs)

theorem sorted_of_ordered (h : xs.Pairwise (key · ≤ key ·)) : sorted key xs = xs :=
  (Sorts.eq ⟨h, fun _ => rfl⟩).symm

/-- It depends only on the elements of each key what a list is sorted to. -/
theorem sorted_congr (h : ∀ k, ys.filter (key · = k) = xs.filter (key · = k)) :
    sorted key ys = sorted key xs :=
  Sorts.eq ⟨(sorts_sorted key ys).ordered, fun k => ((sorts_sorted key ys).kept k).trans (h k)⟩

theorem perm_sorted (key : α → κ) (xs : List α) : (sorted key xs).Perm xs := List.mergeSort_perm ..

@[simp] theorem length_sorted : (sorted key xs).length = xs.length := (perm_sorted key xs).length_eq

@[simp] theorem mem_sorted {x : α} : x ∈ sorted key xs ↔ x ∈ xs := (perm_sorted key xs).mem_iff

theorem ordered_sorted (key : α → κ) (xs : List α) : (sorted key xs).Pairwise (key · ≤ key ·) :=
  (sorts_sorted key xs).ordered

theorem sorted_append_sorted (key : α → κ) (xs ys : List α) :
    sorted key (sorted key xs ++ sorted key ys) = sorted key (xs ++ ys) := by
  apply sorted_congr
  intro k
  rw [List.filter_append, List.filter_append, (sorts_sorted key xs).kept, (sorts_sorted key ys).kept]

theorem sorted_sorted_append (key : α → κ) (xs ys : List α) :
    sorted key (sorted key xs ++ ys) = sorted key (xs ++ ys) := by
  apply sorted_congr
  intro k
  rw [List.filter_append, List.filter_append, (sorts_sorted key xs).kept]

/-- A list whose keys a property parts, those that have it being the smaller ones, can be sorted in two parts. -/
theorem sorted_parts (goes : κ → Bool) (h : ∀ a b, goes a = true → goes b = false → a ≤ b) (xs : List α) :
    sorted key (xs.filter fun x => goes (key x)) ++ sorted key (xs.filter fun x => !goes (key x)) =
      sorted key xs := by
  refine Sorts.eq ⟨?_, fun k => ?_⟩
  · rw [List.pairwise_append]
    refine ⟨ordered_sorted .., ordered_sorted .., fun a ha b hb => ?_⟩
    simp only [mem_sorted, List.mem_filter, Bool.not_eq_true'] at ha hb
    exact h _ _ ha.2 hb.2
  · -- All elements of one key are on one side.
    have hside (side : Bool → Bool) : (xs.filter fun x => decide (key x = k) && side (goes (key x))) =
        xs.filter fun x => decide (key x = k) && side (goes k) := by
      apply List.filter_congr
      intro x _
      by_cases hk : key x = k
      · rw [hk]
      · simp [hk]
    have hlow : (xs.filter fun x => decide (key x = k) && goes (key x)) = _ := hside id
    have hhigh : (xs.filter fun x => decide (key x = k) && !goes (key x)) = _ := hside not
    rw [List.filter_append, (sorts_sorted ..).kept, (sorts_sorted ..).kept, List.filter_filter,
      List.filter_filter, hlow, hhigh]
    cases goes k <;> simp

/-! ### Merging -/

theorem merge_kept {left right : List α} (hleft : left.Pairwise (key · ≤ key ·)) (k : κ) :
    (left.merge right fun l r => !below key r l).filter (key · = k) =
      left.filter (key · = k) ++ right.filter (key · = k) := by
  induction left generalizing right with
  | nil => simp
  | cons l left ihleft =>
    induction right with
    | nil => simp
    | cons r right ihright =>
      rw [List.cons_merge_cons]
      split
      · rw [List.filter_cons, ihleft hleft.tail, List.filter_cons (x := l)]
        split <;> rfl
      · next h =>
        rw [List.filter_cons, ihright, List.filter_cons (x := r)]
        split
        · next hk =>
          -- The elements on the left come later than this one, so they have another key.
          have hnone : (l :: left).filter (key · = k) = [] := by
            rw [List.filter_eq_nil_iff]
            intro a ha heq
            have hle : key l ≤ key a := by
              obtain rfl | ha := List.mem_cons.1 ha
              · exact le_rfl
              · exact List.rel_of_pairwise_cons hleft ha
            simp only [decide_eq_true_eq, not_below_eq_true, not_le] at h hk heq
            exact absurd (h.trans_le hle) (by rw [heq, hk]; exact lt_irrefl k)
          rw [hnone]
          rfl
        · rfl

theorem sorts_merge {left right : List α} (hleft : left.Pairwise (key · ≤ key ·))
    (hright : right.Pairwise (key · ≤ key ·)) :
    Sorts key (left ++ right) (left.merge right fun l r => !below key r l) := by
  refine ⟨?_, fun k => by rw [merge_kept hleft, List.filter_append]⟩
  have h : (left.merge right fun l r => !below key r l).Pairwise fun l r => (!below key r l) = true := by
    apply List.pairwise_merge
    · intro a b c hab hbc
      simp only [not_below_eq_true] at *
      exact hab.trans hbc
    · intro a b
      rw [Bool.or_eq_true, not_below_eq_true, not_below_eq_true]
      exact le_total (key a) (key b)
    · exact hleft.imp not_below_eq_true.2
    · exact hright.imp not_below_eq_true.2
  exact h.imp not_below_eq_true.1

/-- Merging from the end is merging from the start with the order turned round. -/
theorem sorts_merge_reverse {left right : List α} (hleft : left.Pairwise (key · ≤ key ·))
    (hright : right.Pairwise (key · ≤ key ·)) :
    Sorts key (left ++ right) (right.reverse.merge left.reverse fun r l => !below key r l).reverse := by
  have h : Sorts (fun x => OrderDual.toDual (key x)) (right.reverse ++ left.reverse)
      (right.reverse.merge left.reverse fun r l => !below key r l) :=
    sorts_merge (List.pairwise_reverse.2 hright) (List.pairwise_reverse.2 hleft)
  refine ⟨List.pairwise_reverse.2 h.ordered, fun k => ?_⟩
  rw [List.filter_reverse]
  have hk := congrArg List.reverse (h.kept (OrderDual.toDual k))
  simpa using hk

theorem merge_eq {left right : List α} (hleft : left.Pairwise (key · ≤ key ·))
    (hright : right.Pairwise (key · ≤ key ·)) : merge (below key) left right = sorted key (left ++ right) := by
  unfold merge
  split
  · exact (sorts_merge hleft hright).eq
  · exact (sorts_merge_reverse hleft hright).eq

/-! ### Short lists -/

theorem insertBack_eq_merge (less : α → α → Bool) (x : α) (back : List α) :
    insertBack less x back = [x].merge back fun x y => !less x y := by
  induction back with
  | nil => rw [insertBack, List.merge_right]
  | cons y rest ih =>
    rw [insertBack, List.cons_merge_cons, ih]
    cases less x y <;> simp

theorem insertAll_eq {xs : List α} (hxs : xs.Pairwise (key · ≤ key ·)) (ys : List α) :
    insertAll (below key) xs ys = sorted key (xs ++ ys) := by
  induction ys generalizing xs with
  | nil => rw [insertAll, List.foldl_nil, List.reverse_reverse, List.append_nil, sorted_of_ordered hxs]
  | cons y ys ih =>
    have hone : (insertBack (below key) y xs.reverse).reverse = sorted key (xs ++ [y]) := by
      rw [insertBack_eq_merge]
      exact (sorts_merge_reverse hxs (List.pairwise_singleton ..)).eq
    have hrest := ih (ordered_sorted key (xs ++ [y]))
    rw [← hone, insertAll, List.reverse_reverse, hone] at hrest
    rw [insertAll, List.foldl_cons, hrest, sorted_sorted_append, ← List.append_cons]

theorem inOrder_eq (key : α → κ) (a b : α) :
    [(inOrder (below key) a b).1, (inOrder (below key) a b).2] = sorted key [a, b] := by
  refine Eq.trans ?_ (sorts_merge (List.pairwise_singleton _ a) (List.pairwise_singleton _ b)).eq
  rw [List.cons_merge_cons, inOrder]
  cases below key b a <;> simp

theorem mergePairs_eq {left right : α × α} (hleft : key left.1 ≤ key left.2)
    (hright : key right.1 ≤ key right.2) :
    mergePairs (below key) left right =
      [left.1, left.2].merge [right.1, right.2] fun l r => !below key r l := by
  obtain ⟨a, b⟩ := left
  obtain ⟨c, d⟩ := right
  simp only [mergePairs, List.cons_merge_cons, List.nil_merge, List.merge_right, below] at *
  grind

theorem sortFour_eq (key : α → κ) (a b c d : α) :
    sortFour (below key) a b c d = sorted key [a, b, c, d] := by
  have hab := inOrder_eq key a b
  have hcd := inOrder_eq key c d
  have hleft := ordered_sorted key [a, b]
  have hright := ordered_sorted key [c, d]
  rw [← hab, List.pairwise_pair] at hleft
  rw [← hcd, List.pairwise_pair] at hright
  rw [sortFour, mergePairs_eq hleft hright, hab, hcd]
  exact (sorts_merge (ordered_sorted ..) (ordered_sorted ..)).eq.trans (sorted_append_sorted ..)

theorem sortHalf_eq (byFour : Bool) (xs : List α) : sortHalf (below key) byFour xs = sorted key xs := by
  unfold sortHalf
  split
  · rw [sortFour_eq, insertAll_eq (ordered_sorted ..), sorted_sorted_append]
    rfl
  · exact insertAll_eq .nil xs

/-- Taking from two lists is the start of merging them. -/
theorem takeMerged_append_merge (takesLeft : α → α → Bool) (n : Nat) (left right : List α) :
    (takeMerged takesLeft n left right).1 ++
      (takeMerged takesLeft n left right).2.1.merge (takeMerged takesLeft n left right).2.2 takesLeft =
        left.merge right takesLeft := by
  fun_induction takeMerged takesLeft n left right with
  | case1 n l left r right hless taken left' right' heq ih =>
    rw [heq] at ih
    rw [List.cons_merge_cons, if_pos hless, ← ih]
    rfl
  | case2 n l left r right hless taken left' right' heq ih =>
    rw [heq] at ih
    rw [List.cons_merge_cons, if_neg hless, ← ih]
    rfl
  | case3 => rfl

theorem length_takeMerged {takesLeft : α → α → Bool} {n : Nat} {left right : List α} (hleft : n ≤ left.length)
    (hright : n ≤ right.length) : (takeMerged takesLeft n left right).1.length = n := by
  fun_induction takeMerged takesLeft n left right with
  | case1 n l left r right hless taken left' right' heq ih =>
    rw [heq] at ih
    simp only [List.length_cons] at *
    rw [ih (by omega) (by omega)]
  | case2 n l left r right hless taken left' right' heq ih =>
    rw [heq] at ih
    simp only [List.length_cons] at *
    rw [ih (by omega) (by omega)]
  | case3 n left right h =>
    cases n with
    | zero => rfl
    | succ n =>
      cases left with
      | nil => cases hleft
      | cons l left =>
        cases right with
        | nil => cases hright
        | cons r right => exact absurd rfl (h n l left r right rfl rfl)

/-- The order of the two lists does not matter for a merge, as long as it is known which goes first. -/
theorem merge_swap (takesLeft : α → α → Bool) (left right : List α) :
    left.merge right takesLeft = right.merge left fun r l => !takesLeft l r := by
  induction left generalizing right with
  | nil => simp
  | cons l left ihleft =>
    induction right with
    | nil => simp
    | cons r right ihright =>
      rw [List.cons_merge_cons, List.cons_merge_cons, ihleft, ihright]
      cases takesLeft l r <;> rfl

theorem merge_reverse {left right : List α} (hleft : left.Pairwise (key · ≤ key ·))
    (hright : right.Pairwise (key · ≤ key ·)) :
    (left.merge right fun l r => !below key r l).reverse =
      left.reverse.merge right.reverse fun l r => below key r l := by
  rw [(sorts_merge hleft hright).unique (sorts_merge_reverse hleft hright), List.reverse_reverse, merge_swap]
  simp only [Bool.not_not]

theorem countP_label {label : α → Bool} {xs others merged : List α} (hxs : ∀ x ∈ xs, label x = true)
    (hothers : ∀ x ∈ others, label x = false) (hperm : merged.Perm (xs ++ others)) :
    merged.countP label = xs.length := by
  have hnone : others.countP label = 0 := List.countP_eq_zero.2 fun x hmem => by simp [hothers x hmem]
  rw [hperm.countP_eq, List.countP_append, List.countP_eq_length.2 hxs, hnone, Nat.add_zero]

/-- Of two lists, as much is taken from both ends of what they are merged to. If these parts lie apart, they have
no more of one list than there is in it. -/
theorem length_le_of_apart (label : α → Bool) {xs others low middle high a b c d a' b' c' d' : List α}
    (hxs : ∀ x ∈ xs, label x = true) (hothers : ∀ x ∈ others, label x = false)
    (hfront : xs = a ++ b) (hback : xs.reverse = c ++ d) (hfront' : others = a' ++ b')
    (hback' : others.reverse = c' ++ d') (hlow : low.Perm (a ++ a')) (hhigh : high.Perm (c ++ c'))
    (hperm : (low ++ middle ++ high.reverse).Perm (xs ++ others)) : xs.length ≤ b.length + d.length := by
  have hlow_count : low.countP label = a.length :=
    countP_label (fun x h => hxs x (hfront ▸ List.mem_append_left b h))
      (fun x h => hothers x (hfront' ▸ List.mem_append_left b' h)) hlow
  have hhigh_count : high.countP label = c.length :=
    countP_label (fun x h => hxs x (List.mem_reverse.1 (hback ▸ List.mem_append_left d h)))
      (fun x h => hothers x (List.mem_reverse.1 (hback' ▸ List.mem_append_left d' h))) hhigh
  have hcount := countP_label hxs hothers hperm
  rw [List.countP_append, List.countP_append, List.countP_reverse, hlow_count, hhigh_count] at hcount
  have hfront_length := congrArg List.length hfront
  have hback_length := congrArg List.length hback
  simp only [List.length_append, List.length_reverse] at hfront_length hback_length
  omega

/-- What lies between the parts is what is left of either half, if that is no more than one element. -/
theorem middle_eq {low middle high l₁ restLeft l₂ r₁ restRight r₂ : List α} (hlow : low.Perm (l₁ ++ r₁))
    (hhigh : high.Perm (l₂ ++ r₂))
    (hperm : (low ++ middle ++ high.reverse).Perm
      ((l₁ ++ restLeft ++ l₂.reverse) ++ (r₁ ++ restRight ++ r₂.reverse)))
    (hlength : middle.length ≤ 1) : middle = restLeft ++ restRight := by
  classical
  have hmiddle : middle.Perm (restLeft ++ restRight) := by
    rw [List.perm_iff_count] at hlow hhigh hperm ⊢
    intro x
    have hlow := hlow x
    have hhigh := hhigh x
    have hperm := hperm x
    simp only [List.count_append, List.count_reverse] at hlow hhigh hperm ⊢
    omega
  match middle, hlength, hmiddle with
  | [], _, h => exact (List.nil_perm.1 h).symm
  | [x], _, h => exact List.singleton_perm.1 h

/-- Merged from both ends, two halves leave at most one element between what is taken. -/
theorem takeMerged_meet {left right : List α} (hleft : left.Pairwise (key · ≤ key ·))
    (hright : right.Pairwise (key · ≤ key ·)) (hle : left.length ≤ right.length)
    (hlt : right.length ≤ left.length + 1) :
    ∃ middle, middle.length ≤ 1 ∧ (left.merge right fun l r => !below key r l) =
      (takeMerged (fun l r => !below key r l) left.length left right).1 ++ middle ++
        (takeMerged (fun l r => below key r l) left.length left.reverse right.reverse).1.reverse := by
  have hfront := takeMerged_append_merge (fun l r => !below key r l) left.length left right
  have hback := takeMerged_append_merge (fun l r => below key r l) left.length left.reverse right.reverse
  rw [← merge_reverse hleft hright] at hback
  have hfront_length := congrArg List.length hfront
  have hback_length := congrArg List.length hback
  have hperm : (left.merge right fun l r => !below key r l).Perm (left ++ right) := List.merge_perm_append _
  have hmerged := hperm.length_eq
  rw [List.length_append, length_takeMerged le_rfl hle] at hfront_length
  rw [List.length_append, length_takeMerged (by simp) (by simpa using hle), List.length_reverse] at hback_length
  rw [List.length_append] at hmerged
  refine ⟨_, ?_, eq_append_take_append hfront.symm hback.symm (by omega)⟩
  rw [List.length_take]
  omega

/-- Where it can be told of which half an element is, the merges from both ends take each element once. -/
theorem mergeHalves_labelled (label : α → Bool) {left right : List α}
    (hleft : left.Pairwise (key · ≤ key ·)) (hright : right.Pairwise (key · ≤ key ·))
    (hl : ∀ l ∈ left, label l = true) (hr : ∀ r ∈ right, label r = false)
    (hle : left.length ≤ right.length) (hlt : right.length ≤ left.length + 1) :
    mergeHalves (below key) left right = some (left.merge right fun l r => !below key r l) := by
  have hperm : (left.merge right fun l r => !below key r l).Perm (left ++ right) := List.merge_perm_append _
  obtain ⟨middle, hlength, hmerged⟩ := takeMerged_meet hleft hright hle hlt
  obtain ⟨l₁, r₁, hl₁, hr₁, hlow⟩ := takeMerged_perm (fun l r => !below key r l) left.length left right
  obtain ⟨l₂, r₂, hl₂, hr₂, hhigh⟩ :=
    takeMerged_perm (fun l r => below key r l) left.length left.reverse right.reverse
  rw [hmerged] at hperm ⊢
  unfold mergeHalves
  generalize takeMerged (fun l r => !below key r l) left.length left right = front at *
  generalize takeMerged (fun l r => below key r l) left.length left.reverse right.reverse = back at *
  obtain ⟨low, left₁, right₁⟩ := front
  obtain ⟨high, left₂, right₂⟩ := back
  dsimp only at *
  have hfits_left : left.length ≤ left₁.length + left₂.length :=
    length_le_of_apart label hl hr hl₁ hl₂ hr₁ hr₂ hlow hhigh hperm
  have hfits_right : right.length ≤ right₁.length + right₂.length :=
    length_le_of_apart (fun x => !label x) (fun r h => by rw [hr r h]; rfl) (fun l h => by rw [hl l h]; rfl)
      hr₁ hr₂ hl₁ hl₂ (hlow.trans List.perm_append_comm) (hhigh.trans List.perm_append_comm)
      (hperm.trans List.perm_append_comm)
  rw [if_pos ⟨hfits_left, hfits_right⟩]
  have hleft_parts := eq_append_take_append hl₁ hl₂ hfits_left
  have hright_parts := eq_append_take_append hr₁ hr₂ hfits_right
  generalize left₁.take _ = restLeft at hleft_parts ⊢
  generalize right₁.take _ = restRight at hright_parts ⊢
  rw [hleft_parts, hright_parts] at hperm
  rw [middle_eq hlow hhigh hperm hlength, List.append_assoc low]

theorem mergeHalves_eq {left right : List α} (hleft : left.Pairwise (key · ≤ key ·))
    (hright : right.Pairwise (key · ≤ key ·)) (hle : left.length ≤ right.length)
    (hlt : right.length ≤ left.length + 1) :
    mergeHalves (below key) left right = some (sorted key (left ++ right)) := by
  -- Each element with the half that it is of.
  let side : α ⊕ α → α := Sum.elim id id
  have hleft_side : (left.map Sum.inl).map side = left := by simp [side]
  have hright_side : (right.map Sum.inr).map side = right := by simp [side]
  have hsides : mergeHalves (below key on side) (left.map Sum.inl) (right.map Sum.inr) =
      some ((left.map Sum.inl).merge (right.map Sum.inr) fun l r => !below key (side r) (side l)) :=
    mergeHalves_labelled Sum.isLeft (List.pairwise_map.2 hleft) (List.pairwise_map.2 hright) (by simp) (by simp)
      (by simpa using hle) (by simpa using hlt)
  have hmerge : mergeHalves (below key) ((left.map Sum.inl).map side) ((right.map Sum.inr).map side) = _ :=
    mergeHalves_map side _ _
  rw [hsides, hleft_side, hright_side, Option.map_some,
    List.map_merge (s := fun l r => !below key r l) fun _ _ _ _ => rfl, hleft_side, hright_side,
    (sorts_merge hleft hright).eq] at hmerge
  exact hmerge

theorem sortShort_eq (key : α → κ) (xs : List α) : sortShort (below key) xs = some (sorted key xs) := by
  unfold sortShort
  split
  · next h =>
    match xs, h with
    | [], _ => rw [sorted_of_ordered .nil]
    | [x], _ => rw [sorted_of_ordered (List.pairwise_singleton _ x)]
  · dsimp only
    rw [sortHalf_eq, sortHalf_eq, mergeHalves_eq (ordered_sorted ..) (ordered_sorted ..)]
    · rw [sorted_append_sorted, List.take_append_drop]
    · simp only [length_sorted, List.length_take, List.length_drop]
      omega
    · simp only [length_sorted, List.length_take, List.length_drop]
      omega

end StableSort

end Leuit
