import Leuit.Proofs.Pieces
import Leuit.Schema.Descriptor

/-! Splitting outside parentheses. The depth of parentheses runs through the whole text, across the
separators; a piece is sealed if no separator in it stands outside parentheses. Splitting a text and
putting pieces together meet at `Parted`, which says of a list of pieces at which depth each begins:
the pieces of a text are the only parted ones that make up the text (`splitOutside_eq_iff`). -/
namespace Leuit.Text

/-! ### Depth -/

/-- The depth of parentheses after a text. -/
def depthAfter (depth : Int) (cs : List Char) : Int := cs.foldl deepen depth

@[simp] theorem depthAfter_nil (depth : Int) : depthAfter depth [] = depth := rfl

@[simp] theorem depthAfter_cons (depth : Int) (c : Char) (cs : List Char) :
    depthAfter depth (c :: cs) = depthAfter (deepen depth c) cs := rfl

@[simp] theorem depthAfter_append (depth : Int) (a b : List Char) :
    depthAfter depth (a ++ b) = depthAfter (depthAfter depth a) b := List.foldl_append

theorem deepen_of_ne {c : Char} (hopen : c ≠ '(') (hclose : c ≠ ')') (depth : Int) :
    deepen depth c = depth := by
  rw [deepen, if_neg hopen, if_neg hclose]

theorem depthAfter_of_flat {cs : List Char} (hopen : '(' ∉ cs) (hclose : ')' ∉ cs) (depth : Int) :
    depthAfter depth cs = depth := by
  induction cs with
  | nil => rfl
  | cons c cs ih =>
    rw [List.mem_cons, not_or] at hopen hclose
    rw [depthAfter_cons, deepen_of_ne (Ne.symm hopen.1) (Ne.symm hclose.1), ih hopen.2 hclose.2]

/-- Where nothing is closed the depth does not fall. -/
theorem le_depthAfter {cs : List Char} (hclose : ')' ∉ cs) (depth : Int) : depth ≤ depthAfter depth cs := by
  induction cs generalizing depth with
  | nil => exact Int.le_refl depth
  | cons c cs ih =>
    rw [List.mem_cons, not_or] at hclose
    have hstep : depth ≤ deepen depth c := by
      unfold deepen
      rw [if_neg (Ne.symm hclose.1)]
      split <;> omega
    exact Int.le_trans hstep (ih hclose.2 _)

/-! ### Sealed texts -/

/-- Whether no separator stands outside parentheses. -/
def isSealed (sep : Char) : Int → List Char → Bool
  | _, [] => true
  | depth, c :: rest => !decide (c = sep ∧ depth ≤ 0) && isSealed sep (deepen depth c) rest

theorem isSealed_append (sep : Char) (depth : Int) (a b : List Char) :
    isSealed sep depth (a ++ b) = (isSealed sep depth a && isSealed sep (depthAfter depth a) b) := by
  induction a generalizing depth with
  | nil => rfl
  | cons c a ih => rw [List.cons_append, isSealed, isSealed, ih, Bool.and_assoc, depthAfter_cons]

theorem isSealed_of_not_mem {sep : Char} {cs : List Char} (h : sep ∉ cs) (depth : Int) :
    isSealed sep depth cs = true := by
  induction cs generalizing depth with
  | nil => rfl
  | cons c cs ih =>
    rw [List.mem_cons, not_or] at h
    rw [isSealed, ih h.2]
    simp [Ne.symm h.1]

/-- Characters that neither separate nor bracket may be left out. -/
theorem depthAfter_filter {x : Char} (hopen : x ≠ '(') (hclose : x ≠ ')') (depth : Int) (cs : List Char) :
    depthAfter depth (cs.filter (· ≠ x)) = depthAfter depth cs := by
  induction cs generalizing depth with
  | nil => rfl
  | cons c cs ih =>
    by_cases hc : c = x
    · rw [List.filter_cons_of_neg (by simp [hc]), ih, depthAfter_cons, hc, deepen_of_ne hopen hclose]
    · rw [List.filter_cons_of_pos (by simp [hc]), depthAfter_cons, depthAfter_cons, ih]

theorem isSealed_filter {sep x : Char} (hopen : x ≠ '(') (hclose : x ≠ ')') (hsep : x ≠ sep) (depth : Int)
    (cs : List Char) : isSealed sep depth (cs.filter (· ≠ x)) = isSealed sep depth cs := by
  induction cs generalizing depth with
  | nil => rfl
  | cons c cs ih =>
    by_cases hc : c = x
    · rw [List.filter_cons_of_neg (by simp [hc]), ih, isSealed, hc, deepen_of_ne hopen hclose]
      simp [hsep]
    · rw [List.filter_cons_of_pos (by simp [hc]), isSealed, isSealed, ih]

/-! ### Pieces -/

/-- Pieces with a separator outside parentheses between any two, and nowhere else. -/
inductive Parted (sep : Char) : Int → List (List Char) → Prop where
  | last {depth : Int} {piece : List Char} : isSealed sep depth piece = true → Parted sep depth [piece]
  | cons {depth : Int} {piece : List Char} {rest : List (List Char)} : isSealed sep depth piece = true →
      depthAfter depth piece ≤ 0 → Parted sep (depthAfter depth piece) rest → Parted sep depth (piece :: rest)

theorem Parted.ne_nil {sep : Char} {depth : Int} {pieces : List (List Char)} (h : Parted sep depth pieces) :
    pieces ≠ [] := by
  cases h <;> exact List.cons_ne_nil _ _

theorem Parted.sealed_head {sep : Char} {depth : Int} {piece : List Char} {rest : List (List Char)}
    (h : Parted sep depth (piece :: rest)) : isSealed sep depth piece = true := by
  cases h <;> assumption

/-- What follows the first of several pieces is parted again. -/
theorem Parted.tail {sep : Char} {depth : Int} {piece : List Char} {rest : List (List Char)}
    (h : Parted sep depth (piece :: rest)) (hrest : rest ≠ []) :
    depthAfter depth piece ≤ 0 ∧ Parted sep (depthAfter depth piece) rest := by
  cases h with
  | last _ => exact absurd rfl hrest
  | cons _ hdepth h => exact ⟨hdepth, h⟩

/-- A character in front of the first piece. -/
theorem Parted.cons_head {sep c : Char} {depth : Int} {piece : List Char} {rest : List (List Char)}
    (hc : ¬(c = sep ∧ depth ≤ 0)) (h : Parted sep (deepen depth c) (piece :: rest)) :
    Parted sep depth ((c :: piece) :: rest) := by
  cases h with
  | last hs => exact .last (by simp [isSealed, hs, hc])
  | cons hs hdepth h => exact .cons (by simp [isSealed, hs, hc]) hdepth h

section
variable (sep : Char) (depth : Int) (cs : List Char)

theorem splitOutside_parted : Parted sep depth (splitOutside sep depth cs) := by
  induction cs generalizing depth with
  | nil => exact .last rfl
  | cons c cs ih =>
    rw [splitOutside]
    split
    · next h => exact .cons rfl h.2 (ih depth)
    · next h =>
      have hrest := ih (deepen depth c)
      cases hs : splitOutside sep (deepen depth c) cs with
      | nil => exact absurd hs hrest.ne_nil
      | cons piece rest =>
        rw [hs] at hrest
        exact hrest.cons_head h

theorem intercalate_splitOutside : [sep].intercalate (splitOutside sep depth cs) = cs := by
  induction cs generalizing depth with
  | nil => rfl
  | cons c cs ih =>
    rw [splitOutside]
    split
    · next h =>
      have hne := (splitOutside_parted sep depth cs).ne_nil
      rw [List.intercalate_cons_of_ne_nil hne, ih, h.1]
      rfl
    · next h =>
      have hrest := ih (deepen depth c)
      cases hs : splitOutside sep (deepen depth c) cs with
      | nil => exact absurd hs (splitOutside_parted sep (deepen depth c) cs).ne_nil
      | cons piece rest =>
        rw [hs] at hrest
        cases rest with
        | nil => simpa using hrest
        | cons next rest =>
          rw [List.intercalate_cons_of_ne_nil (List.cons_ne_nil _ _)] at hrest
          rw [List.modifyHead_cons, List.intercalate_cons_of_ne_nil (List.cons_ne_nil _ _), ← hrest]
          rfl

end

variable {sep : Char} {depth : Int}

theorem splitOutside_of_sealed {cs : List Char} (h : isSealed sep depth cs = true) :
    splitOutside sep depth cs = [cs] := by
  induction cs generalizing depth with
  | nil => rfl
  | cons c cs ih =>
    rw [isSealed, Bool.and_eq_true, Bool.not_eq_true', decide_eq_false_iff_not] at h
    rw [splitOutside, if_neg h.1, ih h.2]
    rfl

/-- A separator outside parentheses ends a piece. -/
theorem splitOutside_append {a : List Char} (h : isSealed sep depth a = true)
    (hdepth : depthAfter depth a ≤ 0) (b : List Char) :
    splitOutside sep depth (a ++ sep :: b) = a :: splitOutside sep (depthAfter depth a) b := by
  induction a generalizing depth with
  | nil =>
    rw [List.nil_append, splitOutside, if_pos ⟨rfl, hdepth⟩]
    rfl
  | cons c a ih =>
    rw [isSealed, Bool.and_eq_true, Bool.not_eq_true', decide_eq_false_iff_not] at h
    rw [List.cons_append, splitOutside, if_neg h.1, ih h.2 hdepth]
    rfl

/-- The pieces of a text are the parted pieces that make it up. -/
theorem splitOutside_eq_iff {cs : List Char} {pieces : List (List Char)} :
    splitOutside sep depth cs = pieces ↔ cs = [sep].intercalate pieces ∧ Parted sep depth pieces := by
  constructor
  · rintro rfl
    exact ⟨(intercalate_splitOutside sep depth cs).symm, splitOutside_parted sep depth cs⟩
  · rintro ⟨rfl, h⟩
    induction h with
    | last hs => simpa using splitOutside_of_sealed hs
    | cons hs hdepth hrest ih =>
      rw [List.intercalate_cons_of_ne_nil hrest.ne_nil, List.append_assoc, List.singleton_append,
        splitOutside_append hs hdepth, ih]

/-- A piece without separators and parentheses. -/
def Flat (sep : Char) (piece : List Char) : Prop := sep ∉ piece ∧ '(' ∉ piece ∧ ')' ∉ piece

/-- Flat pieces are found again, and what follows them is split at the same depth. -/
theorem splitOutside_flat {pieces : List (List Char)} (hflat : ∀ piece ∈ pieces, Flat sep piece)
    (hdepth : depth ≤ 0) (last : List Char) :
    splitOutside sep depth ([sep].intercalate (pieces ++ [last])) =
      pieces ++ splitOutside sep depth last := by
  induction pieces with
  | nil => simp
  | cons piece rest ih =>
    obtain ⟨hsep, hopen, hclose⟩ := hflat piece List.mem_cons_self
    have hafter := depthAfter_of_flat hopen hclose depth
    rw [List.cons_append, List.intercalate_cons_of_ne_nil (by simp), List.append_assoc,
      List.singleton_append, splitOutside_append (isSealed_of_not_mem hsep depth) (by rwa [hafter]), hafter,
      ih fun p hp => hflat p (List.mem_cons_of_mem piece hp), List.cons_append]

/-! ### The last bracket -/

theorem beforeLast?_eq_some {c : Char} {cs inner : List Char} :
    beforeLast? c cs = some inner ↔ ∃ junk, cs = inner ++ c :: junk ∧ c ∉ junk := by
  unfold beforeLast?
  constructor
  · intro h
    split at h
    · cases h
    · next x rest hdrop =>
      obtain ⟨hcs, hmem⟩ := eq_of_dropWhile_ne hdrop
      rw [Option.some.injEq] at h
      refine ⟨(cs.reverse.takeWhile (· ≠ c)).reverse, ?_, by simpa using hmem⟩
      rw [← List.reverse_inj, List.reverse_append, List.reverse_cons, List.reverse_reverse, ← h,
        List.reverse_reverse, List.append_assoc]
      exact hcs
  · rintro ⟨junk, rfl, hmem⟩
    have hreverse : (inner ++ c :: junk).reverse = junk.reverse ++ c :: inner.reverse := by simp
    rw [hreverse, dropWhile_ne_append (by simpa using hmem)]
    simp

end Leuit.Text
