import Leuit.Calendar
import Leuit.Proofs.Numerals
import Mathlib.Algebra.Group.Nat.Defs
import Mathlib.Data.List.TakeWhile

/-! Dates as texts. Digits that are read as a number and written with zeros in front are the same digits
again (`Date.padded_ofDigits`), so a text of the standard shape is known by the date it is read as
(`Date.text_of_standard`), though reading accepts many other texts for the same date. -/
namespace Leuit
open Decimal

/-! ### Digits -/

namespace Decimal
variable {cs : List Char} {c : Char}

theorem digit_lt (h : c.isDigit = true) : c.toNat - '0'.toNat < 10 := by
  obtain ⟨_, hle⟩ := Char.isDigit_iff_toNat.mp h
  have : '9'.toNat = 57 := rfl
  have : '0'.toNat = 48 := rfl
  omega

theorem digitChar_digit (h : c.isDigit = true) : Nat.digitChar (c.toNat - '0'.toNat) = c := by
  obtain ⟨hge, _⟩ := Char.isDigit_iff_toNat.mp h
  refine Char.toNat_inj.mp ?_
  rw [Nat.toNat_digitChar_of_lt_ten (digit_lt h)]
  have : '0'.toNat = 48 := rfl
  omega

/-- Digits read after a number are the last digits of the whole. -/
theorem toDigits_foldl {n : Nat} (hn : 0 < n) (h : ∀ c ∈ cs, c.isDigit = true) :
    Nat.toDigits 10 (cs.foldl (fun n c => 10 * n + (c.toNat - '0'.toNat)) n) = Nat.toDigits 10 n ++ cs := by
  induction cs generalizing n with
  | nil => simp
  | cons c rest ih =>
    have hc := h c List.mem_cons_self
    have hstep : Nat.toDigits 10 (10 * n + (c.toNat - '0'.toNat)) = Nat.toDigits 10 n ++ [c] := by
      rw [← Nat.toDigits_append_toDigits (by decide) hn (digit_lt hc),
        Nat.toDigits_of_lt_base (digit_lt hc), digitChar_digit hc]
    rw [List.foldl_cons, ih (by omega) fun x hx => h x (List.mem_cons_of_mem c hx), hstep]
    simp

end Decimal

namespace Date
variable {cs : List Char} {s : String} {d : Date}

/-- Digits with zeros in front keep their number. -/
theorem padded_ofDigits (hne : cs ≠ []) (h : ∀ c ∈ cs, c.isDigit = true) :
    padded cs.length (ofDigits cs) = cs := by
  induction cs with
  | nil => exact absurd rfl hne
  | cons c rest ih =>
    have hc := h c List.mem_cons_self
    have hrest : ∀ x ∈ rest, x.isDigit = true := fun x hx => h x (List.mem_cons_of_mem c hx)
    have hfold : ofDigits (c :: rest) =
        rest.foldl (fun n c => 10 * n + (c.toNat - '0'.toNat)) (c.toNat - '0'.toNat) := by
      simp [ofDigits]
    by_cases hzero : c.toNat - '0'.toNat = 0
    · obtain rfl : c = '0' := by rw [← digitChar_digit hc, hzero]; rfl
      have hvalue : ofDigits ('0' :: rest) = ofDigits rest := hfold
      rw [hvalue]
      by_cases hempty : rest = []
      · subst hempty
        rfl
      · have hpadded := ih hempty hrest
        have hlen := congrArg List.length hpadded
        simp only [padded, List.length_append, List.length_replicate] at hlen
        rw [List.length_cons, padded, Nat.sub_add_comm (by omega), List.replicate_succ, List.cons_append]
        exact congrArg ('0' :: ·) hpadded
    · have hdigits : Nat.toDigits 10 (ofDigits (c :: rest)) = c :: rest := by
        rw [hfold, toDigits_foldl (Nat.pos_of_ne_zero hzero) hrest, Nat.toDigits_of_lt_base (digit_lt hc),
          digitChar_digit hc]
        rfl
      simp [padded, hdigits]

theorem ofDigits_lt (h : ∀ c ∈ cs, c.isDigit = true) : ofDigits cs < 10 ^ cs.length := by
  by_cases hne : cs = []
  · subst hne
    decide
  · rw [← Nat.length_toDigits_le_iff (by decide) (List.length_pos_iff.mpr hne)]
    have hlen := congrArg List.length (padded_ofDigits hne h)
    simp only [padded, List.length_append, List.length_replicate] at hlen
    omega

/-- All the digits there are at the front, if no more are asked for. -/
theorem takeNumber_append (hne : cs ≠ []) (h : ∀ c ∈ cs, c.isDigit = true) (rest : List Char) :
    takeNumber cs.length (cs ++ rest) = some (ofDigits cs, rest) := by
  have htake : cs.takeWhile Char.isDigit = cs := List.takeWhile_eq_self_iff.mpr h
  have hall : cs.all Char.isDigit = true := List.all_eq_true.mpr h
  simp [takeNumber, htake, numeral?, hne, hall]

/-! ### Texts of the standard shape -/

theorem isBlank_of_isDigit {c : Char} (h : c.isDigit = true) : Text.isBlank c = false := by
  obtain ⟨hge, hle⟩ := Char.isDigit_iff_toNat.mp h
  have : '0'.toNat = 48 := rfl
  have : '9'.toNat = 57 := rfl
  simp [Text.isBlank]
  omega

theorem takeYear_digits (hlen : cs.length = 4) (h : ∀ c ∈ cs, c.isDigit = true) (rest : List Char) :
    takeYear (cs ++ rest) = some ((ofDigits cs : Int), rest) := by
  have hnumber : takeNumber 4 (cs ++ rest) = some (ofDigits cs, rest) := by
    rw [← hlen]
    exact takeNumber_append (by rintro rfl; cases hlen) h rest
  obtain ⟨c, more, rfl⟩ : ∃ c more, cs = c :: more := List.exists_cons_of_length_pos (by omega)
  have hc := h c List.mem_cons_self
  have hminus : c ≠ '-' := by rintro rfl; cases hc
  have hplus : c ≠ '+' := by rintro rfl; cases hc
  rw [takeYear, List.cons_append, List.dropWhile_cons_of_neg (by simp [isBlank_of_isDigit hc])]
  split
  · next heq => cases heq; exact absurd rfl hminus
  · next heq => cases heq; exact absurd rfl hplus
  · rw [← List.cons_append, hnumber]
    rfl

theorem takePart_digits (hlen : cs.length = 2) (h : ∀ c ∈ cs, c.isDigit = true) (rest : List Char) :
    takePart ('-' :: (cs ++ rest)) = some (ofDigits cs, rest) := by
  obtain ⟨c, more, rfl⟩ : ∃ c more, cs = c :: more := List.exists_cons_of_length_pos (by omega)
  rw [takePart, List.cons_append,
    List.dropWhile_cons_of_neg (by simp [isBlank_of_isDigit (h c List.mem_cons_self)]), ← List.cons_append,
    ← hlen]
  exact takeNumber_append (List.cons_ne_nil c more) h rest

/-- A text of the standard shape is the text of its date. -/
theorem text_of_standard (hshape : isStandard s = true) (h : ofText? s = some d) : d.text = s := by
  unfold isStandard at hshape
  split at hshape
  · next y₁ y₂ y₃ y₄ h₁ m₁ m₂ h₂ d₁ d₂ hs =>
    simp only [List.all_cons, List.all_nil, Bool.and_true, Bool.and_eq_true, beq_iff_eq] at hshape
    obtain ⟨⟨⟨hy₁, hy₂, hy₃, hy₄, hm₁, hm₂, hd₁, hd₂⟩, rfl⟩, rfl⟩ := hshape
    have hyear : ∀ c ∈ [y₁, y₂, y₃, y₄], c.isDigit = true := by simp [hy₁, hy₂, hy₃, hy₄]
    have hmonth : ∀ c ∈ [m₁, m₂], c.isDigit = true := by simp [hm₁, hm₂]
    have hday : ∀ c ∈ [d₁, d₂], c.isDigit = true := by simp [hd₁, hd₂]
    replace hs : s.toList = [y₁, y₂, y₃, y₄] ++ '-' :: ([m₁, m₂] ++ '-' :: ([d₁, d₂] ++ [])) := hs
    rw [ofText?, hs, takeYear_digits rfl hyear] at h
    simp only [Option.bind_eq_bind, Option.bind_some, takePart_digits rfl hmonth,
      takePart_digits rfl hday] at h
    rw [Option.ite_none_right_eq_some, Option.some.injEq] at h
    obtain ⟨-, rfl⟩ := h
    have hlt : ofDigits [y₁, y₂, y₃, y₄] < 10 ^ 4 := ofDigits_lt hyear
    have hyearText : yearText (ofDigits [y₁, y₂, y₃, y₄]) = [y₁, y₂, y₃, y₄] := by
      rw [yearText, if_neg (by omega), if_neg (by omega), Int.natAbs_natCast]
      exact padded_ofDigits (List.cons_ne_nil _ _) hyear
    have hmonthText : padded 2 (ofDigits [m₁, m₂]) = [m₁, m₂] := padded_ofDigits (List.cons_ne_nil _ _) hmonth
    have hdayText : padded 2 (ofDigits [d₁, d₂]) = [d₁, d₂] := padded_ofDigits (List.cons_ne_nil _ _) hday
    rw [← String.toList_inj, hs, text, String.toList_ofList, hyearText, hmonthText, hdayText]
    rfl
  · cases hshape

theorem order_eq_eq {a b : Date} : a.order b = .eq ↔ a = b := by
  obtain ⟨y, m, d⟩ := a
  obtain ⟨y', m', d'⟩ := b
  simp [order, Ordering.then_eq_eq]

end Date

end Leuit
