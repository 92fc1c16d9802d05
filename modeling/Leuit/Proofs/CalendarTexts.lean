import Leuit.Proofs.Dates

/-! Dates that were written. Digits with zeros in front are read as the number they were written for
(`Date.ofDigits_padded`), so every date of the calendar is read back from its text, whatever the sign and the
length of its year (`Date.ofText?_text`). Where the years have four digits, dates are in the order of their
texts (`Date.compare_text`), as digits in equal number are in the order of what they denote
(`Decimal.compare_ofDigits`). -/
namespace Leuit
open Decimal

/-! ### Padded numbers -/

namespace Date
variable {width n : Nat} {cs : List Char} {c : Char} {d : Date}

theorem isDigit_of_mem_padded (h : c ∈ padded width n) : c.isDigit = true := by
  rcases List.mem_append.mp h with h | h
  · rw [List.eq_of_mem_replicate h]
    rfl
  · exact Nat.isDigit_of_mem_toDigits (by decide) (by decide) h

theorem padded_ne_nil : padded width n ≠ [] :=
  List.append_ne_nil_of_right_ne_nil _ Nat.toDigits_ne_nil

theorem le_length_padded : width ≤ (padded width n).length := by
  simp only [padded, List.length_append, List.length_replicate]
  omega

theorem length_padded (hwidth : 0 < width) (hn : n < 10 ^ width) : (padded width n).length = width := by
  have hlength : (Nat.toDigits 10 n).length ≤ width := (Nat.length_toDigits_le_iff (by decide) hwidth).mpr hn
  simp only [padded, List.length_append, List.length_replicate]
  omega

theorem ofDigits_padded : ofDigits (padded width n) = n := by
  have hzeros : ∀ (k : Nat) (cs : List Char), ofDigits (List.replicate k '0' ++ cs) = ofDigits cs := by
    intro k cs
    induction k with
    | zero => rfl
    | succ k ih => exact ih
  rw [padded, hzeros]
  exact Nat.ofDigitChars_ten_toDigits

/-! ### Reading what was written -/

/-- A number ends at a hyphen, however many digits it may have. -/
theorem takeNumber_hyphen (hne : cs ≠ []) (h : ∀ c ∈ cs, c.isDigit = true) (hwidth : cs.length ≤ width)
    (rest : List Char) : takeNumber width (cs ++ '-' :: rest) = some (ofDigits cs, '-' :: rest) := by
  have hstop : (('-' :: rest).take (width - cs.length)).takeWhile Char.isDigit = [] := by
    cases width - cs.length <;> rfl
  have hdigits : ((cs ++ '-' :: rest).take width).takeWhile Char.isDigit = cs := by
    rw [List.take_append, List.take_of_length_le hwidth, List.takeWhile_append_of_pos h, hstop,
      List.append_nil]
  have hall : cs.all Char.isDigit = true := List.all_eq_true.mpr h
  simp [takeNumber, hdigits, numeral?, hne, hall]

theorem takeYear_yearText (year : Int) (rest : List Char) :
    takeYear (yearText year ++ '-' :: rest) = some (year, '-' :: rest) := by
  have hsigned : ∀ k, (padded 4 k).length ≤ (padded 4 k ++ '-' :: rest).length := fun k => by simp
  have hnumber (k : Nat) := takeNumber_hyphen padded_ne_nil (fun _ => isDigit_of_mem_padded) (hsigned k) rest
  unfold yearText
  split
  · next hneg =>
    have habs : -(year.natAbs : Int) = year := by omega
    rw [takeYear, List.cons_append, List.dropWhile_cons_of_neg (by decide)]
    show (takeNumber _ (padded 4 year.natAbs ++ '-' :: rest)).map _ = _
    rw [hnumber, ofDigits_padded]
    exact congrArg (fun year => some (year, '-' :: rest)) habs
  · next hneg =>
    have habs : (year.natAbs : Int) = year := by omega
    split
    · rw [takeYear, List.cons_append, List.dropWhile_cons_of_neg (by decide)]
      show (takeNumber _ (padded 4 year.natAbs ++ '-' :: rest)).map _ = _
      rw [hnumber, ofDigits_padded]
      exact congrArg (fun year => some (year, '-' :: rest)) habs
    · next hlast =>
      have hlength : (padded 4 year.natAbs).length = 4 := length_padded (by decide) (by omega)
      rw [takeYear_digits hlength fun _ => isDigit_of_mem_padded, ofDigits_padded, habs]

theorem takePart_padded (hn : n < 10 ^ 2) (rest : List Char) :
    takePart ('-' :: (padded 2 n ++ rest)) = some (n, rest) := by
  rw [takePart_digits (length_padded (by decide) hn) fun _ => isDigit_of_mem_padded, ofDigits_padded]

theorem daysIn_le (year : Int) (month : Nat) : Calendar.daysIn year month ≤ 31 := by
  unfold Calendar.daysIn
  split_ifs <;> omega

/-- Two digits suffice for the month and for the day of a date. -/
theorem Valid.parts_lt (h : d.Valid) : d.month < 10 ^ 2 ∧ d.day < 10 ^ 2 := by
  obtain ⟨-, -, hfirst, hlast⟩ := h
  have hday := daysIn_le d.year d.month
  refine ⟨?_, by omega⟩
  by_contra hmonth
  have : Calendar.daysIn d.year d.month = 0 := by
    unfold Calendar.daysIn
    rw [if_neg (by omega), if_neg (by omega), if_neg (by omega)]
  omega

/-- A date that was written is read back. -/
theorem ofText?_text (h : d.Valid) : ofText? d.text = some d := by
  obtain ⟨hmonth, hday⟩ := h.parts_lt
  have hlist : d.text.toList = yearText d.year ++ '-' :: (padded 2 d.month ++ '-' :: (padded 2 d.day ++ [])) := by
    simp [text]
  rw [ofText?, hlist, takeYear_yearText]
  simp only [Option.bind_eq_bind, Option.bind_some, takePart_padded hmonth, takePart_padded hday]
  exact if_pos ⟨rfl, h⟩

theorem valid_of_ofText? {s : String} (h : ofText? s = some d) : d.Valid := by
  simp only [ofText?, Option.bind_eq_bind, Option.bind_eq_some_iff, Option.ite_none_right_eq_some] at h
  obtain ⟨_, -, _, -, _, -, ⟨-, hvalid⟩, heq⟩ := h
  exact Option.some.inj heq ▸ hvalid

end Date

/-! ### The order of texts -/

theorem Text.compare_char (c d : Char) : compare c d = compare c.toNat d.toNat := by
  have hlt : c < d ↔ c.toNat < d.toNat := UInt32.lt_iff_toNat_lt
  have heq : c = d ↔ c.toNat = d.toNat := Char.toNat_inj.symm
  show compareOfLessAndEq c d = compareOfLessAndEq c.toNat d.toNat
  simp only [compareOfLessAndEq, hlt, heq]

theorem Text.compare_list_eq_lt {cs ds : List Char} : compare cs ds = .lt ↔ cs < ds := by
  induction cs generalizing ds with
  | nil => cases ds <;> simp
  | cons c cs ih =>
    cases ds with
    | nil => simp
    | cons d ds =>
      have hchar : compare c d = .lt ↔ c < d := by
        rw [compare_char, Nat.compare_eq_lt]
        exact UInt32.lt_iff_toNat_lt.symm
      rw [List.compare_cons_cons, Ordering.then_eq_lt, ih, List.cons_lt_cons_iff, hchar,
        Std.LawfulEqOrd.compare_eq_iff_eq]

/-- Texts are in the order of their characters. -/
theorem Text.compare_toList (s t : String) : compare s t = compare s.toList t.toList := by
  have hlt : s < t ↔ compare s.toList t.toList = .lt := compare_list_eq_lt.symm
  have heq : s = t ↔ compare s.toList t.toList = .eq := by
    rw [Std.LawfulEqOrd.compare_eq_iff_eq, String.toList_inj]
  show compareOfLessAndEq s t = _
  simp only [compareOfLessAndEq, hlt, heq]
  cases compare s.toList t.toList <;> rfl

theorem Text.compare_append {cs ds : List Char} (h : cs.length = ds.length) (xs ys : List Char) :
    compare (cs ++ xs) (ds ++ ys) = (compare cs ds).then (compare xs ys) := by
  induction cs generalizing ds with
  | nil =>
    rw [List.length_eq_zero_iff.mp h.symm]
    rfl
  | cons c cs ih =>
    cases ds with
    | nil => cases h
    | cons d ds =>
      simp only [List.cons_append, List.compare_cons_cons, ih (Nat.succ.inj h), Ordering.then_assoc]

namespace Decimal
variable {cs ds : List Char}

/-- The digits in front decide between two numbers, and the last digits if those are equal. -/
theorem compare_digit {c d : Char} (hc : c.isDigit = true) (hd : d.isDigit = true) (n m : Nat) :
    compare (10 * n + (c.toNat - '0'.toNat)) (10 * m + (d.toNat - '0'.toNat)) =
      (compare n m).then (compare c d) := by
  have hclt := digit_lt hc
  have hdlt := digit_lt hd
  obtain ⟨hcge, -⟩ := Char.isDigit_iff_toNat.mp hc
  obtain ⟨hdge, -⟩ := Char.isDigit_iff_toNat.mp hd
  rcases Nat.lt_trichotomy n m with h | rfl | h
  · rw [Nat.compare_eq_lt.mpr h, Nat.compare_eq_lt.mpr (by omega)]
    rfl
  · have hnumbers : 10 * n + (c.toNat - '0'.toNat) < 10 * n + (d.toNat - '0'.toNat) ↔ c.toNat < d.toNat := by
      omega
    have hequal : 10 * n + (c.toNat - '0'.toNat) = 10 * n + (d.toNat - '0'.toNat) ↔ c.toNat = d.toNat := by
      omega
    rw [Text.compare_char, Nat.compare_eq_eq.mpr rfl]
    show compareOfLessAndEq _ _ = compareOfLessAndEq _ _
    simp only [compareOfLessAndEq, hnumbers, hequal]
  · rw [Nat.compare_eq_gt.mpr h, Nat.compare_eq_gt.mpr (by omega)]
    rfl

theorem compare_foldl (hlength : cs.length = ds.length) (hcs : ∀ c ∈ cs, c.isDigit = true)
    (hds : ∀ d ∈ ds, d.isDigit = true) (n m : Nat) :
    compare (cs.foldl (fun n c => 10 * n + (c.toNat - '0'.toNat)) n)
        (ds.foldl (fun n c => 10 * n + (c.toNat - '0'.toNat)) m) =
      (compare n m).then (compare cs ds) := by
  induction cs generalizing ds n m with
  | nil =>
    rw [List.length_eq_zero_iff.mp hlength.symm]
    exact (Ordering.then_eq (o := compare n m)).symm
  | cons c cs ih =>
    cases ds with
    | nil => cases hlength
    | cons d ds =>
      rw [List.forall_mem_cons] at hcs hds
      rw [List.foldl_cons, List.foldl_cons, ih (Nat.succ.inj hlength) hcs.2 hds.2,
        compare_digit hcs.1 hds.1, Ordering.then_assoc, List.compare_cons_cons]

/-- Of digits in equal number, those that come first denote the smaller number. -/
theorem compare_ofDigits (hlength : cs.length = ds.length) (hcs : ∀ c ∈ cs, c.isDigit = true)
    (hds : ∀ d ∈ ds, d.isDigit = true) : compare (ofDigits cs) (ofDigits ds) = compare cs ds :=
  compare_foldl hlength hcs hds 0 0

end Decimal

namespace Date
variable {a b d : Date} {s : String}

theorem compare_padded {width n m : Nat} (hwidth : 0 < width) (hn : n < 10 ^ width) (hm : m < 10 ^ width) :
    compare (padded width n) (padded width m) = compare n m := by
  have hlength : (padded width n).length = (padded width m).length := by
    rw [length_padded hwidth hn, length_padded hwidth hm]
  rw [← compare_ofDigits hlength (fun _ => isDigit_of_mem_padded) fun _ => isDigit_of_mem_padded,
    ofDigits_padded, ofDigits_padded]

/-- A date whose text has the standard shape: its year has four digits. -/
structure Standard (d : Date) : Prop where
  year_nonneg : 0 ≤ d.year
  year_le : d.year ≤ 9999
  valid : d.Valid

theorem Standard.yearText (h : d.Standard) : yearText d.year = padded 4 d.year.natAbs := by
  obtain ⟨hnonneg, hle, -⟩ := h
  rw [Date.yearText, if_neg (by omega), if_neg (by omega)]

/-- Dates with years of four digits are in the order of their texts. -/
theorem compare_text (ha : a.Standard) (hb : b.Standard) : compare a.text b.text = a.order b := by
  have haText := ha.yearText
  have hbText := hb.yearText
  obtain ⟨haNonneg, haLe, haValid⟩ := ha
  obtain ⟨hbNonneg, hbLe, hbValid⟩ := hb
  obtain ⟨haMonth, haDay⟩ := haValid.parts_lt
  obtain ⟨hbMonth, hbDay⟩ := hbValid.parts_lt
  have haYear : a.year.natAbs < 10 ^ 4 := by omega
  have hbYear : b.year.natAbs < 10 ^ 4 := by omega
  have hyear : compare a.year.natAbs b.year.natAbs = compare a.year b.year := by
    have hlt : a.year.natAbs < b.year.natAbs ↔ a.year < b.year := by omega
    have heq : a.year.natAbs = b.year.natAbs ↔ a.year = b.year := by omega
    show compareOfLessAndEq _ _ = compareOfLessAndEq _ _
    simp only [compareOfLessAndEq, hlt, heq]
  have hlength {width n m : Nat} (hwidth : 0 < width) (hn : n < 10 ^ width) (hm : m < 10 ^ width) :
      (padded width n).length = (padded width m).length :=
    (length_padded hwidth hn).trans (length_padded hwidth hm).symm
  -- Year, month and day stand at the same places in both texts, with hyphens between them.
  rw [Text.compare_toList, text, text, String.toList_ofList, String.toList_ofList, haText, hbText,
    List.append_assoc, List.append_assoc, Text.compare_append (hlength (by decide) haYear hbYear),
    compare_padded (by decide) haYear hbYear, hyear, List.cons_append, List.cons_append,
    List.compare_cons_cons, Text.compare_append (hlength (by decide) haMonth hbMonth),
    compare_padded (by decide) haMonth hbMonth, List.compare_cons_cons,
    compare_padded (by decide) haDay hbDay]
  rfl

/-- A text of the standard shape leaves room for a year of four digits without a sign. -/
theorem standard_of_isStandard (hshape : isStandard s = true) (h : ofText? s = some d) : d.Standard := by
  have hlength : d.text.toList.length = 10 := by
    rw [text_of_standard hshape h]
    unfold isStandard at hshape
    split at hshape
    · next hs => rw [hs]; rfl
    · cases hshape
  have hyear : (Date.yearText d.year).length ≤ 4 := by
    have hmonth : 2 ≤ (padded 2 d.month).length := le_length_padded
    have hday : 2 ≤ (padded 2 d.day).length := le_length_padded
    simp only [text, String.toList_ofList, List.length_append, List.length_cons] at hlength
    omega
  have hpadded : 4 ≤ (padded 4 d.year.natAbs).length := le_length_padded
  unfold Date.yearText at hyear
  split at hyear
  · simp only [List.length_cons] at hyear
    omega
  · split at hyear
    · simp only [List.length_cons] at hyear
      omega
    · exact ⟨by omega, by omega, valid_of_ofText? h⟩

end Date

end Leuit
