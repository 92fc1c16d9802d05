import Leuit.Decimal.Integer

/-! Numerals that were written are read back. -/
namespace Leuit.Decimal
variable {n : Nat} {s : String}

theorem numeral?_toDigits (n : Nat) : numeral? (Nat.toDigits 10 n) = some n := by
  have hdigits : (Nat.toDigits 10 n).all Char.isDigit = true := by
    rw [List.all_eq_true]
    exact fun c hc => Nat.isDigit_of_mem_toDigits (by decide) (by decide) hc
  have hvalue : ofDigits (Nat.toDigits 10 n) = n := Nat.ofDigitChars_ten_toDigits
  simp [numeral?, hdigits, Nat.toDigits_ne_nil, hvalue]

theorem count?_toString (h : n < countBound) : count? (toString n) = some n := by
  have hplus : ∀ rest, Nat.toDigits 10 n ≠ '+' :: rest := by
    intro rest heq
    have : ('+').isDigit = true :=
      Nat.isDigit_of_mem_toDigits (b := 10) (n := n) (by decide) (by decide) (by simp [heq])
    exact absurd this (by decide)
  unfold count?
  rw [Nat.toString_eq_repr, Nat.toList_repr]
  split
  · next rest heq => exact absurd heq (hplus rest)
  · dsimp only
    rw [numeral?_toDigits]
    exact if_pos h

theorem count?_lt (h : count? s = some n) : n < countBound := by
  unfold count? at h
  dsimp only at h
  split at h
  · cases h
  · simp only [Option.ite_none_right_eq_some, Option.some.injEq] at h
    exact h.2 ▸ h.1

end Leuit.Decimal
