/-! Values by key, as an association list. Of several entries of one key the first counts; `insert` leaves
only one. A collection is known by `get?`: each operation changes what it finds at one key and at no other. -/
namespace Leuit

structure Keyed (κ α : Type) where
  entries : List (κ × α)

namespace Keyed
variable {κ α : Type} [DecidableEq κ]

def empty : Keyed κ α := ⟨[]⟩

def get? (m : Keyed κ α) (k : κ) : Option α := m.entries.lookup k

def insert (m : Keyed κ α) (k : κ) (a : α) : Keyed κ α :=
  ⟨(k, a) :: m.entries.filter (·.1 ≠ k)⟩

def erase (m : Keyed κ α) (k : κ) : Keyed κ α := ⟨m.entries.filter (·.1 ≠ k)⟩

def keys (m : Keyed κ α) : List κ := m.entries.map (·.1)

/-! ### What is found -/

@[simp] theorem get?_empty (k : κ) : (empty : Keyed κ α).get? k = none := rfl

theorem get?_erase (m : Keyed κ α) (k j : κ) :
    (m.erase k).get? j = if j = k then none else m.get? j := by
  obtain ⟨entries⟩ := m
  show (entries.filter (·.1 ≠ k)).lookup j = if j = k then none else entries.lookup j
  induction entries with
  | nil => simp
  | cons entry rest ih =>
    obtain ⟨i, a⟩ := entry
    by_cases hi : i = k
    · rw [List.filter_cons_of_neg (by simp [hi]), ih]
      by_cases hj : j = k
      · simp [hj]
      · simp [hj, List.lookup_cons, show (j == i) = false by simp [hi, hj]]
    · rw [List.filter_cons_of_pos (by simp [hi]), List.lookup_cons, List.lookup_cons, ih]
      by_cases hj : j = k
      · simp [hj, show (k == i) = false by simp [Ne.symm hi]]
      · simp [hj]

theorem get?_insert (m : Keyed κ α) (k j : κ) (a : α) :
    (m.insert k a).get? j = if j = k then some a else m.get? j := by
  show ((k, a) :: (m.erase k).entries).lookup j = _
  rw [List.lookup_cons]
  by_cases hj : j = k
  · simp [hj]
  · rw [show (j == k) = false by simp [hj], if_neg hj]
    show (m.erase k).get? j = m.get? j
    rw [get?_erase, if_neg hj]

end Keyed

end Leuit
