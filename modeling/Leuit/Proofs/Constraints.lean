import Leuit.Engine.Integrity
import Leuit.Proofs.Outcome
import Leuit.Proofs.Pieces

/-! What a row that passes the checks is like: each check succeeds exactly if the condition it stands for
holds of every field (`Definition.checkRecord_eq_ok`, `Definition.checkAgainst_eq_ok`). -/
namespace Leuit
open Outcome

/-! ### Null fields -/

/-- Being null depends on the trimmed text alone. -/
theorem isNullField_congr {a b : String} (h : Text.trim a = Text.trim b) :
    isNullField a = isNullField b := by
  unfold isNullField
  rw [h]

theorem isNullField_of_allBlank {s : String} (h : Text.allBlank s = true) : isNullField s = true := by
  simp [isNullField, Text.trim_of_allBlank h]

/-- A blank record is a single field. -/
theorem Record.fields_of_allBlank {record : String} (h : Text.allBlank record = true) :
    Record.fields record = [record] := by
  refine Text.split_of_not_mem fun hmem => ?_
  have := Text.allBlank_iff.mp h _ hmem
  exact absurd this (by decide)

/-! ### One field -/

namespace Column
variable {c : Column} {view : Snapshot} {i : Nat} {field value : String} {others : List (List String)}

theorem checkUnique_eq_ok :
    c.checkUnique i value others = .ok () ↔
      ((c.isPrimary || c.isUnique) = true → ∀ other ∈ others, fieldIs i value other = false) := by
  unfold checkUnique
  cases hkey : c.isPrimary || c.isUnique
  · simp
  · cases hany : others.any (fieldIs i value) <;> simpa using hany

theorem checkField_of_null (h : isNullField field = true) :
    c.checkField view i field others = .ok () ↔ c.isNotNull = false := by
  unfold checkField
  cases hn : c.isNotNull <;> simp [h]

theorem checkField_of_not_null (h : isNullField field = false) :
    c.checkField view i field others = .ok () ↔
      c.checkUnique i (Text.trim field) others = .ok () ∧
        ∀ key, c.foreignKey = some key → c.checkReference view key (Text.trim field) = .ok () := by
  unfold checkField
  simp only [h, Bool.false_eq_true, if_false]
  cases hu : c.checkUnique i (Text.trim field) others with
  | error e => simp
  | ok u => cases hk : c.foreignKey <;> simp

end Column

/-! ### Whole rows -/

namespace Definition
variable {d : Definition} {view : Snapshot} {record : String} {fields : List String}
  {others : List (List String)}

theorem fieldsOf_eq_ok :
    d.fieldsOf record = .ok fields ↔
      fields = Record.fields record ∧ fields.length = d.columns.length := by
  unfold fieldsOf
  by_cases h : (Record.fields record).length = d.columns.length
  · simp only [h, if_true, Except.ok.injEq]
    exact ⟨fun he => ⟨he.symm, he ▸ h⟩, fun he => he.1.symm⟩
  · simp only [h, if_false, reduceCtorEq, false_iff]
    rintro ⟨rfl, hlen⟩
    exact h hlen

/-- All stored rows can be read if each has as many fields as there are columns. -/
theorem mapM_fieldsOf_eq_ok {rows : List String} {read : List (List String)} :
    rows.mapM d.fieldsOf = .ok read ↔
      (∀ r ∈ rows, (Record.fields r).length = d.columns.length) ∧ read = rows.map Record.fields := by
  rw [mapM_eq_ok]
  induction rows generalizing read with
  | nil => simp
  | cons r rows ih =>
    rw [List.forall₂_cons_left_iff]
    simp only [ih]
    simp only [fieldsOf_eq_ok, List.mem_cons, forall_eq_or_imp, List.map_cons]
    constructor
    · rintro ⟨_, _, ⟨rfl, hr⟩, ⟨hrows, rfl⟩, rfl⟩
      exact ⟨⟨hr, hrows⟩, rfl⟩
    · rintro ⟨⟨hr, hrows⟩, rfl⟩
      exact ⟨_, _, ⟨rfl, hr⟩, ⟨hrows, rfl⟩, rfl⟩

theorem checkTypes_eq_ok {pairs : List (Column × String)} :
    checkTypes pairs = .ok () ↔ ∀ c f, (c, f) ∈ pairs → c.type.conforms f = true := by
  induction pairs with
  | nil => simp [checkTypes]
  | cons pair rest ih =>
    obtain ⟨column, field⟩ := pair
    unfold checkTypes
    by_cases hc : column.type.conforms field = true
    · simp only [hc, if_true, ih, List.mem_cons, Prod.mk.injEq]
      constructor
      · rintro h c f (⟨rfl, rfl⟩ | hmem)
        · exact hc
        · exact h c f hmem
      · exact fun h c f hmem => h c f (.inr hmem)
    · simp only [hc, if_false, Bool.false_eq_true, reduceCtorEq, false_iff]
      exact fun h => hc (h column field List.mem_cons_self)

theorem checkRecord_eq_ok :
    d.checkRecord record = .ok fields ↔
      fields = Record.fields record ∧ fields.length = d.columns.length ∧
        ∀ c f, (c, f) ∈ d.columns.zip fields → c.type.conforms f = true := by
  unfold checkRecord
  cases hf : d.fieldsOf record with
  | error e =>
    simp only [reduceCtorEq, false_iff]
    rintro ⟨hfields, hlen, _⟩
    rw [fieldsOf_eq_ok.mpr ⟨hfields, hlen⟩] at hf
    cases hf
  | ok found =>
    obtain ⟨hfound, hlen⟩ := fieldsOf_eq_ok.mp hf
    simp only [map_eq_ok]
    constructor
    · rintro ⟨u, hu, rfl⟩
      exact ⟨hfound, hlen, checkTypes_eq_ok.mp hu⟩
    · rintro ⟨hfields, _, htypes⟩
      have : found = fields := hfound.trans hfields.symm
      exact ⟨(), checkTypes_eq_ok.mpr (this ▸ htypes), this⟩

/-- The checks go through the fields from left to right, each with its position. -/
theorem checkFieldsFrom_eq_ok {i : Nat} {pairs : List (Column × String)} :
    checkFieldsFrom view others i pairs = .ok () ↔
      ∀ (j : Nat) (c : Column) (f : String), pairs[j]? = some (c, f) →
        c.checkField view (i + j) f others = .ok () := by
  induction pairs generalizing i with
  | nil => simp [checkFieldsFrom]
  | cons pair rest ih =>
    obtain ⟨column, field⟩ := pair
    unfold checkFieldsFrom
    cases hc : column.checkField view i field others with
    | error e =>
      simp only [reduceCtorEq, false_iff]
      intro h
      have := h 0 column field rfl
      rw [Nat.add_zero, hc] at this
      cases this
    | ok u =>
      simp only [ih]
      constructor
      · intro h j c f hj
        cases j with
        | zero => cases hj; exact hc
        | succ j => rw [Nat.add_comm j, ← Nat.add_assoc]; exact h j c f hj
      · intro h j c f hj
        rw [Nat.add_assoc, Nat.add_comm 1]
        exact h (j + 1) c f hj

theorem checkAgainst_eq_ok :
    d.checkAgainst view fields others = .ok () ↔
      ∀ (i : Nat) (c : Column) (f : String), (d.columns.zip fields)[i]? = some (c, f) →
        c.checkField view i f others = .ok () := by
  unfold checkAgainst
  simp only [checkFieldsFrom_eq_ok, Nat.zero_add]

theorem checkNew_eq_ok :
    d.checkNew view fields = .ok () ↔
      ∃ records, view.records d.name = .ok records ∧
        d.checkAgainst view fields ((Record.rows records).map Record.fields) = .ok () := by
  unfold checkNew
  cases view.records d.name <;> simp

end Definition

end Leuit
