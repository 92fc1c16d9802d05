import Leuit.Proofs.ForeignKeys
import Mathlib

/-! Why a row is refused. The checks of a row go through its fields one after the other, and the first fault
that they come to is reported (`Outcome.FirstFault`). What a column asks of its field (`Column.Permits`) and
what it reports of a field that lacks it (`Column.Refuses`) are the two outcomes of one check: it succeeds
exactly if the field is permitted (`Column.checkField_eq_ok`), and fails with exactly the faults for which the
field is refused (`Column.checkField_eq_error`). -/
namespace Leuit
open Outcome

/-! ### First faults -/

namespace Outcome
variable {ε α : Type} {f : Nat → α → Except ε Unit} {x : α} {xs : List α} {fault : ε}

/-- The check of an element fails, and those of the elements before it succeed. -/
def FirstFault (f : Nat → α → Except ε Unit) (xs : List α) (fault : ε) : Prop :=
  ∃ i x, xs[i]? = some x ∧ f i x = .error fault ∧ ∀ j y, j < i → xs[j]? = some y → f j y = .ok ()

theorem not_firstFault_nil : ¬ FirstFault f [] fault := by
  intro ⟨i, x, hx, _⟩
  cases hx

theorem firstFault_cons_of_error {first : ε} (h : f 0 x = .error first) :
    FirstFault f (x :: xs) fault ↔ first = fault := by
  constructor
  · intro ⟨i, y, hy, hfault, hbefore⟩
    cases i with
    | zero =>
      cases hy
      exact Except.error.inj (h.symm.trans hfault)
    | succ i => cases h.symm.trans (hbefore 0 x (Nat.succ_pos i) rfl)
  · intro heq
    exact ⟨0, x, rfl, heq ▸ h, fun j _ hj => absurd hj (Nat.not_lt_zero j)⟩

theorem firstFault_cons_of_ok (h : f 0 x = .ok ()) :
    FirstFault f (x :: xs) fault ↔ FirstFault (fun i => f (i + 1)) xs fault := by
  constructor
  · intro ⟨i, y, hy, hfault, hbefore⟩
    cases i with
    | zero =>
      cases hy
      cases h.symm.trans hfault
    | succ i => exact ⟨i, y, hy, hfault, fun j z hj hz => hbefore (j + 1) z (Nat.succ_lt_succ hj) hz⟩
  · intro ⟨i, y, hy, hfault, hbefore⟩
    refine ⟨i + 1, y, hy, hfault, fun j z hj hz => ?_⟩
    cases j with
    | zero =>
      cases hz
      exact h
    | succ j => exact hbefore j z (Nat.lt_of_succ_lt_succ hj) hz

end Outcome

/-! ### Tables -/

theorem Snapshot.open_eq_error {view : Snapshot} {table role : String} {action : Action} {fault : QueryError} :
    view.open table role action = .error fault ↔
      view.load table = .error fault ∨ ∃ d, view.load table = .ok d ∧
        d.permissions.allows role action = false ∧ fault = .permissionDenied role action table := by
  unfold Snapshot.open Definition.require
  cases hload : view.load table with
  | error e => simp
  | ok d =>
    cases hallows : d.permissions.allows role action with
    | true => simp [Except.map, hallows]
    | false =>
      simp only [hallows, load_name hload, Except.map, Bool.false_eq_true, if_false, Except.error.injEq,
        reduceCtorEq, Except.ok.injEq, exists_eq_left', true_and, false_or]
      exact eq_comm

/-! ### Fields -/

/-- Why a foreign key of a column finds no record with a text. -/
inductive Snapshot.Misses (view : Snapshot) (column : String) (key : ForeignKey) (value : String) :
    QueryError → Prop where
  | tableMissing {item : Item} (h : view.load key.table = .error (.notFound item)) :
      Misses view column key value (.violation (.foreignKey column key .tableMissing))
  /-- A parent that is there but cannot be loaded is not missing. -/
  | unloadable {fault : QueryError} (h : view.load key.table = .error fault)
      (hfound : ∀ item, fault ≠ .notFound item) : Misses view column key value fault
  | columnMissing {parent : Definition} (h : view.load key.table = .ok parent)
      (hcolumn : parent.columnIgnoringCase? key.column = none) :
      Misses view column key value (.violation (.foreignKey column key .columnMissing))
  | unreadable {parent : Definition} {i : Nat} {fault : QueryError} (h : view.load key.table = .ok parent)
      (hcolumn : parent.columnIgnoringCase? key.column = some i) (hrecords : view.records key.table = .error fault) :
      Misses view column key value fault
  | valueMissing {parent : Definition} {i : Nat} {records : List String} (h : view.load key.table = .ok parent)
      (hcolumn : parent.columnIgnoringCase? key.column = some i) (hrecords : view.records key.table = .ok records)
      (hnone : ∀ record ∈ records, fieldIs i value (Record.fields record) = false) :
      Misses view column key value (.violation (.foreignKey column key (.valueMissing value)))

namespace Column
variable {c : Column} {view : Snapshot} {i : Nat} {field value : String} {others : List (List String)}
  {key : ForeignKey} {fault : QueryError}

theorem checkReference_eq_error :
    c.checkReference view key value = .error fault ↔ view.Misses c.name key value fault := by
  constructor
  · intro h
    unfold checkReference at h
    split at h
    · next item hload => cases h; exact .tableMissing hload
    · next e hother hload => cases h; exact .unloadable hload hother
    · next parent hload =>
      split at h
      · next hcolumn => cases h; exact .columnMissing hload hcolumn
      · next i hcolumn =>
        split at h
        · next e hrecords => cases h; exact .unreadable hload hcolumn hrecords
        · next records hrecords =>
          split at h
          · cases h
          · next hany =>
            cases h
            exact .valueMissing hload hcolumn hrecords (by simpa using hany)
  · intro h
    unfold checkReference
    cases h with
    | tableMissing h => simp only [h]
    | unloadable h hfound =>
      rw [h]
      cases fault with
      | notFound item => exact absurd rfl (hfound item)
      | _ => rfl
    | columnMissing h hcolumn => simp only [h, hcolumn]
    | unreadable h hcolumn hrecords => simp only [h, hcolumn, hrecords]
    | @valueMissing parent i records h hcolumn hrecords hnone =>
      have hany : (records.any fun record => fieldIs i value (Record.fields record)) = false := by
        simpa using hnone
      simp [h, hcolumn, hrecords, hany]

/-- Whether another row has the text of a key column. -/
def Taken (c : Column) (i : Nat) (value : String) (others : List (List String)) : Prop :=
  (c.isPrimary || c.isUnique) = true ∧ ∃ other ∈ others, fieldIs i value other = true

/-- What a column asks of the field of a new row, the one at position `i`. -/
structure Permits (c : Column) (view : Snapshot) (others : List (List String)) (i : Nat) (field : String) :
    Prop where
  present : c.isNotNull = true → isNullField field = false
  distinct : isNullField field = false → ¬ c.Taken i (Text.trim field) others
  refers : isNullField field = false → ∀ key, c.foreignKey = some key → view.Refers key (Text.trim field)

/-- What a column reports of a field that it does not permit. A field that is null is not compared with any
other, and one that is taken is not looked for in another table. -/
inductive Refuses (c : Column) (view : Snapshot) (others : List (List String)) (i : Nat) (field : String) :
    QueryError → Prop where
  | notNull (h : isNullField field = true) (hcolumn : c.isNotNull = true) :
      Refuses c view others i field (.violation (.notNull c.name))
  | duplicate (h : isNullField field = false) (htaken : c.Taken i (Text.trim field) others) :
      Refuses c view others i field (.violation
        (.duplicate (if c.isPrimary then .primary else .unique) c.name (Text.trim field)))
  | reference {key : ForeignKey} {fault : QueryError} (h : isNullField field = false)
      (hfree : ¬ c.Taken i (Text.trim field) others) (hkey : c.foreignKey = some key)
      (hmisses : view.Misses c.name key (Text.trim field) fault) : Refuses c view others i field fault

theorem checkUnique_of_taken (h : c.Taken i value others) :
    c.checkUnique i value others =
      .error (.violation (.duplicate (if c.isPrimary then .primary else .unique) c.name value)) := by
  obtain ⟨hkey, other, hmem, hfield⟩ := h
  have hany : others.any (fieldIs i value) = true := List.any_eq_true.mpr ⟨other, hmem, hfield⟩
  simp [checkUnique, hkey, hany]

theorem checkUnique_of_not_taken (h : ¬ c.Taken i value others) : c.checkUnique i value others = .ok () :=
  checkUnique_eq_ok.mpr fun hkey other hmem =>
    Bool.eq_false_iff.mpr fun hfield => h ⟨hkey, other, hmem, hfield⟩

theorem checkField_eq_ok : c.checkField view i field others = .ok () ↔ c.Permits view others i field := by
  cases hnull : isNullField field with
  | true =>
    rw [checkField_of_null hnull]
    constructor
    · intro h
      exact ⟨by simp [h], by simp [hnull], by simp [hnull]⟩
    · intro h
      have hpresent := h.present
      rw [hnull] at hpresent
      exact Bool.eq_false_iff.mpr fun hn => Bool.noConfusion (hpresent hn)
  | false =>
    rw [checkField_of_not_null hnull]
    constructor
    · intro ⟨hunique, hreference⟩
      refine ⟨fun _ => hnull, fun _ htaken => ?_, fun _ key hkey =>
        checkReference_eq_ok.mp (hreference key hkey)⟩
      rw [checkUnique_of_taken htaken] at hunique
      cases hunique
    · intro h
      exact ⟨checkUnique_of_not_taken (h.distinct hnull), fun key hkey =>
        checkReference_eq_ok.mpr (h.refers hnull key hkey)⟩

theorem checkField_eq_error :
    c.checkField view i field others = .error fault ↔ c.Refuses view others i field fault := by
  constructor
  · intro h
    unfold checkField at h
    split at h
    · next hnull =>
      split at h
      · next hcolumn => cases h; exact .notNull hnull hcolumn
      · cases h
    · next hnull =>
      have hnull := Bool.eq_false_iff.mpr hnull
      by_cases htaken : c.Taken i (Text.trim field) others
      · rw [checkUnique_of_taken htaken] at h
        cases h
        exact .duplicate hnull htaken
      · rw [checkUnique_of_not_taken htaken] at h
        dsimp only at h
        split at h
        · cases h
        · next key hkey => exact .reference hnull htaken hkey (checkReference_eq_error.mp h)
  · intro h
    unfold checkField
    cases h with
    | notNull h hcolumn => simp only [h, hcolumn, if_true]
    | duplicate h htaken => simp only [h, checkUnique_of_taken htaken, Bool.false_eq_true, if_false]
    | reference h hfree hkey hmisses =>
      simp only [h, checkUnique_of_not_taken hfree, hkey, Bool.false_eq_true, if_false]
      exact checkReference_eq_error.mpr hmisses

end Column

/-! ### Records -/

theorem ColumnType.conforms_iff {type : ColumnType} {field : String} :
    type.conforms field = true ↔ (isNullField field = false → type.accepts field = true) := by
  cases hnull : isNullField field <;> simp [conforms, hnull]

namespace Definition
variable {d : Definition} {view : Snapshot} {record : String} {fields : List String}
  {others : List (List String)} {pairs : List (Column × String)} {fault : QueryError}

/-- The check of one field by the type of its column. -/
def checkType (pair : Column × String) : Except QueryError Unit :=
  if pair.1.type.conforms pair.2 then .ok () else .error (.typeMismatch pair.1.name pair.1.type pair.2)

theorem checkType_eq_ok {c : Column} {field : String} :
    checkType (c, field) = .ok () ↔ (isNullField field = false → c.type.accepts field = true) := by
  rw [← ColumnType.conforms_iff, checkType]
  split <;> simp_all

theorem checkType_eq_error {c : Column} {field : String} :
    checkType (c, field) = .error fault ↔
      isNullField field = false ∧ c.type.accepts field = false ∧ fault = .typeMismatch c.name c.type field := by
  cases hnull : isNullField field <;> cases haccepts : c.type.accepts field <;>
    simp [checkType, ColumnType.conforms, hnull, haccepts, eq_comm]

theorem checkTypes_eq_error :
    checkTypes pairs = .error fault ↔ FirstFault (fun _ pair => checkType pair) pairs fault := by
  induction pairs with
  | nil => simp [checkTypes, not_firstFault_nil]
  | cons pair rest ih =>
    cases hconforms : pair.1.type.conforms pair.2 with
    | true => rw [firstFault_cons_of_ok (by simp [checkType, hconforms]), ← ih, checkTypes, if_pos hconforms]
    | false =>
      rw [firstFault_cons_of_error (by simp only [checkType, hconforms]; rfl), checkTypes,
        if_neg (by simp [hconforms]), Except.error.injEq]

theorem checkFieldsFrom_eq_error {i : Nat} :
    checkFieldsFrom view others i pairs = .error fault ↔
      FirstFault (fun j pair => pair.1.checkField view (i + j) pair.2 others) pairs fault := by
  induction pairs generalizing i with
  | nil => simp [checkFieldsFrom, not_firstFault_nil]
  | cons pair rest ih =>
    rw [checkFieldsFrom]
    -- The check of the first element, as one of those that the fault is looked for in.
    let f (j : Nat) (pair : Column × String) := pair.1.checkField view (i + j) pair.2 others
    cases hcheck : pair.1.checkField view i pair.2 others with
    | error first => rw [firstFault_cons_of_error (f := f) hcheck, Except.error.injEq]
    | ok u =>
      rw [firstFault_cons_of_ok (f := f) hcheck]
      dsimp only
      rw [ih]
      simp only [f, Nat.add_assoc, Nat.add_comm 1]

theorem checkRecord_eq_error :
    d.checkRecord record = .error fault ↔
      ((Record.fields record).length ≠ d.columns.length ∧
          fault = .arity d.columns.length (Record.fields record).length) ∨
        ((Record.fields record).length = d.columns.length ∧
          FirstFault (fun _ pair => checkType pair) (d.columns.zip (Record.fields record)) fault) := by
  unfold checkRecord fieldsOf
  dsimp only
  by_cases hlen : (Record.fields record).length = d.columns.length
  · simp [hlen, map_eq_error, checkTypes_eq_error]
  · simp [hlen, eq_comm]

theorem checkNew_eq_error :
    d.checkNew view fields = .error fault ↔
      view.records d.name = .error fault ∨ ∃ records, view.records d.name = .ok records ∧
        FirstFault (fun i pair => pair.1.checkField view i pair.2 ((Record.rows records).map Record.fields))
          (d.columns.zip fields) fault := by
  unfold checkNew checkAgainst
  cases view.records d.name with
  | error e => simp
  | ok records => simp [checkFieldsFrom_eq_error]

end Definition

end Leuit
