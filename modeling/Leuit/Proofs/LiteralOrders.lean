import Leuit.Proofs.ShownValues
import Leuit.Value.Comparison
import Mathlib.Data.String.Basic

/-! Columns and the literals they are compared with. Each value of a column has one place with respect to a
literal: before it, at it or after it. Operators hold by this place (`Value.meets_eq_holds`), which is kept
or grows with the value (`Value.place_mono`); so a comparison selects the values of the column from one end
of it (`Value.literal_divides_column`). Dates change from the order of the calendar to that of texts where the
literal is no date, as a year or a month is none, and the two orders are the same on what a column stores. -/
namespace Leuit

/-! ### Orders -/

/-- What is at most something below a pivot is below it, and what is at least something above it is above
it. -/
theorem compare_mono {α : Type} {cmp : α → α → Ordering} [Std.TransCmp cmp] {a b : α}
    (h : (cmp a b).isLE = true) (pivot : α) :
    (cmp b pivot = .lt → cmp a pivot = .lt) ∧ (cmp a pivot = .gt → cmp b pivot = .gt) :=
  ⟨Std.TransCmp.lt_of_isLE_of_lt h, Std.TransCmp.gt_of_isGE_of_gt (Std.OrientedCmp.isGE_of_isLE h)⟩

theorem Text.isLE_compare {s t : String} : (compare s t).isLE = true ↔ s ≤ t := Std.LawfulBCmp.isLE_iff_le

instance : Std.TransCmp Date.order :=
  inferInstanceAs (Std.TransCmp (compareLex (compareOn Date.year)
    (compareLex (compareOn Date.month) (compareOn Date.day))))

namespace Operator

theorem holds_one (o : Ordering) : ∃! op, op ∈ [lt, eq, gt] ∧ op.holds o = true := by
  have hsome : ∃ op ∈ [lt, eq, gt], op.holds o = true := by cases o <;> decide
  have hone : ∀ op ∈ [lt, eq, gt], ∀ op' ∈ [lt, eq, gt],
      op.holds o = true → op'.holds o = true → op' = op := by
    cases o <;> decide
  obtain ⟨op, hmem, hholds⟩ := hsome
  exact ⟨op, ⟨hmem, hholds⟩, fun op' h => hone op hmem op' h.1 hholds h.2⟩

theorem holds_ge (o : Ordering) : ge.holds o = true ↔ gt.holds o = true ∨ eq.holds o = true := by
  cases o <;> decide

theorem holds_le (o : Ordering) : le.holds o = true ↔ lt.holds o = true ∨ eq.holds o = true := by
  cases o <;> decide

theorem holds_ne (o : Ordering) : ne.holds o = true ↔ ¬eq.holds o = true := by
  cases o <;> decide

theorem holds_mono {o o' : Ordering} (hlt : o' = .lt → o = .lt) (hgt : o = .gt → o' = .gt) :
    (∀ op ∈ [lt, le], op.holds o' = true → op.holds o = true) ∧
      ∀ op ∈ [gt, ge], op.holds o = true → op.holds o' = true := by
  revert hlt hgt
  cases o <;> cases o' <;> decide

end Operator

/-- A value that a column of the type can hold, and not null. -/
def ColumnType.Holds (type : ColumnType) (v : Value) : Prop :=
  ∃ field, type.conforms field = true ∧ Value.ofField type field = v ∧ v ≠ .null

/-- The field that a value comes from is accepted by the type. -/
theorem ColumnType.Holds.field {type : ColumnType} {v : Value} (h : type.Holds v) :
    ∃ field, isNullField field = false ∧ type.accepts field = true ∧ Value.ofField type field = v := by
  obtain ⟨field, hconforms, hvalue, hne⟩ := h
  cases hnull : isNullField field with
  | true => exact absurd (hvalue.symm.trans (Value.ofField_of_null hnull)) hne
  | false => exact ⟨field, hnull, by simpa [ColumnType.conforms, hnull] using hconforms, hvalue⟩

theorem ColumnType.Holds.hasType {type : ColumnType} {v : Value} (h : type.Holds v) : v.HasType type := by
  obtain ⟨field, hnull, haccepts, rfl⟩ := h.field
  exact Value.hasType_ofField hnull haccepts

namespace Value
variable {type : ColumnType} {literal : String} {v w : Value} {op : Operator}

/-- The first value is the second or comes before it: as an integer, a date or a text. -/
inductive AtMost : Value → Value → Prop
  | int {n m : Int} (h : n ≤ m) : AtMost (int n) (int m)
  | date {d e : Date} (h : (d.order e).isLE = true) : AtMost (date d) (date e)
  | text {s t : String} (h : s ≤ t) : AtMost (text s) (text t)

/-! ### Places -/

/-- The values of columns, and what the literals are read as that have a place among them. -/
inductive Meeting : Value → Value → Prop
  | int (n m : Int) : Meeting (int n) (int m)
  | date {d : Date} (hd : d.Standard) (e : Date) : Meeting (date d) (date e)
  | datePrefix {d : Date} (hd : d.Standard) (raw : String) : Meeting (date d) (text raw)
  | text (s raw : String) : Meeting (text s) (text raw)

theorem meeting_of_holds (hfloat : type ≠ .float) (hbool : type ≠ .bool)
    (hliteral : isNullField literal = false)
    (hint : type = .int → (Decimal.integer? (Text.trim literal)).isSome = true) (h : type.Holds v) :
    Meeting v (ofField type literal) := by
  obtain ⟨field, hnull, haccepts, rfl⟩ := h.field
  unfold ofField
  rw [if_neg (ne_true_of_eq_false hnull), if_neg (ne_true_of_eq_false hliteral)]
  cases type with
  | int =>
    simp only [ColumnType.accepts] at haccepts
    obtain ⟨n, hn⟩ := Option.isSome_iff_exists.mp haccepts
    obtain ⟨m, hm⟩ := Option.isSome_iff_exists.mp (hint rfl)
    rw [hn, hm]
    exact .int n m
  | float => exact absurd rfl hfloat
  | bool => exact absurd rfl hbool
  | date =>
    simp only [ColumnType.accepts, Bool.and_eq_true] at haccepts
    obtain ⟨d, hd⟩ := Option.isSome_iff_exists.mp haccepts.2
    have hstandard : d.Standard := Date.standard_of_isStandard haccepts.1 hd
    rw [hd]
    cases Date.ofText? (Text.trim literal) with
    | none => exact .datePrefix hstandard literal
    | some e => exact .date hstandard e
  | _ => exact .text field literal

/-- Where a value stands with respect to a literal. -/
def place (type : ColumnType) (literal : String) (v : Value) : Ordering :=
  match v, ofField type literal with
  | date d, text raw => compare d.text (Text.trim raw)
  | v, b => (v.order? b).getD .eq

theorem meets_eq_holds (h : Meeting v (ofField type literal)) (hop : op ≠ .like) :
    v.meets op literal type = op.holds (place type literal v) := by
  unfold meets place
  rw [if_neg hop]
  generalize ofField type literal = b at h
  cases h <;> simp [compares, hop, order?]

/-- A value stands where smaller values do or after them. -/
theorem place_mono (hv : Meeting v (ofField type literal)) (hw : Meeting w (ofField type literal))
    (h : AtMost v w) :
    (place type literal w = .lt → place type literal v = .lt) ∧
      (place type literal v = .gt → place type literal w = .gt) := by
  unfold place
  generalize ofField type literal = b at hv hw
  cases h with
  | int h =>
    cases hv with
    | int n pivot => exact compare_mono (Int.isLE_compare.mpr h) pivot
  | date h =>
    cases hv with
    | date hd pivot => exact compare_mono h pivot
    | datePrefix hd raw =>
      cases hw with
      | datePrefix he =>
        have htext := h
        rw [← Date.compare_text hd he] at htext
        exact compare_mono htext (Text.trim raw)
  | text h =>
    cases hv with
    | text s raw => exact compare_mono (Text.isLE_compare.mpr h) raw

/-! ### Columns -/

/-- Of two values of a column one comes first or both are the same. -/
theorem AtMost.total (hv : v.HasType type) (hw : w.HasType type) (hfloat : type ≠ .float)
    (hbool : type ≠ .bool) : AtMost v w ∨ AtMost w v := by
  cases hv with
  | int n =>
    cases hw with
    | int m => exact (Int.le_total n m).imp .int .int
  | float => exact absurd rfl hfloat
  | bool => exact absurd rfl hbool
  | date d =>
    cases hw with
    | date e =>
      have hle : (d.order e).isLE = true ∨ (e.order d).isLE = true := by
        have hswap : e.order d = (d.order e).swap := Std.OrientedCmp.eq_swap
        rw [hswap]
        cases d.order e <;> simp
      exact hle.imp .date .date
  | char s | enum s | string s | text s =>
    cases hw with
    | _ t => exact (String.le_total s t).imp .text .text

/-- How a literal divides the values of a column. -/
structure Divides (type : ColumnType) (literal : String) : Prop where
  one : ∀ v, type.Holds v → ∃! op, op ∈ [Operator.lt, .eq, .gt] ∧ v.meets op literal type = true
  ge : ∀ v, type.Holds v →
    (v.meets .ge literal type = true ↔ v.meets .gt literal type = true ∨ v.meets .eq literal type = true)
  le : ∀ v, type.Holds v →
    (v.meets .le literal type = true ↔ v.meets .lt literal type = true ∨ v.meets .eq literal type = true)
  ne : ∀ v, type.Holds v → (v.meets .ne literal type = true ↔ ¬v.meets .eq literal type = true)
  total : ∀ v w, type.Holds v → type.Holds w → AtMost v w ∨ AtMost w v
  below : ∀ v w, type.Holds v → type.Holds w → AtMost v w → ∀ op ∈ [Operator.lt, .le],
    w.meets op literal type = true → v.meets op literal type = true
  above : ∀ v w, type.Holds v → type.Holds w → AtMost v w → ∀ op ∈ [Operator.gt, .ge],
    v.meets op literal type = true → w.meets op literal type = true

/-- **Comparisons with a literal agree on one order of the column.** For every type but floats and truth
values and every literal that is not null, and a number if the type is that of integers: each value of the
column is less than the literal, equal to it or greater than it, the other operators say the same, and each
comparison selects values from one end of the column. -/
theorem literal_divides_column (hfloat : type ≠ .float) (hbool : type ≠ .bool)
    (hliteral : isNullField literal = false)
    (hint : type = .int → (Decimal.integer? (Text.trim literal)).isSome = true) : Divides type literal := by
  have hmeeting : ∀ v, type.Holds v → Meeting v (ofField type literal) := fun v =>
    meeting_of_holds hfloat hbool hliteral hint
  have hmeets : ∀ v, type.Holds v → ∀ op, op ≠ .like →
      v.meets op literal type = op.holds (place type literal v) := fun v hv op =>
    meets_eq_holds (hmeeting v hv)
  have hmono : ∀ v w, type.Holds v → type.Holds w → AtMost v w →
      (∀ op ∈ [Operator.lt, .le], op.holds (place type literal w) = true →
        op.holds (place type literal v) = true) ∧
      ∀ op ∈ [Operator.gt, .ge], op.holds (place type literal v) = true →
        op.holds (place type literal w) = true := fun v w hv hw hle =>
    have hplace := place_mono (hmeeting v hv) (hmeeting w hw) hle
    Operator.holds_mono hplace.1 hplace.2
  have hthree : ∀ op ∈ [Operator.lt, .eq, .gt], op ≠ .like := by decide
  have hbelow : ∀ op ∈ [Operator.lt, .le], op ≠ .like := by decide
  have habove : ∀ op ∈ [Operator.gt, .ge], op ≠ .like := by decide
  constructor
  case one =>
    intro v hv
    obtain ⟨op, ⟨hmem, hholds⟩, hone⟩ := Operator.holds_one (place type literal v)
    refine ⟨op, ⟨hmem, (hmeets v hv op (hthree op hmem)).trans hholds⟩, fun op' h => hone op' ⟨h.1, ?_⟩⟩
    rw [← hmeets v hv op' (hthree op' h.1)]
    exact h.2
  case ge =>
    intro v hv
    rw [hmeets v hv .ge nofun, hmeets v hv .gt nofun, hmeets v hv .eq nofun]
    exact Operator.holds_ge _
  case le =>
    intro v hv
    rw [hmeets v hv .le nofun, hmeets v hv .lt nofun, hmeets v hv .eq nofun]
    exact Operator.holds_le _
  case ne =>
    intro v hv
    rw [hmeets v hv .ne nofun, hmeets v hv .eq nofun]
    exact Operator.holds_ne _
  case total => exact fun v w hv hw => AtMost.total hv.hasType hw.hasType hfloat hbool
  case below =>
    intro v w hv hw hle op hop
    rw [hmeets v hv op (hbelow op hop), hmeets w hw op (hbelow op hop)]
    exact (hmono v w hv hw hle).1 op hop
  case above =>
    intro v w hv hw hle op hop
    rw [hmeets v hv op (habove op hop), hmeets w hw op (habove op hop)]
    exact (hmono v w hv hw hle).2 op hop

/-- A month is no date, and divides dates as their texts. -/
theorem month_divides_dates :
    Date.ofText? "2024-05" = none ∧
      (∃! op, op ∈ [Operator.lt, .eq, .gt] ∧ (date ⟨2024, 5, 1⟩).meets op "2024-05" .date = true) ∧
      (date ⟨2023, 12, 31⟩).meets .lt "2024-05" .date = true := by
  have hdivides : Divides .date "2024-05" := literal_divides_column nofun nofun (by decide) nofun
  have hdecember : ColumnType.date.Holds (date ⟨2023, 12, 31⟩) :=
    ⟨"2023-12-31", by decide +kernel, by decide +kernel, nofun⟩
  have hapril : ColumnType.date.Holds (date ⟨2024, 4, 30⟩) :=
    ⟨" 2024-04-30", by decide +kernel, by decide +kernel, nofun⟩
  have hmay : ColumnType.date.Holds (date ⟨2024, 5, 1⟩) :=
    ⟨"2024-05-01", by decide +kernel, by decide +kernel, nofun⟩
  refine ⟨by decide +kernel, hdivides.one _ hmay, ?_⟩
  exact hdivides.below _ _ hdecember hapril (.date (by decide)) .lt (by decide) (by decide +kernel)

end Value

end Leuit
