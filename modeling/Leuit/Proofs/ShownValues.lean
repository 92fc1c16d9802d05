import Leuit.Proofs.CalendarTexts
import Leuit.Proofs.KeyLookups
import Leuit.Proofs.Spellings

/-! Values and what is shown of them. A value of each kind comes from fields of one type only, and a text
from itself only (`Value.ofField_eq_int` and its companions). Integers and dates are read back from what is
shown of them, so reading what is shown of a value gives the value again, also for a field that its type
does not accept, and the value is found by what is shown of it (`Value.ofField_agrees`). -/
namespace Leuit

/-! ### Integers that were written -/

namespace Decimal
variable {n : Int} {s : String}

theorem takeSign_of_isDigit {c : Char} (hc : c.isDigit = true) (cs : List Char) :
    takeSign (c :: cs) = (false, c :: cs) := by
  unfold takeSign
  split
  · next heq => cases heq; cases hc
  · next heq => cases heq; cases hc
  · rfl

theorem takeSign_toDigits (n : Nat) : takeSign (Nat.toDigits 10 n) = (false, Nat.toDigits 10 n) := by
  obtain ⟨c, cs, heq⟩ := List.exists_cons_of_ne_nil (Nat.toDigits_ne_nil (b := 10) (n := n))
  have hc : c.isDigit = true :=
    Nat.isDigit_of_mem_toDigits (b := 10) (n := n) (by decide) (by decide) (by simp [heq])
  rw [heq, takeSign_of_isDigit hc]

/-- What is shown of an integer: its digits, with a minus in front if it is negative. -/
theorem toList_toString (n : Int) :
    (toString n).toList = (if n < 0 then ['-'] else []) ++ Nat.toDigits 10 n.natAbs := by
  cases n with
  | ofNat n => exact Nat.toList_repr
  | negSucc n =>
    show ("-" ++ Nat.repr (n + 1)).toList = _
    rw [String.toList_append, Nat.toList_repr, if_pos (Int.negSucc_lt_zero n)]
    rfl

theorem bare_toString_int (n : Int) : Text.Bare (toString n).toList := by
  intro c hc
  rw [toList_toString, List.mem_append] at hc
  rcases hc with hc | hc
  · split at hc
    · rw [List.mem_singleton.mp hc]
      rfl
    · cases hc
  · exact Date.isBlank_of_isDigit (Nat.isDigit_of_mem_toDigits (by decide) (by decide) hc)

theorem integer?_toString (hlow : -(signedBound : Int) ≤ n) (hhigh : n < signedBound) :
    integer? (toString n) = some n := by
  unfold integer?
  rw [toList_toString]
  split_ifs with hneg
  · have habs : -(n.natAbs : Int) = n := by omega
    simp only [List.cons_append, List.nil_append, takeSign, numeral?_toDigits, if_true]
    rw [if_pos (by omega), habs]
  · have habs : (n.natAbs : Int) = n := by omega
    simp only [List.nil_append, takeSign_toDigits, numeral?_toDigits, Bool.false_eq_true, if_false]
    rw [if_pos (by omega), habs]

/-- An integer that was read has 64 bits. -/
theorem integer?_bounds (h : integer? s = some n) : -(signedBound : Int) ≤ n ∧ n < signedBound := by
  unfold integer? at h
  split at h
  next negative digits heq =>
    split at h
    · cases h
    · have : (0 : Int) < signedBound := by decide
      split at h <;> simp only [Option.ite_none_right_eq_some, Option.some.injEq] at h <;> omega

end Decimal

/-! ### Texts that are not null -/

theorem Date.bare_text (d : Date) : Text.Bare d.text.toList := by
  have hpadded : ∀ width n, Text.Bare (padded width n) := fun _ _ c hc =>
    isBlank_of_isDigit (isDigit_of_mem_padded hc)
  have hyear : Text.Bare (yearText d.year) := by
    intro c hc
    unfold yearText at hc
    split_ifs at hc
    · rcases List.mem_cons.mp hc with rfl | hc
      exacts [rfl, hpadded _ _ c hc]
    · rcases List.mem_cons.mp hc with rfl | hc
      exacts [rfl, hpadded _ _ c hc]
    · exact hpadded _ _ c hc
  intro c hc
  rw [text, String.toList_ofList] at hc
  simp only [List.mem_append, List.mem_cons] at hc
  rcases hc with (hc | rfl | hc) | rfl | hc
  · exact hyear c hc
  · rfl
  · exact hpadded _ _ c hc
  · rfl
  · exact hpadded _ _ c hc

/-- A word with a digit in it is not the null word. -/
theorem isNullField_of_isDigit {s : String} {c : Char} (hbare : Text.Bare s.toList) (hmem : c ∈ s.toList)
    (hc : c.isDigit = true) : isNullField s = false := by
  have hlower : c.toLower.isDigit = true := by
    rw [Text.forall_char_toLower (f := Char.isDigit) (by decide +kernel), hc]
  have hnone : (nullWord.toList.map Char.toLower).any Char.isDigit = false := by decide
  have hword : Text.sameIgnoringCase s nullWord = false := by
    rw [Text.sameIgnoringCase, beq_eq_false_iff_ne]
    intro heq
    rw [← heq, List.any_eq_false] at hnone
    exact hnone _ (List.mem_map_of_mem hmem) hlower
  have hne : s ≠ "" := by
    rintro rfl
    cases hmem
  simp [isNullField, hbare.trim, hword, hne]

theorem isNullField_toString (n : Int) : isNullField (toString n) = false := by
  obtain ⟨c, hc⟩ := List.exists_mem_of_ne_nil _ (Nat.toDigits_ne_nil (b := 10) (n := n.natAbs))
  have hmem : c ∈ (toString n).toList := by
    rw [Decimal.toList_toString]
    exact List.mem_append_right _ hc
  have hdigit : c.isDigit = true := Nat.isDigit_of_mem_toDigits (by decide) (by decide) hc
  exact isNullField_of_isDigit (Decimal.bare_toString_int n) hmem hdigit

theorem isNullField_dateText (d : Date) : isNullField d.text = false := by
  have hday : Date.padded 2 d.day ≠ [] := Date.padded_ne_nil
  obtain ⟨c, hc⟩ := List.exists_mem_of_ne_nil _ hday
  have hmem : c ∈ d.text.toList := by
    rw [Date.text, String.toList_ofList]
    exact List.mem_append_right _ (List.mem_cons_of_mem _ hc)
  exact isNullField_of_isDigit d.bare_text hmem (Date.isDigit_of_mem_padded hc)

namespace Value
variable {type : ColumnType} {raw literal : String} {v : Value}

/-! ### What a field is read as -/

/-- How a field of a type gives a value. Any type may leave a field as the text it is. -/
inductive ComesFrom : ColumnType → String → Value → Prop
  | null {type : ColumnType} {raw : String} (h : isNullField raw = true) : ComesFrom type raw null
  | int {raw : String} {n : Int} (h : Decimal.integer? (Text.trim raw) = some n) : ComesFrom .int raw (int n)
  | float {raw : String} {x : Float} (h : Decimal.float? (Text.trim raw) = some x) :
    ComesFrom .float raw (float x)
  | bool {raw : String} (b : Bool) : ComesFrom .bool raw (bool b)
  | date {raw : String} {d : Date} (h : Date.ofText? (Text.trim raw) = some d) : ComesFrom .date raw (date d)
  | text {type : ColumnType} (raw : String) : ComesFrom type raw (text raw)

theorem comesFrom_ofField (type : ColumnType) (raw : String) : ComesFrom type raw (ofField type raw) := by
  cases hnull : isNullField raw with
  | true =>
    rw [ofField_of_null hnull]
    exact .null hnull
  | false =>
    unfold ofField
    rw [if_neg (ne_true_of_eq_false hnull)]
    cases type with
    | int =>
      cases hn : Decimal.integer? (Text.trim raw) with
      | none => exact .text raw
      | some n => exact .int hn
    | float =>
      cases hx : Decimal.float? (Text.trim raw) with
      | none => exact .text raw
      | some x => exact .float hx
    | bool =>
      dsimp only
      split_ifs
      · exact .bool true
      · exact .bool false
      · exact .text raw
    | date =>
      cases hd : Date.ofText? (Text.trim raw) with
      | none => exact .text raw
      | some d => exact .date hd
    | _ => exact .text raw

theorem comesFrom_of_eq (h : ofField type raw = v) : ComesFrom type raw v :=
  h ▸ comesFrom_ofField type raw

/-! ### Kinds -/

/-- The values of a type, and of no other kind. -/
inductive HasType : Value → ColumnType → Prop
  | int (n : Int) : HasType (int n) .int
  | float (x : Float) : HasType (float x) .float
  | bool (b : Bool) : HasType (bool b) .bool
  | date (d : Date) : HasType (date d) .date
  | char (s : String) (limit : Nat) : HasType (text s) (.char limit)
  | enum (s : String) (values : List String) : HasType (text s) (.enum values)
  | string (s : String) : HasType (text s) .string
  | text (s : String) : HasType (text s) .text

/-- A field that a type accepts gives a value of the type. -/
theorem hasType_ofField (hnull : isNullField raw = false) (ha : type.accepts raw = true) :
    (ofField type raw).HasType type := by
  unfold ofField
  rw [if_neg (ne_true_of_eq_false hnull)]
  cases type with
  | int =>
    simp only [ColumnType.accepts] at ha
    obtain ⟨n, hn⟩ := Option.isSome_iff_exists.mp ha
    rw [hn]
    exact .int n
  | float =>
    simp only [ColumnType.accepts] at ha
    obtain ⟨x, hx⟩ := Option.isSome_iff_exists.mp ha
    rw [hx]
    exact .float x
  | bool =>
    have hfield : Text.trim raw = "true" ∨ Text.trim raw = "false" := by
      simpa [ColumnType.accepts] using ha
    rcases hfield with hf | hf
    · rw [hf]
      exact .bool true
    · rw [hf]
      exact .bool false
  | date =>
    simp only [ColumnType.accepts, Bool.and_eq_true] at ha
    obtain ⟨d, hd⟩ := Option.isSome_iff_exists.mp ha.2
    rw [hd]
    exact .date d
  | char limit => exact .char raw limit
  | enum values => exact .enum raw values
  | string => exact .string raw
  | text => exact .text raw

/-! ### Reading what is shown -/

/-- What is shown of a value is read as the value. -/
theorem ofField_display (hfloat : type ≠ .float) :
    ofField type (ofField type raw).display = ofField type raw := by
  have hsource := comesFrom_ofField type raw
  generalize hv : ofField type raw = v at hsource
  cases hsource with
  | null h => exact ofField_of_null (by decide)
  | @int _ n hn =>
    obtain ⟨hlow, hhigh⟩ := Decimal.integer?_bounds hn
    have hnull : ¬isNullField (toString n) = true := ne_true_of_eq_false (isNullField_toString n)
    rw [display, ofField, if_neg hnull, (Decimal.bare_toString_int n).trim,
      Decimal.integer?_toString hlow hhigh]
    rfl
  | float h => exact absurd rfl hfloat
  | bool b => cases b <;> decide
  | @date _ d hd =>
    have hnull : ¬isNullField d.text = true := ne_true_of_eq_false (isNullField_dateText d)
    rw [display, ofField, if_neg hnull, d.bare_text.trim, Date.ofText?_text (Date.valid_of_ofText? hd)]
    rfl
  | text => exact hv

/-- A literal that is read as a value equals it. -/
theorem meets_eq_of_ofField (hnull : v ≠ null) (hfloat : type ≠ .float) (h : ofField type literal = v) :
    v.meets .eq literal type = true := by
  have hsource := comesFrom_of_eq h
  unfold meets
  rw [if_neg nofun, h]
  cases hsource with
  | null => exact absurd rfl hnull
  | float => exact absurd rfl hfloat
  | date => simp [compares, order?, Operator.holds, Date.order_eq_eq]
  | _ => simp [compares, order?, Operator.holds, Operator.isEquality]

/-- **Validation, reading and display agree.** A field that may be stored in a column is read as null exactly
if it is null, and otherwise as a value of the kind of the column's type. Whatever the field is, if the type
is not that of floats, what is shown of its value is read as the same value, and finds it. -/
theorem ofField_agrees (type : ColumnType) (raw : String) :
    (type.conforms raw = true →
      (ofField type raw = null ↔ isNullField raw = true) ∧
      (isNullField raw = false → (ofField type raw).HasType type)) ∧
    (type ≠ .float →
      ofField type (ofField type raw).display = ofField type raw ∧
      (ofField type raw ≠ null →
        (ofField type raw).meets .eq (ofField type raw).display type = true)) := by
  refine ⟨fun hconforms => ⟨?_, fun hnull => ?_⟩, fun hfloat => ?_⟩
  · cases hnull : isNullField raw with
    | true => exact iff_of_true (ofField_of_null hnull) rfl
    | false => exact iff_of_false (ofField_ne_null hnull) nofun
  · have haccepts : type.accepts raw = true := by simpa [ColumnType.conforms, hnull] using hconforms
    exact hasType_ofField hnull haccepts
  · have hread : ofField type (ofField type raw).display = ofField type raw := ofField_display hfloat
    exact ⟨hread, fun hnull => meets_eq_of_ofField hnull hfloat hread⟩

/-- The fields are a date with blanks around it, and one that is written too short to be stored. -/
theorem ofField_agrees_dates :
    (ofField .date " 2024-02-29 ").HasType .date ∧
      ofField .date (ofField .date " 2024-02-29 ").display = .date ⟨2024, 2, 29⟩ ∧
      (ofField .date "24-2-9").meets .eq "0024-02-09" .date = true := by
  have hlong : ofField .date " 2024-02-29 " = .date ⟨2024, 2, 29⟩ := by decide +kernel
  have hshort : ofField .date "24-2-9" = .date ⟨24, 2, 9⟩ := by decide +kernel
  obtain ⟨hstored, hshown⟩ := ofField_agrees .date " 2024-02-29 "
  obtain ⟨-, hshown'⟩ := ofField_agrees .date "24-2-9"
  refine ⟨(hstored (by decide +kernel)).2 (by decide +kernel), ?_, ?_⟩
  · rw [(hshown nofun).1, hlong]
  · have hfound := (hshown' nofun).2 (by rw [hshort]; exact nofun)
    rw [hshort] at hfound ⊢
    exact hfound

end Value

end Leuit
