import Leuit.Proofs.Dates
import Leuit.Proofs.SameRows

/-! Looking rows up by a key. Two rows differ in the trimmed text of a key column, and a condition compares
values; a literal that a value equals determines the trimmed text of its field for every type but `INT`
(`Value.trim_of_meets`), where it determines the number only (`Value.int_of_meets`). So a key identifies
one row at most, but for the numbers that are stored in two spellings (`Engine.keys_identify_rows`). -/
namespace Leuit
open Outcome

/-! ### Fields that equal a literal -/

namespace Value
variable {type : ColumnType} {field literal : String}

theorem ofField_of_null (h : isNullField field = true) : ofField type field = null := if_pos h

theorem ofField_ne_null (h : isNullField field = false) : ofField type field ≠ null := by
  unfold ofField
  rw [if_neg (by simp [h])]
  cases type with
  | int => cases Decimal.integer? (Text.trim field) <;> exact nofun
  | float => cases Decimal.float? (Text.trim field) <;> exact nofun
  | bool => dsimp only; split <;> [skip; split] <;> exact nofun
  | date => cases Date.ofText? (Text.trim field) <;> exact nofun
  | _ => exact nofun

theorem null_not_meets (h : isNullField literal = false) : null.meets .eq literal type = false := by
  have hliteral : ofField type literal ≠ null := ofField_ne_null h
  cases hb : ofField type literal <;> simp_all [meets, compares]

/-- A field that is not null and may be stored in a column of integers is read as one. -/
theorem ofField_int (h : isNullField field = false) (ha : ColumnType.accepts .int field = true) :
    ∃ n, ofField .int field = int n := by
  unfold ColumnType.accepts at ha
  obtain ⟨n, hn⟩ := Option.isSome_iff_exists.mp ha
  exact ⟨n, by simp [ofField, h, hn]⟩

theorem int_of_meets {n : Int} (hliteral : isNullField literal = false)
    (h : (int n).meets .eq literal .int = true) : ofField .int literal = int n := by
  have hvalue : ofField .int literal = (Decimal.integer? (Text.trim literal)).elim (text literal) int := by
    simp [ofField, hliteral]
  unfold meets at h
  rw [hvalue] at h ⊢
  cases hm : Decimal.integer? (Text.trim literal) with
  | none =>
    rw [hm] at h
    cases h
  | some m =>
    rw [hm] at h
    have : n = m := by simpa [compares, order?, Operator.holds] using h
    rw [this]
    rfl

/-- The text of a field that equals a literal is that of the literal's value, whatever the type is but
numbers. -/
theorem trim_of_meets (hint : type ≠ .int) (hfloat : type ≠ .float) (hnull : isNullField field = false)
    (hliteral : isNullField literal = false) (ha : type.accepts field = true)
    (h : (ofField type field).meets .eq literal type = true) :
    Text.trim field = Text.trim (ofField type literal).display := by
  have htext : type = .string ∨ type = .text ∨ (∃ n, type = .char n) ∨ (∃ vs, type = .enum vs) →
      Text.trim field = Text.trim (ofField type literal).display := by
    intro htype
    have hvalue : ∀ raw, isNullField raw = false → ofField type raw = text raw := by
      intro raw hraw
      rcases htype with rfl | rfl | ⟨n, rfl⟩ | ⟨vs, rfl⟩ <;> simp [ofField, hraw]
    rw [hvalue literal hliteral]
    have : field = literal := by
      simpa [hvalue field hnull, hvalue literal hliteral, meets, compares, order?, Operator.holds] using h
    rw [this]
    rfl
  cases type with
  | int => exact absurd rfl hint
  | float => exact absurd rfl hfloat
  | bool =>
    have hfield : Text.trim field = "true" ∨ Text.trim field = "false" := by
      simpa [ColumnType.accepts] using ha
    have htrue : Text.trim "true" = "true" := by decide
    have hfalse : Text.trim "false" = "false" := by decide
    rcases hfield with hf | hf <;> by_cases ht : Text.trim literal = "true" <;>
      by_cases hl : Text.trim literal = "false" <;>
      simp_all [ofField, meets, compares, Operator.isEquality, Operator.holds, display]
  | date =>
    simp only [ColumnType.accepts, Bool.and_eq_true, Option.isSome_iff_exists] at ha
    obtain ⟨hshape, d, hd⟩ := ha
    have htext : d.text = Text.trim field := Date.text_of_standard hshape hd
    have hvalue : ofField .date field = date d := by simp [ofField, hnull, hd]
    cases hl : Date.ofText? (Text.trim literal) with
    | some other =>
      have hother : ofField .date literal = date other := by simp [ofField, hliteral, hl]
      have : d = other := by
        simpa [hvalue, hother, meets, compares, order?, Operator.holds, Date.order_eq_eq] using h
      rw [hother, display, ← this, htext, Text.trim_trim]
    | none =>
      have hother : ofField .date literal = text literal := by simp [ofField, hliteral, hl]
      have : d.text = Text.trim literal := by
        simpa [hvalue, hother, meets, compares, order?, Operator.holds] using h
      rw [hother, display, ← this, htext]
  | char n => exact htext (.inr (.inr (.inl ⟨n, rfl⟩)))
  | enum vs => exact htext (.inr (.inr (.inr ⟨vs, rfl⟩)))
  | string => exact htext (.inl rfl)
  | text => exact htext (.inr (.inl rfl))

end Value

/-! ### Rows that a condition finds -/

/-- At most one element has a property if no two have it. -/
theorem length_filter_le_one_iff {α : Type} {p : α → Bool} {xs : List α} :
    (xs.filter p).length ≤ 1 ↔ xs.Pairwise fun a b => p a = true → ¬p b = true := by
  have hnone : ∀ ys : List α, ys.Pairwise (fun _ _ => False) ↔ ys.length ≤ 1 := by
    intro ys
    match ys with
    | [] | [_] => simp
    | a :: b :: rest =>
      exact iff_of_false (fun h => List.rel_of_pairwise_cons h List.mem_cons_self) (by simp)
  rw [← hnone, List.pairwise_filter]

theorem Relation.filter_single {r : Relation} {field literal : String} {op : Operator} {i : Nat}
    {column : HeaderColumn} (hi : last? r.header field = some i) (hcolumn : r.header[i]? = some column) :
    (r.filter [⟨field, op, literal, none⟩]).rows =
      r.rows.filter fun row => (row.cell i).meets op literal column.type := by
  simp [filter, Condition.holdsAll, Condition.continueChain, satisfies, hi, hcolumn]

theorem Definition.cell_rowOf {d : Definition} {record field : String} {i : Nat} {c : Column}
    (hc : d.columns[i]? = some c) (hf : (Record.fields record)[i]? = some field) :
    (d.rowOf record).cell i = Value.ofField c.type field := by
  simp [Row.cell, rowOf, values, List.getElem?_zipWith, hc, hf]

/-! ### Keys -/

namespace Definition
variable {d : Definition} {records : List String} {i : Nat} {c : Column}

/-- No two rows have the same integer at a position. -/
def IntegersApart (d : Definition) (records : List String) (i : Nat) : Prop :=
  (Record.rows records).Pairwise fun r s => ∀ n, (d.rowOf r).cell i = .int n → (d.rowOf s).cell i ≠ .int n

/-- Whether a literal equals the value of a record at a position. -/
def hasAt (d : Definition) (i : Nat) (c : Column) (literal record : String) : Bool :=
  ((d.rowOf record).cell i).meets .eq literal c.type

/-- In sound records a row has a field at a key column, which the type accepts if it is not null. -/
theorem Sound.field (h : d.Sound records) (hc : d.columns[i]? = some c) {r : String}
    (hr : r ∈ Record.rows records) :
    ∃ f, (Record.fields r)[i]? = some f ∧ (isNullField f = false → c.type.accepts f = true) := by
  obtain ⟨hi, -⟩ := List.getElem?_eq_some_iff.mp hc
  have hlen : i < (Record.fields r).length := (h.rows r hr).arity ▸ hi
  have hf : (Record.fields r)[i]? = some (Record.fields r)[i] := List.getElem?_eq_getElem hlen
  exact ⟨_, hf, (h.rows r hr).typed c _ (List.mem_of_getElem? (List.getElem?_zip_eq_some.mpr ⟨hc, hf⟩))⟩

/-- What a row with a literal in a column is like. -/
theorem Sound.of_hasAt (h : d.Sound records) (hc : d.columns[i]? = some c) (hfloat : c.type ≠ .float)
    {literal r : String} (hliteral : isNullField literal = false) (hr : r ∈ Record.rows records)
    (hhas : d.hasAt i c literal r = true) :
    ∃ f, (Record.fields r)[i]? = some f ∧ isNullField f = false ∧
      (c.type = .int → ∃ n, (d.rowOf r).cell i = .int n ∧ Value.ofField .int literal = .int n) ∧
      (c.type ≠ .int → Text.trim f = Text.trim (Value.ofField c.type literal).display) := by
  obtain ⟨f, hf, haccepts⟩ := h.field hc hr
  rw [hasAt, cell_rowOf hc hf] at hhas
  cases hnull : isNullField f with
  | true =>
    rw [Value.ofField_of_null hnull, Value.null_not_meets hliteral] at hhas
    cases hhas
  | false =>
    refine ⟨f, hf, hnull, fun hint => ?_, fun hint => ?_⟩
    · obtain ⟨n, hn⟩ := Value.ofField_int hnull (hint ▸ haccepts hnull)
      rw [hint, hn] at hhas
      exact ⟨n, by rw [cell_rowOf hc hf, hint, hn], Value.int_of_meets hliteral hhas⟩
    · exact Value.trim_of_meets hint hfloat hnull hliteral (haccepts hnull) hhas

/-- A literal is found at most once in a key column, but for the integers that are stored twice. -/
theorem Sound.hasAt_unique_iff (h : d.Sound records) (hc : d.columns[i]? = some c)
    (hkey : (c.isPrimary || c.isUnique) = true) (hfloat : c.type ≠ .float) :
    (∀ literal, isNullField literal = false →
      ((Record.rows records).filter (d.hasAt i c literal)).length ≤ 1) ↔
    (c.type = .int → d.IntegersApart records i) := by
  constructor
  · intro hunique hint
    refine List.pairwise_iff_getElem.mpr fun j k hj hk hjk n hrow hother => ?_
    obtain ⟨f, hf, -⟩ := h.field hc (List.getElem_mem hj)
    have hvalue : Value.ofField .int f = .int n := by rw [← hrow, cell_rowOf hc hf, hint]
    have hnull : isNullField f = false := by
      cases hn : isNullField f with
      | false => rfl
      | true => rw [Value.ofField_of_null hn] at hvalue; cases hvalue
    -- The field of the first of the two rows finds both.
    have hmeets : (Value.int n).meets .eq f c.type = true := by
      simp [Value.meets, hint, hvalue, Value.compares, Value.order?, Operator.holds]
    have hpair := List.pairwise_iff_getElem.mp (length_filter_le_one_iff.mp (hunique f hnull)) j k hj hk hjk
    exact hpair (by rw [hasAt, hrow, hmeets]) (by rw [hasAt, hother, hmeets])
  · intro happart literal hliteral
    rw [length_filter_le_one_iff]
    by_cases hint : c.type = .int
    · refine (happart hint).imp_of_mem fun hr hs hrs hhas hhas' => ?_
      obtain ⟨-, -, -, hnumber, -⟩ := h.of_hasAt hc hfloat hliteral hr hhas
      obtain ⟨-, -, -, hnumber', -⟩ := h.of_hasAt hc hfloat hliteral hs hhas'
      obtain ⟨n, hn, hvalue⟩ := hnumber hint
      obtain ⟨m, hm, hvalue'⟩ := hnumber' hint
      cases hvalue.symm.trans hvalue'
      exact hrs n hn hm
    · refine ((h.keys i c hc hkey).filter _).imp_of_mem fun hr hs hrs hhas hhas' => ?_
      obtain ⟨f, hf, hnull, -, htext⟩ := h.of_hasAt hc hfloat hliteral hr hhas
      obtain ⟨g, hg, -, -, htext'⟩ := h.of_hasAt hc hfloat hliteral hs hhas'
      exact hrs f g hf hg hnull ((htext hint).trans (htext' hint).symm)

end Definition

/-! ### Runs -/

namespace Engine

/-- **A key identifies one row, unless one integer is stored in two spellings.** Whatever queries were
executed from an empty store: selecting the rows of a table whose field in a primary or unique column,
other than one of floats, equals a literal succeeds for a caller that may read the table, and no literal
that is not null finds more than one row, exactly if the column is none of integers or no two rows have the
same integer in it. -/
theorem keys_identify_rows (inputs : List (Caller × String)) {caller : Caller} {table document : String}
    {d : Definition} {i : Nat} {c : Column} {field : String}
    (hschema : (reached inputs).store.schemas.get? (caller.database, table) = some document)
    (hdecode : Definition.decode table document = .ok d)
    (hread : d.permissions.allows caller.role .read = true)
    (hc : d.columns[i]? = some c) (hkey : (c.isPrimary || c.isUnique) = true) (hfloat : c.type ≠ .float)
    (hfield : Relation.last? (Relation.headerOf d) field = some i) :
    ∃ (records : List String) (found : String → List Row),
      (reached inputs).store.records.get? (caller.database, table) = some records ∧
      (∀ literal, ((reached inputs).run caller
          (.select (.matching table ["*"] [⟨field, .eq, literal, none⟩]))).1 =
        .ok (.rows ⟨(Relation.headerOf d).map HeaderColumn.qualified, found literal⟩)) ∧
      ((∀ literal, isNullField literal = false → (found literal).length ≤ 1) ↔
        (c.type = .int → d.IntegersApart records i)) := by
  obtain ⟨records, hrecords, hsound⟩ :=
    (stored_data_sound inputs []).2 caller.database table document d hschema hdecode
  have hopen : (Storage.snapshot (reached inputs).store caller.database).open table caller.role .read =
      .ok d :=
    Snapshot.open_eq_ok.mpr ⟨Snapshot.load_eq_ok.mpr
      ⟨document, by rw [Memory.snapshot_schema, hschema], hdecode⟩, hread⟩
  have hregular : d.Regular records := fun r hr => (hsound.rows r hr).arity
  have hcolumn : (Relation.headerOf d)[i]? = some ⟨d.name, c.name, c.type⟩ := by
    simp [Relation.headerOf, hc]
  refine ⟨records, fun literal =>
    ((Record.rows records).filter (d.hasAt i c literal)).map d.rowOf, hrecords, fun literal => ?_, ?_⟩
  · rw [run_selected rfl hopen ((Memory.snapshot_records ..).mpr hrecords) hregular
      (SelectRows.result_matching_all _)]
    have hrows : (Relation.filter ⟨Relation.headerOf d, (Record.rows records).map d.rowOf⟩
        [⟨field, .eq, literal, none⟩]).rows =
          ((Record.rows records).filter (d.hasAt i c literal)).map d.rowOf := by
      rw [Relation.filter_single hfield hcolumn, List.filter_map]
      rfl
    rw [hrows]
  · simp only [List.length_map]
    exact hsound.hasAt_unique_iff hc hkey hfloat

/-- A table with two keys and a row. -/
def twoKeys : List (Caller × String) :=
  let caller : Caller := ⟨"asep", "admin", "kantor"⟩
  [(caller, "DAMEL t id:INT:PK,k:STRING:UNIQUE"), (caller, "SIMPEN t 1|a")]

def twoKeysDefinition : Definition where
  name := "t"
  columns := [(Column.plain "id" .int).primary, (Column.plain "k" .string).unique]
  permissions := .standard

theorem keys_identify_rows_two_keys :
    let caller : Caller := ⟨"siti", "user", "kantor"⟩
    ∃ found : String → List Row,
      (∀ literal, ((reached twoKeys).run caller
          (.select (.matching "t" ["*"] [⟨"k", .eq, literal, none⟩]))).1 =
        .ok (.rows ⟨["t.id", "t.k"], found literal⟩)) ∧
      ∀ literal, isNullField literal = false → (found literal).length ≤ 1 := by
  intro caller
  have hschema : (reached twoKeys).store.schemas.get? (caller.database, "t") =
      some "id:INT:PK|k:STRING:UNIQUE\nadmin=read,write\nsupermaung=read,write\nuser=read\n" := by
    decide +kernel
  have hdecode : Definition.decode "t"
      "id:INT:PK|k:STRING:UNIQUE\nadmin=read,write\nsupermaung=read,write\nuser=read\n" =
      .ok twoKeysDefinition := by
    decide +kernel
  have hread : twoKeysDefinition.permissions.allows caller.role .read = true := by decide +kernel
  have hc : twoKeysDefinition.columns[1]? = some (Column.plain "k" .string).unique := rfl
  have hfield : Relation.last? (Relation.headerOf twoKeysDefinition) "k" = some 1 := by decide +kernel
  obtain ⟨records, found, -, hfound, hunique⟩ :=
    keys_identify_rows twoKeys hschema hdecode hread hc rfl nofun hfield
  exact ⟨found, hfound, hunique.mpr nofun⟩

/-- **A number in two spellings is found twice by its key.** -/
theorem key_finds_two_rows :
    let caller : Caller := ⟨"asep", superRole, "kantor"⟩
    let e := reached [(caller, "DAMEL t id:INT:PK"), (caller, "SIMPEN t 1"), (caller, "SIMPEN t 01")]
    (e.run caller (.select (.matching "t" ["*"] [⟨"id", .eq, "1", none⟩]))).1 =
      .ok (.rows ⟨["t.id"], [[.int 1], [.int 1]]⟩) := by
  decide +kernel

end Engine

end Leuit
