import Leuit.Proofs.Comparisons
import Leuit.Proofs.JoinOrigins
import Leuit.Proofs.Pieces
import Leuit.Proofs.StoredRecords

/-! The sides of the condition of a join. Between relations with no table in common a qualified name is that of
a column of one of them (`Relation.Apart.first?_other`), so a condition between two columns may name them in
either order. Named in order, the left column first, they are compared as written; named the other way round,
they are exchanged and compared by the same operator (`Relation.Apart.matchesOn_reversed`), as if its mirror
were written. So a condition means what it says in order, and in reverse if its operator is an equality; for
the other operators only where no two rows tell it from its mirror (`Relation.conditions_join_sides`). -/
namespace Leuit

/-- The condition with its sides exchanged and the same operator between them. -/
def Condition.exchange (on : Condition) : Condition := { on with field := on.literal, literal := on.field }

/-- If no point stands in the name of its table, a column is qualified by its qualified name alone. -/
theorem HeaderColumn.isQualifiedBy_eq {c : HeaderColumn} (h : '.' ∉ c.table.toList) (field : String) :
    c.isQualifiedBy field = (c.qualified == field) := by
  have hcut : Text.cut? '.' field = some (c.table, c.name) ↔ c.qualified = field := by
    rw [Text.cut?_eq_some, and_iff_left h, ← String.toList_inj, eq_comm]
    simp [qualified]
  rw [isQualifiedBy, Bool.eq_iff_iff, beq_iff_eq, ← hcut]
  rcases Text.cut? '.' field with _ | ⟨table, name⟩
  · simp
  · show (c.table == table && c.name == name) = true ↔ _
    rw [Bool.and_eq_true, beq_iff_eq, beq_iff_eq, Option.some.injEq, Prod.mk.injEq, eq_comm,
      @eq_comm _ c.name]

namespace Relation

/-! ### Qualified names -/

/-- A column of the relation has the qualified name. -/
def Names (r : Relation) (name : String) : Prop := ∃ h ∈ r.header, h.qualified = name

/-- The position of the column with a qualified name, the first one of several. -/
def named? (r : Relation) (name : String) : Option Nat := r.header.findIdx? (·.qualified == name)

/-- No point stands in the name of a table or of a column. -/
def Plain (r : Relation) : Prop := ∀ h ∈ r.header, '.' ∉ h.table.toList ∧ '.' ∉ h.name.toList

/-- Two relations with plain names and with no table in common. -/
structure Apart (left right : Relation) : Prop where
  plainLeft : left.Plain
  plainRight : right.Plain
  tables : ∀ h ∈ left.header, ∀ h' ∈ right.header, h.table ≠ h'.table

theorem named?_eq_none {r : Relation} {name : String} : r.named? name = none ↔ ¬r.Names name := by
  simp [named?, Names]

theorem Names.named? {r : Relation} {name : String} (h : r.Names name) : ∃ i, r.named? name = some i := by
  by_contra hnone
  exact named?_eq_none.mp (Option.eq_none_iff_forall_ne_some.mpr fun i hi => hnone ⟨i, hi⟩) h

theorem findIdx?_congr {α : Type} {p q : α → Bool} {xs : List α} (h : ∀ x ∈ xs, p x = q x) :
    xs.findIdx? p = xs.findIdx? q := by
  induction xs with
  | nil => rfl
  | cons x rest ih =>
    rw [List.findIdx?_cons, List.findIdx?_cons, h x List.mem_cons_self,
      ih fun y hy => h y (List.mem_cons_of_mem x hy)]

/-- A qualified name is that of its column. -/
theorem Plain.first?_named {r : Relation} (h : r.Plain) {name : String} {i : Nat}
    (hname : r.named? name = some i) : first? r.header name = some i := by
  have hcongr : r.header.findIdx? (·.isQualifiedBy name) = r.named? name :=
    findIdx?_congr fun c hc => HeaderColumn.isQualifiedBy_eq (h c hc).1 name
  rw [first?, hcongr, hname]
  rfl

variable {left right : Relation} {on : Condition} {name : String}

theorem Apart.symm (h : left.Apart right) : right.Apart left :=
  ⟨h.plainRight, h.plainLeft, fun c hc c' hc' => (h.tables c' hc' c hc).symm⟩

/-- A qualified name of one relation is none of the other. -/
theorem Apart.not_names (h : left.Apart right) (hname : left.Names name) : ¬right.Names name := by
  rintro ⟨c', hc', hname'⟩
  obtain ⟨c, hc, rfl⟩ := hname
  have hcut : Text.cut? '.' c.qualified = some (c'.table, c'.name) :=
    Text.cut?_eq_some.mpr ⟨by rw [← hname']; simp [HeaderColumn.qualified], (h.plainRight c' hc').1⟩
  have hcut' : Text.cut? '.' c.qualified = some (c.table, c.name) :=
    Text.cut?_eq_some.mpr ⟨by simp [HeaderColumn.qualified], (h.plainLeft c hc).1⟩
  rw [hcut', Option.some.injEq, Prod.mk.injEq] at hcut
  exact h.tables c hc c' hc' hcut.1

/-- Neither is it the bare name of a column there, since there is a point in it. -/
theorem Apart.first?_other (h : left.Apart right) (hname : left.Names name) :
    first? right.header name = none := by
  have hqualified : right.header.findIdx? (·.isQualifiedBy name) = none := by
    rw [List.findIdx?_eq_none_iff]
    intro c hc
    rw [HeaderColumn.isQualifiedBy_eq (h.plainRight c hc).1, beq_eq_false_iff_ne]
    exact fun heq => h.not_names hname ⟨c, hc, heq⟩
  have hbare : right.header.findIdx? (·.name == name) = none := by
    rw [List.findIdx?_eq_none_iff]
    intro c hc
    rw [beq_eq_false_iff_ne]
    rintro rfl
    obtain ⟨c', hc', hname⟩ := hname
    refine (h.plainRight c hc).2 ?_
    rw [← hname]
    simp [HeaderColumn.qualified]
  rw [first?, hqualified, hbare]
  rfl

/-! ### What a condition says -/

/-- The value under a qualified name in two rows, one of each relation. -/
def valueOf (left right : Relation) (name : String) (l r : Row) : Value :=
  match left.named? name, right.named? name with
  | some i, _ => l.cell i
  | none, some j => r.cell j
  | none, none => .null

/-- What a condition between two columns says of two rows: both values are there, and the operator holds from
that of its field to that of its literal. -/
def asserts (left right : Relation) (on : Condition) (l r : Row) : Bool :=
  !(left.valueOf right on.field l r).isNull && !(left.valueOf right on.literal l r).isNull &&
    (left.valueOf right on.field l r).joins on.operator (left.valueOf right on.literal l r)

theorem Apart.valueOf_symm (h : left.Apart right) (l r : Row) :
    right.valueOf left name r l = left.valueOf right name l r := by
  unfold valueOf
  cases hl : left.named? name with
  | none => cases right.named? name <;> rfl
  | some i =>
    have hnames : left.Names name := by
      by_contra hnone
      rw [named?_eq_none.mpr hnone] at hl
      cases hl
    rw [named?_eq_none.mpr (h.not_names hnames)]

theorem Apart.asserts_symm (h : left.Apart right) (on : Condition) (l r : Row) :
    right.asserts left on r l = left.asserts right on l r := by
  simp only [asserts, h.valueOf_symm]

/-- The exchanged condition says the same by the mirror of its operator. -/
theorem asserts_exchange_mirror (hop : on.operator ≠ .like) (l r : Row) :
    left.asserts right on.exchange l r = left.asserts right { on with operator := on.operator.mirror } l r := by
  have hmirror : on.operator.mirror ≠ .like := by
    cases hop' : on.operator <;> simp_all [Operator.mirror]
  simp only [asserts, Condition.exchange, ← Value.joins_mirror hop]
  rw [Bool.and_comm (!(left.valueOf right on.literal l r).isNull)]

theorem asserts_exchange_of_isEquality (hop : on.operator.isEquality = true) (l r : Row) :
    left.asserts right on.exchange l r = left.asserts right on l r := by
  simp only [asserts, Condition.exchange]
  rw [Value.joins_comm hop (left.valueOf right on.field l r),
    Bool.and_comm (!(left.valueOf right on.literal l r).isNull)]

/-! ### What a join looks at -/

/-- Columns that are named in order are compared as they are named. -/
theorem Apart.matchesOn_ordered (h : left.Apart right) (hfield : left.Names on.field)
    (hliteral : right.Names on.literal) : left.matchesOn right on = left.asserts right on := by
  obtain ⟨i, hi⟩ := hfield.named?
  obtain ⟨j, hj⟩ := hliteral.named?
  have hnone := named?_eq_none.mpr (h.symm.not_names hliteral)
  funext l r
  have htest : JoinTest.of left right on = ⟨some i, some j, on.operator, on.literal⟩ :=
    JoinTest.of_named (h.plainLeft.first?_named hi) (h.plainRight.first?_named hj)
  simp [matchesOn, htest, JoinTest.matchRows, asserts, valueOf, hi, hj, hnone, Bool.and_assoc]

/-- Columns that are named the other way round are exchanged, and the operator is not. -/
theorem Apart.matchesOn_reversed (h : left.Apart right) (hfield : right.Names on.field)
    (hliteral : left.Names on.literal) : left.matchesOn right on = left.asserts right on.exchange := by
  obtain ⟨j, hj⟩ := hfield.named?
  obtain ⟨i, hi⟩ := hliteral.named?
  have hnone := named?_eq_none.mpr (h.symm.not_names hfield)
  funext l r
  have htest : JoinTest.of left right on = ⟨some i, some j, on.operator, on.field⟩ := by
    simp [JoinTest.of, h.symm.first?_other hfield, h.plainLeft.first?_named hi,
      h.plainRight.first?_named hj]
  simp [matchesOn, htest, JoinTest.matchRows, asserts, valueOf, Condition.exchange, hi, hj, hnone,
    Bool.and_assoc]

/-! ### Inner joins -/

/-- Which rows are paired is read off the pairs. -/
theorem pairRows_eq_iff (hleft : left.Rectangular) {p q : Row → Row → Bool} :
    pairRows p left right = pairRows q left right ↔ ∀ l ∈ left.rows, ∀ r ∈ right.rows, p l r = q l r := by
  constructor
  · have hpaired : ∀ {p q : Row → Row → Bool}, pairRows p left right = pairRows q left right →
        ∀ l ∈ left.rows, ∀ r ∈ right.rows, p l r = true → q l r = true := by
      intro p q heq l hl r hr hp
      obtain ⟨l', hl', r', -, hq, hrow⟩ := mem_pairRows.mp (heq ▸ mem_pairRows.mpr ⟨l, hl, r, hr, hp, rfl⟩)
      obtain ⟨rfl, rfl⟩ := List.append_inj hrow ((hleft l hl).trans (hleft l' hl').symm)
      exact hq
    exact fun heq l hl r hr =>
      Bool.eq_iff_iff.mpr ⟨hpaired heq l hl r hr, hpaired heq.symm l hl r hr⟩
  · intro h
    refine List.flatMap_congr fun l hl => ?_
    rw [List.filter_congr fun r hr => h l hl r hr]

/-- What an inner join on a condition between a column of each side makes. -/
structure JoinsSides (left right : Relation) (on : Condition) : Prop where
  /-- In order, the rows are the pairs of which the condition says what it says. -/
  ordered : left.Names on.field → right.Names on.literal →
    (left.join .inner right on).rows = pairRows (left.asserts right on) left right
  /-- In reverse, they are those of the exchanged condition, so of the mirror of the operator. -/
  reversed : right.Names on.field → left.Names on.literal →
    (left.join .inner right on).rows = pairRows (left.asserts right on.exchange) left right
  mirrored : right.Names on.field → left.Names on.literal → on.operator ≠ .like →
    (left.join .inner right on).rows =
      pairRows (left.asserts right { on with operator := on.operator.mirror }) left right
  /-- For equalities this is what the condition says. -/
  equality : right.Names on.field → left.Names on.literal → on.operator.isEquality = true →
    (left.join .inner right on).rows = pairRows (left.asserts right on) left right
  /-- For any operator it is, exactly if no two rows tell the condition from the exchanged one. -/
  agrees : right.Names on.field → left.Names on.literal → left.Rectangular →
    ((left.join .inner right on).rows = pairRows (left.asserts right on) left right ↔
      ∀ l ∈ left.rows, ∀ r ∈ right.rows, left.asserts right on.exchange l r = left.asserts right on l r)

/-- **A condition joins what it says if its sides are in order or its operator is an equality.** With its sides
in reverse it joins what its mirror says. -/
theorem conditions_join_sides (h : left.Apart right) (on : Condition) : left.JoinsSides right on := by
  have hinner : (left.join .inner right on).rows = pairRows (left.matchesOn right on) left right :=
    rows_joinBy_inner ..
  have hreversed : right.Names on.field → left.Names on.literal →
      (left.join .inner right on).rows = pairRows (left.asserts right on.exchange) left right :=
    fun hfield hliteral => hinner.trans (by rw [h.matchesOn_reversed hfield hliteral])
  refine ⟨fun hfield hliteral => ?_, hreversed, fun hfield hliteral hop => ?_,
    fun hfield hliteral hop => ?_, fun hfield hliteral hleft => ?_⟩
  · rw [hinner, h.matchesOn_ordered hfield hliteral]
  · rw [hreversed hfield hliteral]
    exact congrArg (pairRows · left right) (funext₂ (asserts_exchange_mirror hop))
  · rw [hreversed hfield hliteral]
    exact congrArg (pairRows · left right) (funext₂ (asserts_exchange_of_isEquality hop))
  · rw [hreversed hfield hliteral, pairRows_eq_iff hleft]

theorem staff_apart : staff.Apart divisions :=
  ⟨by unfold Plain; decide, by unfold Plain; decide, by decide⟩

theorem conditions_join_sides_staff :
    let on : Condition := ⟨"pegawai.divisi", .ge, "divisi.id", none⟩
    staff.Apart divisions ∧ staff.Names on.field ∧ divisions.Names on.literal ∧
      (staff.join .inner divisions on).rows = pairRows (staff.asserts divisions on) staff divisions ∧
      (staff.join .inner divisions on.exchange).rows =
        pairRows (staff.asserts divisions { on.exchange with operator := .le }) staff divisions := by
  intro on
  have hfield : staff.Names on.field := by unfold Names; decide
  have hliteral : divisions.Names on.literal := by unfold Names; decide
  exact ⟨staff_apart, hfield, hliteral, (conditions_join_sides staff_apart on).ordered hfield hliteral,
    (conditions_join_sides staff_apart on.exchange).mirrored hliteral hfield nofun⟩

/-- **A condition in reverse loses a pair that it holds of.** The greater value is named first, and the join
looks for a greater one on the other side. -/
theorem reversed_condition_joins_nothing :
    let on : Condition := ⟨"b.y", .gt, "a.x", none⟩
    let small : Relation := ⟨[⟨"a", "x", .int⟩], [[.int 1]]⟩
    let great : Relation := ⟨[⟨"b", "y", .int⟩], [[.int 2]]⟩
    let caller : Caller := ⟨"asep", superRole, "kantor"⟩
    let e := Engine.reached [(caller, "DAMEL a x:INT"), (caller, "DAMEL b y:INT"), (caller, "SIMPEN a 1"),
      (caller, "SIMPEN b 2")]
    (small.asserts great on [.int 1] [.int 2] = true ∧ (small.join .inner great on).rows = []) ∧
      (e.execute caller "TINGALI a GABUNG b DINA b.y > a.x").1 = .ok (.rows ⟨["a.x", "b.y"], []⟩) ∧
      (e.execute caller "TINGALI a GABUNG b DINA a.x < b.y").1 =
        .ok (.rows ⟨["a.x", "b.y"], [[.int 1, .int 2]]⟩) := by
  decide +kernel

end Relation

end Leuit
