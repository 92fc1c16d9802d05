import Leuit.Value.Comparison
import Mathlib

/-! Comparisons turned round. The order of two floats is that of their unpacked forms, where what is not a
number has no order to anything (`floatOrder?_eq_compare`); so exchanging two values of any kinds turns their
order round, where they are compared (`Value.order?_swap`) and where rows are sorted by them
(`Value.order_swap`), and exchanging the sides of a comparison turns its operator round
(`Value.joins_mirror`). Equality and its opposite are their own mirrors, and so they hold of two columns in
either order (`Value.joins_comm`). -/
namespace Leuit

/-! ### Floats -/

/-- The order of unpacked floats, turned round. -/
theorem unpacked_compare_swap (a b : Float.Model.UnpackedFloat) :
    b.compare a = (a.compare b).map Ordering.swap := by
  rcases a with (_ | _) | _ | (_ | _) | ⟨_ | _, m, e, hm⟩ <;>
    rcases b with (_ | _) | _ | (_ | _) | ⟨_ | _, m', e', hm'⟩ <;> try rfl
  -- What is left are two numbers of one sign, by exponent and then by mantissa.
  · simp only [Float.Model.UnpackedFloat.compare, Option.map_some, Ordering.swap_then,
      ← Std.OrientedOrd.eq_swap]
  · simp only [Float.Model.UnpackedFloat.compare, Option.map_some, Ordering.swap_then,
      ← Std.OrientedOrd.eq_swap]

theorem floatOrder?_eq_compare (x y : Float) :
    floatOrder? x y = x.toModel.unpack.compare y.toModel.unpack := by
  have hlt : ∀ a b : Float, a < b ↔ a.toModel.unpack.compare b.toModel.unpack = some .lt := by
    intro a b
    show Float.lt a b = true ↔ _
    rw [Float.lt, decide_eq_true_eq]
    show (a.toModel.unpack.compare b.toModel.unpack == some .lt) = true ↔ _
    rw [beq_iff_eq]
  have heq : (x == y) = true ↔ x.toModel.unpack.compare y.toModel.unpack = some .eq := by
    show (x.toModel.unpack.compare y.toModel.unpack == some .eq) = true ↔ _
    rw [beq_iff_eq]
  unfold floatOrder?
  simp only [hlt, heq, unpacked_compare_swap x.toModel.unpack y.toModel.unpack]
  rcases x.toModel.unpack.compare y.toModel.unpack with _ | _ | _ | _ <;> rfl

theorem floatOrder?_swap (x y : Float) : floatOrder? y x = (floatOrder? x y).map Ordering.swap := by
  rw [floatOrder?_eq_compare, floatOrder?_eq_compare, unpacked_compare_swap]

/-! ### Values -/

theorem Date.order_swap (a b : Date) : b.order a = (a.order b).swap := by
  simp only [Date.order, Ordering.swap_then, ← Std.OrientedOrd.eq_swap]

namespace Operator

/-- The operator with its sides exchanged. What resembles a pattern is no relation of two values, so this has
no mirror. -/
def mirror : Operator → Operator
  | gt => lt
  | lt => gt
  | ge => le
  | le => ge
  | op => op

theorem holds_mirror (op : Operator) (o : Ordering) : op.mirror.holds o.swap = op.holds o := by
  cases op <;> cases o <;> rfl

theorem mirror_of_isEquality {op : Operator} (h : op.isEquality = true) : op.mirror = op ∧ op ≠ .like := by
  cases op with
  | eq | ne => exact ⟨rfl, nofun⟩
  | _ => cases h

end Operator

namespace Value

/-- Exchanging two values turns their order round. -/
theorem order?_swap (a b : Value) : b.order? a = (a.order? b).map Ordering.swap := by
  cases a <;> cases b <;> try rfl
  case int.int => exact congrArg some Std.OrientedOrd.eq_swap
  case int.float => exact floatOrder?_swap ..
  case float.int => exact floatOrder?_swap ..
  case float.float => exact floatOrder?_swap ..
  case date.date => exact congrArg some (Date.order_swap ..)
  case text.text => exact congrArg some Std.OrientedOrd.eq_swap

theorem order_swap (a b : Value) : b.order a = (a.order b).swap := by
  unfold order
  cases a.number? with
  | none => cases b.number? <;> exact Std.OrientedOrd.eq_swap
  | some x =>
    cases b.number? with
    | none => exact Std.OrientedOrd.eq_swap
    | some y =>
      dsimp only
      rw [floatOrder?_swap]
      cases floatOrder? x y <;> rfl

theorem compares_mirror {op : Operator} (hop : op ≠ .like) (a b : Value) :
    b.compares op.mirror a = a.compares op b := by
  have hlike : op.mirror ≠ .like := by cases op <;> simp_all [Operator.mirror]
  have heq : (op.mirror == .eq) = (op == .eq) := by cases op <;> rfl
  have hne : (op.mirror == .ne) = (op == .ne) := by cases op <;> rfl
  have hequality : op.mirror.isEquality = op.isEquality := by cases op <;> rfl
  have horder : ((b.order? a).map op.mirror.holds).getD false = ((a.order? b).map op.holds).getD false := by
    rw [order?_swap, Option.map_map]
    exact congrArg (fun holds => ((a.order? b).map holds).getD false) (funext op.holds_mirror)
  unfold compares
  rw [if_neg hlike, if_neg hop]
  cases a <;> cases b <;> try exact horder
  case null.null => exact heq
  case bool.bool x y =>
    dsimp only
    rw [hequality, Std.OrientedOrd.eq_swap, op.holds_mirror]
  all_goals exact hne

theorem sameKind_comm (a b : Value) : b.sameKind a = a.sameKind b := by
  cases a <;> cases b <;> rfl

/-- A comparison of two columns, read from the other side. -/
theorem joins_mirror {op : Operator} (hop : op ≠ .like) (a b : Value) :
    b.joins op.mirror a = a.joins op b := by
  unfold joins
  rw [sameKind_comm, Bool.or_assoc, Bool.or_comm b.isNull, ← Bool.or_assoc, compares_mirror hop,
    compares_mirror hop]

theorem joins_comm {op : Operator} (h : op.isEquality = true) (a b : Value) :
    b.joins op a = a.joins op b := by
  obtain ⟨hmirror, hlike⟩ := Operator.mirror_of_isEquality h
  have hjoins := joins_mirror hlike a b
  rwa [hmirror] at hjoins

end Value

end Leuit
