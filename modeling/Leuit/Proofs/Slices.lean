import Leuit.Console.Completion
import Leuit.Error
import Leuit.Proofs.Outcome
import Leuit.Proofs.Pieces

/-! Reading by position. An element of a list, a slice of a list and a slice of a text are asked for by
positions, and a position that is not there gives nothing; positions in a text count bytes, and one inside
a character is not there either. A `Strict` computation reads only in this way: besides its outcome, which
may be a fault of the query, it has the possibility of no outcome at all, once a read has failed or a branch
held to be impossible is entered. -/
namespace Leuit
open Console (byteCount cutAt)

/-! ### Strict computations -/

/-- A computation without outcome is `none`. -/
abbrev Strict (α : Type) := ExceptT QueryError Option α

namespace Strict
variable {α β : Type}

/-- The computation that reads nothing and has the given outcome. -/
def settled (x : Except QueryError α) : Strict α := ExceptT.mk (some x)

/-- The computation that makes one read. -/
def read (x : Option α) : Strict α := ExceptT.mk (x.map .ok)

/-- The computation in a branch held to be impossible. -/
def impossible : Strict α := ExceptT.mk none

@[simp] theorem settled_ok_bind (a : α) (f : α → Strict β) : settled (.ok a) >>= f = f a := rfl

@[simp] theorem read_some_bind (a : α) (f : α → Strict β) : read (some a) >>= f = f a := rfl

@[simp] theorem run_settled (x : Except QueryError α) : (settled x).run = some x := rfl

@[simp] theorem map_settled (f : α → β) (x : Except QueryError α) :
    f <$> settled x = settled (x.map f) := by
  cases x <;> rfl

/-- Steps that all settle settle together. -/
theorem mapM_settled {f : α → Strict β} {g : α → Except QueryError β} {xs : List α}
    (h : ∀ x ∈ xs, f x = settled (g x)) : xs.mapM f = settled (xs.mapM g) := by
  induction xs with
  | nil => rfl
  | cons x xs ih =>
    rw [List.mapM_cons, List.mapM_cons, h x List.mem_cons_self,
      ih fun y hy => h y (List.mem_cons_of_mem x hy)]
    cases g x with
    | error e => rfl
    | ok y => cases xs.mapM g <;> rfl

/-- Reads that all succeed succeed together. -/
theorem mapM_some {f : α → Option β} {g : α → β} {xs : List α} (h : ∀ x ∈ xs, f x = some (g x)) :
    xs.mapM f = some (xs.map g) := by
  induction xs with
  | nil => rfl
  | cons x xs ih =>
    rw [List.mapM_cons, h x List.mem_cons_self, ih fun y hy => h y (List.mem_cons_of_mem x hy)]
    rfl

/-- The elements that pass a test made of reads. -/
def select (test : α → Option Bool) : List α → Option (List α)
  | [] => some []
  | x :: rest => do
    let passed ← test x
    let others ← select test rest
    return if passed then x :: others else others

theorem select_some {test : α → Option Bool} {p : α → Bool} {xs : List α}
    (h : ∀ x ∈ xs, test x = some (p x)) : select test xs = some (xs.filter p) := by
  induction xs with
  | nil => rfl
  | cons x xs ih =>
    rw [select, h x List.mem_cons_self, ih fun y hy => h y (List.mem_cons_of_mem x hy), List.filter_cons]
    rfl

end Strict

/-! ### Lists -/

/-- The list with another element at a position. -/
def put? {α : Type} (xs : List α) (i : Nat) (x : α) : Option (List α) :=
  if i < xs.length then some (xs.set i x) else none

theorem put?_append {α : Type} (before after : List α) (old new : α) :
    put? (before ++ old :: after) before.length new = some (before ++ new :: after) := by
  rw [put?, if_pos (by simp), List.set_append_right _ _ (Nat.le_refl _), Nat.sub_self]
  rfl

/-- The elements from one position up to another, both of them in the list or at its end. -/
def slice? {α : Type} (xs : List α) (start stop : Nat) : Option (List α) :=
  if start ≤ stop ∧ stop ≤ xs.length then some ((xs.take stop).drop start) else none

theorem slice?_append {α : Type} (a b c : List α) :
    slice? (a ++ (b ++ c)) a.length (a.length + b.length) = some b := by
  have hstop : a.length + b.length ≤ (a ++ (b ++ c)).length := by simp only [List.length_append]; omega
  rw [slice?, if_pos ⟨Nat.le_add_right _ _, hstop⟩, ← List.append_assoc, ← List.length_append,
    List.take_left, List.drop_left]

/-- The rest of a list from a position on. -/
theorem slice?_length {α : Type} {xs : List α} {start : Nat} (h : start ≤ xs.length) :
    slice? xs start xs.length = some (xs.drop start) := by
  rw [slice?, if_pos ⟨h, Nat.le_refl _⟩, List.take_length]

/-- A slice from a position on that is as long as a beginning of the rest. -/
theorem slice?_of_prefix {α : Type} {xs part : List α} {start : Nat} (hstart : start ≤ xs.length)
    (h : part <+: xs.drop start) : slice? xs start (start + part.length) = some part := by
  obtain ⟨rest, hrest⟩ := h
  have hxs : xs = xs.take start ++ (part ++ rest) := by rw [hrest, List.take_append_drop]
  have hlen : (xs.take start).length = start := List.length_take_of_le hstart
  have hslice := slice?_append (xs.take start) part rest
  rwa [hlen, ← hxs] at hslice

/-! ### Texts -/

namespace Text
variable {a b c : List Char}

@[simp] theorem byteCount_nil : byteCount [] = 0 := rfl

@[simp] theorem byteCount_cons (x : Char) (cs : List Char) :
    byteCount (x :: cs) = x.utf8Size + byteCount cs := rfl

@[simp] theorem byteCount_append (a b : List Char) : byteCount (a ++ b) = byteCount a + byteCount b := by
  induction a with
  | nil => simp
  | cons x a ih => rw [List.cons_append, byteCount_cons, byteCount_cons, ih, Nat.add_assoc]

/-- A text is cut where the bytes of its beginning end. -/
theorem cutAt_append (a b : List Char) : cutAt (a ++ b) (byteCount a) = .ok (a, b) := by
  induction a with
  | nil => simp [cutAt]
  | cons x a ih =>
    obtain ⟨n, hn⟩ : ∃ n, byteCount (x :: a) = n + 1 :=
      ⟨byteCount (x :: a) - 1, by have := x.utf8Size_pos; rw [byteCount_cons]; omega⟩
    have hle : x.utf8Size ≤ n + 1 := by rw [← hn, byteCount_cons]; omega
    have hrest : n + 1 - x.utf8Size = byteCount a := by rw [← hn, byteCount_cons]; omega
    rw [hn, List.cons_append, cutAt, if_pos hle, hrest, ih]
    · rfl
    · simp

/-- What stands before and after a position makes up the text. -/
theorem append_of_cutAt {cs : List Char} {position : Nat} (h : cutAt cs position = .ok (a, b)) :
    cs = a ++ b := by
  induction cs generalizing position a with
  | nil => cases position <;> simp_all [cutAt]
  | cons x cs ih =>
    cases position with
    | zero =>
      simp only [cutAt, Except.ok.injEq, Prod.mk.injEq] at h
      rw [← h.1, ← h.2, List.nil_append]
    | succ n =>
      rw [cutAt] at h
      · split at h
        · obtain ⟨⟨before, after⟩, hcut, heq⟩ := Outcome.map_eq_ok.mp h
          cases heq
          rw [ih hcut, List.cons_append]
        · cases h
      · simp

/-- The characters from one byte position up to another. -/
def slice? (cs : List Char) (start stop : Nat) : Option (List Char) :=
  match cutAt cs stop with
  | .error _ => none
  | .ok (before, _) =>
    match cutAt before start with
    | .error _ => none
    | .ok (_, piece) => some piece

/-- The first letter takes two bytes. -/
example : slice? ['é', 't'] 2 3 = some ['t'] ∧ slice? ['é', 't'] 1 3 = none := by decide

/-- What stands between a beginning and an end of a text is a slice of it. -/
theorem slice?_of_append {cs : List Char} {start stop : Nat} (h : cs = a ++ (b ++ c))
    (hstart : start = byteCount a) (hstop : stop = byteCount a + byteCount b) :
    slice? cs start stop = some b := by
  rw [h, hstart, hstop, slice?, ← List.append_assoc, ← byteCount_append, cutAt_append]
  simp only [cutAt_append]

theorem prefix_of_slice? {cs : List Char} {stop : Nat} (h : slice? cs 0 stop = some a) : a <+: cs := by
  unfold slice? at h
  split at h
  · cases h
  · next before after hcut =>
    simp only [cutAt, Option.some.injEq] at h
    exact ⟨after, by rw [← h, append_of_cutAt hcut]⟩

/-- The byte position of the first occurrence of a character. -/
def firstByte? (x : Char) : List Char → Option Nat
  | [] => none
  | c :: rest => if c = x then some 0 else (firstByte? x rest).map (c.utf8Size + ·)

/-- The byte position of the last occurrence of a character. -/
def lastByte? (x : Char) : List Char → Option Nat
  | [] => none
  | c :: rest =>
    match lastByte? x rest with
    | some i => some (c.utf8Size + i)
    | none => if c = x then some 0 else none

variable {x : Char}

theorem firstByte?_of_not_mem (h : x ∉ a) : firstByte? x a = none := by
  induction a with
  | nil => rfl
  | cons c a ih =>
    rw [List.mem_cons, not_or] at h
    rw [firstByte?, if_neg (Ne.symm h.1), ih h.2]
    rfl

theorem firstByte?_append (h : x ∉ a) (b : List Char) :
    firstByte? x (a ++ x :: b) = some (byteCount a) := by
  induction a with
  | nil => simp [firstByte?]
  | cons c a ih =>
    rw [List.mem_cons, not_or] at h
    rw [List.cons_append, firstByte?, if_neg (Ne.symm h.1), ih h.2]
    rfl

theorem lastByte?_of_not_mem (h : x ∉ a) : lastByte? x a = none := by
  induction a with
  | nil => rfl
  | cons c a ih =>
    rw [List.mem_cons, not_or] at h
    rw [lastByte?, ih h.2]
    exact if_neg (Ne.symm h.1)

theorem lastByte?_append (a : List Char) (h : x ∉ b) :
    lastByte? x (a ++ x :: b) = some (byteCount a) := by
  induction a with
  | nil => simp [lastByte?, lastByte?_of_not_mem h]
  | cons c a ih =>
    rw [List.cons_append, lastByte?, ih]
    rfl

/-- An occurrence that is no part of the end of a text lies in its beginning. -/
theorem lastByte?_lt (h : x ∉ b) {i : Nat} (hi : lastByte? x (a ++ b) = some i) : i < byteCount a := by
  induction a generalizing i with
  | nil =>
    rw [List.nil_append, lastByte?_of_not_mem h] at hi
    cases hi
  | cons c a ih =>
    have hpos := c.utf8Size_pos
    rw [List.cons_append, lastByte?] at hi
    rw [byteCount_cons]
    split at hi
    · next j hj =>
      cases hi
      have := ih hj
      omega
    · split at hi
      · cases hi
        omega
      · cases hi

end Text

end Leuit
