import Mathlib.Data.List.Forall2

/-! Outcomes of steps that may fail. A list of such steps succeeds with the list of what each gives, and
fails as the first of them that does. -/
namespace Leuit.Outcome

section
variable {ε α β γ : Type}

theorem map_eq_ok {x : Except ε α} {f : α → β} {b : β} :
    x.map f = .ok b ↔ ∃ a, x = .ok a ∧ f a = b := by
  cases x <;> simp [Except.map]

theorem map_eq_error {x : Except ε α} {f : α → β} {e : ε} :
    x.map f = .error e ↔ x = .error e := by
  cases x <;> simp [Except.map]

/-- One more step in front. -/
theorem mapM_cons (f : α → Except ε β) (x : α) (xs : List α) :
    (x :: xs).mapM f =
      match f x with
      | .error e => .error e
      | .ok y => (xs.mapM f).map (y :: ·) := by
  rw [List.mapM_cons]
  cases f x with
  | error e => rfl
  | ok y => cases xs.mapM f <;> rfl

theorem mapM_eq_ok {f : α → Except ε β} {xs : List α} {ys : List β} :
    xs.mapM f = .ok ys ↔ List.Forall₂ (fun x y => f x = .ok y) xs ys := by
  induction xs generalizing ys with
  | nil => cases ys <;> simp [pure, Except.pure]
  | cons x xs ih =>
    rw [mapM_cons]
    cases hx : f x with
    | error e => cases ys <;> simp [hx]
    | ok y =>
      cases ys with
      | nil => simp [map_eq_ok]
      | cons z zs => simp [map_eq_ok, ih, hx, and_comm]

/-- What a list gives comes from a member of it. -/
theorem exists_mem_left {R : α → β → Prop} {xs : List α} {ys : List β} (h : List.Forall₂ R xs ys)
    {y : β} (hy : y ∈ ys) : ∃ x ∈ xs, R x y := by
  induction h with
  | nil => cases hy
  | @cons x z xs zs hxz _ ih =>
    rcases List.mem_cons.mp hy with rfl | hy
    · exact ⟨x, List.mem_cons_self, hxz⟩
    · obtain ⟨w, hw, hwy⟩ := ih hy
      exact ⟨w, List.mem_cons_of_mem x hw, hwy⟩

/-- What is done with each result may as well be done at the end. -/
theorem mapM_map_each (f : α → Except ε β) (g : β → γ) (xs : List α) :
    xs.mapM (fun x => (f x).map g) = (xs.mapM f).map (List.map g) := by
  induction xs with
  | nil => rfl
  | cons x xs ih =>
    rw [mapM_cons, mapM_cons, ih]
    cases f x with
    | error e => rfl
    | ok y => cases xs.mapM f <;> rfl

end

end Leuit.Outcome
