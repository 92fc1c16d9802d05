import Leuit.Proofs.FloatRanks
import Leuit.Proofs.StoredRecords

/-! The greatest and the least number of a column. Both aggregates go through the numbers and keep one of two
at a time, starting from the end of the finite floats (`Aggregate.Keeps.foldl`). So what they return is the
greatest, or the least, number of the list, whatever else there is among the entries, unless all numbers are
the infinity beyond that end; then it is the end itself, which none of the entries is
(`Aggregate.extremes_found`). -/
namespace Leuit

/-- The same float, or a zero like it. -/
def SameUpToZero (x y : Float) : Prop := x = y ∨ (x == 0.0) = true ∧ (y == 0.0) = true

namespace Aggregate
open FloatRank
variable {key : Float → Int} {keep : Float → Float → Float} {kept m m' x : Float} {xs ys : List Float}

/-! ### Keeping one of two -/

/-- Keeping the float with the greater key, the later one if they are equal; what is not a number is passed
over. -/
structure Keeps (key : Float → Int) (keep : Float → Float → Float) : Prop where
  pass : ∀ kept x, x.isNaN = true → keep kept x = kept
  choose : ∀ kept x, kept.isNaN = false → x.isNaN = false →
    keep kept x = if key x < key kept then kept else x

theorem keeps_larger : Keeps rank larger where
  pass kept x hx := by rw [larger, hx, Bool.true_or, if_pos rfl]
  choose kept x hkept hx := by
    rw [larger, hx, Bool.false_or]
    simp only [decide_eq_true_eq, gt_iff_lt, lt_iff hx hkept]

theorem keeps_smaller : Keeps (fun x => -rank x) smaller where
  pass kept x hx := by rw [smaller, hx, Bool.true_or, if_pos rfl]
  choose kept x hkept hx := by
    rw [smaller, hx, Bool.false_or]
    simp only [decide_eq_true_eq, lt_iff hkept hx, Int.neg_lt_neg_iff]

/-- What is kept of numbers that start with one: a member that no key exceeds, or the start if it exceeds all
keys. -/
structure Top (key : Float → Int) (start : Float) (xs : List Float) (m : Float) : Prop where
  number : m.isNaN = false
  mem : m ∈ xs ∨ m = start ∧ ∀ x ∈ xs, key x < key start
  start_le : key start ≤ key m
  le : ∀ x ∈ xs, key x ≤ key m

theorem Keeps.foldl (h : Keeps key keep) (hkept : kept.isNaN = false) (hxs : ∀ x ∈ xs, x.isNaN = false) :
    Top key kept xs (xs.foldl keep kept) := by
  induction xs generalizing kept with
  | nil => exact ⟨hkept, .inr ⟨rfl, nofun⟩, Int.le_refl _, nofun⟩
  | cons x xs ih =>
    obtain ⟨hx, hxs⟩ := List.forall_mem_cons.mp hxs
    rw [List.foldl_cons, h.choose kept x hkept hx]
    split
    · next hlt =>
      have htop := ih hkept hxs
      have hle := Int.le_trans (Int.le_of_lt hlt) htop.start_le
      refine ⟨htop.number, ?_, htop.start_le, List.forall_mem_cons.mpr ⟨hle, htop.le⟩⟩
      rcases htop.mem with hmem | ⟨heq, hall⟩
      · exact .inl (List.mem_cons_of_mem _ hmem)
      · exact .inr ⟨heq, List.forall_mem_cons.mpr ⟨hlt, hall⟩⟩
    · next hnot =>
      have htop := ih hx hxs
      have hstart := Int.le_trans (Int.not_lt.mp hnot) htop.start_le
      refine ⟨htop.number, .inl ?_, hstart, List.forall_mem_cons.mpr ⟨htop.start_le, htop.le⟩⟩
      rcases htop.mem with hmem | ⟨heq, -⟩
      · exact List.mem_cons_of_mem _ hmem
      · exact List.mem_cons.mpr (.inl heq)

/-- What is not a number has no influence. -/
theorem Keeps.foldl_filter (h : Keeps key keep) (kept : Float) (xs : List Float) :
    xs.foldl keep kept = (xs.filter (!·.isNaN)).foldl keep kept := by
  rw [List.foldl_filter]
  congr 1
  funext kept x
  cases hx : x.isNaN with
  | false => rfl
  | true => exact h.pass kept x hx

theorem Top.mem_iff (h : Top key kept xs m) : m ∈ xs ↔ ∃ x ∈ xs, key kept ≤ key x := by
  constructor
  · exact fun hmem => ⟨m, hmem, h.start_le⟩
  · rintro ⟨x, hx, hle⟩
    exact h.mem.resolve_right fun hstart => absurd (hstart.2 x hx) (Int.not_lt.mpr hle)

/-- Lists with the same members have tops with the same key. -/
theorem Top.key_eq (h : Top key kept xs m) (h' : Top key kept ys m') (hsame : ∀ x, x ∈ xs ↔ x ∈ ys) :
    key m = key m' := by
  have hle : ∀ {xs ys : List Float} {m m' : Float}, Top key kept xs m → Top key kept ys m' →
      (∀ x, x ∈ xs ↔ x ∈ ys) → key m ≤ key m' := by
    intro xs ys m m' h h' hsame
    rcases h.mem with hmem | ⟨rfl, -⟩
    · exact h'.le m ((hsame m).mp hmem)
    · exact h'.start_le
  exact Int.le_antisymm (hle h h' hsame) (hle h' h fun x => (hsame x).symm)

/-! ### The numbers of a column -/

/-- The numbers among the entries of rows. -/
def numbers (entries : List (Option Value)) : List Float :=
  (entries.filterMap (·.bind Value.number?)).filter (!·.isNaN)

theorem isNaN_of_mem_numbers {entries : List (Option Value)} (h : x ∈ numbers entries) : x.isNaN = false := by
  simpa using (List.mem_filter.mp h).2

theorem compute_eq {f : Aggregate} {start : Float} {entries : List (Option Value)} (hkeep : Keeps key keep)
    (hcount : f ≠ count) (hcombine : ∀ xs, f.combine xs = xs.foldl keep start) (h : numbers entries ≠ []) :
    f.compute entries = .float ((numbers entries).foldl keep start) := by
  have hviews : entries.filterMap (·.bind Value.number?) ≠ [] := by
    intro hnone
    rw [numbers, hnone] at h
    exact h rfl
  have hentries : entries.isEmpty = false := by
    cases entries with
    | nil => exact absurd rfl hviews
    | cons entry rest => rfl
  rw [compute, hentries, if_neg hcount, numbers, ← hkeep.foldl_filter, ← hcombine]
  cases hlist : entries.filterMap (·.bind Value.number?) with
  | nil => exact absurd hlist hviews
  | cons x xs => rfl

/-- A number of the list that none of them exceeds. -/
structure Greatest (xs : List Float) (m : Float) : Prop where
  mem : m ∈ xs
  le : ∀ x ∈ xs, x ≤ m

/-- A number of the list that exceeds none of them. -/
structure Least (xs : List Float) (m : Float) : Prop where
  mem : m ∈ xs
  le : ∀ x ∈ xs, m ≤ x

/-- What an aggregate finds among entries, where `start` is what it starts from and `beyond` the infinity that
lies beyond this. -/
structure Finds (f : Aggregate) (Best : List Float → Float → Prop) (start beyond : Float)
    (entries : List (Option Value)) : Prop where
  best_iff : (∃ m, f.compute entries = .float m ∧ Best (numbers entries) m) ↔
    ∃ x ∈ numbers entries, x ≠ beyond
  start_of_beyond : (∀ x ∈ numbers entries, x = beyond) → f.compute entries = .float start
  /-- Entries without a number have no influence. -/
  idle : ∀ others, numbers others = numbers entries → f.compute others = f.compute entries
  /-- The order of the numbers decides on the sign of a zero at most. -/
  arranged : ∀ others, (numbers others).Perm (numbers entries) →
    ∃ x y, f.compute others = .float x ∧ f.compute entries = .float y ∧ SameUpToZero x y

theorem sameUpToZero_of_rank {y : Float} (hx : x.isNaN = false) (hy : y.isNaN = false) (h : rank x = rank y) :
    SameUpToZero x y := by
  have hzero : rank 0.0 = 0 := by decide
  have hnumber : (0.0 : Float).isNaN = false := by decide
  refine (eq_or_zeros h).imp_right fun hrank => ⟨?_, ?_⟩
  · rw [beq_iff hx hnumber, hrank, hzero]
  · rw [beq_iff hy hnumber, ← h, hrank, hzero]

/-- Below the least finite float there is only an infinity. -/
theorem rank_lt_iff (h : x.isNaN = false) : rank x < rank (-largest) ↔ x = -Decimal.infinity := by
  have hend : rank (-largest) = -infinite + 1 := by decide +kernel
  have hbeyond : rank (-Decimal.infinity) = -infinite := by decide +kernel
  have hbounds := rank_bounds h
  constructor
  · exact fun hlt => eq_of_rank (by omega) (by rw [hbeyond]; decide)
  · rintro rfl
    omega

/-- Above the greatest finite float there is only an infinity. -/
theorem lt_rank_iff (h : x.isNaN = false) : rank largest < rank x ↔ x = Decimal.infinity := by
  have hend : rank largest = infinite - 1 := by decide +kernel
  have hbeyond : rank Decimal.infinity = infinite := by decide +kernel
  have hbounds := rank_bounds h
  constructor
  · exact fun hlt => eq_of_rank (by omega) (by rw [hbeyond]; decide)
  · rintro rfl
    omega

/-! ### What is found -/

section
variable {f : Aggregate} {Best : List Float → Float → Prop} {start beyond : Float}
  {entries others : List (Option Value)}

/-- An aggregate that keeps one of two finds the top of the numbers. -/
theorem Keeps.finds (hkeep : Keeps key keep) (hcount : f ≠ count)
    (hcombine : ∀ xs, f.combine xs = xs.foldl keep start) (hstart : start.isNaN = false)
    (hbeyond : ∀ x, x.isNaN = false → (key x < key start ↔ x = beyond))
    (hbest : ∀ xs m, (∀ x ∈ xs, x.isNaN = false) →
      (Best xs m ↔ m ∈ xs ∧ ∀ x ∈ xs, key x ≤ key m))
    (hrank : ∀ x y, key x = key y → rank x = rank y) (h : numbers entries ≠ []) :
    Finds f Best start beyond entries := by
  have hnumbers : ∀ entries, ∀ x ∈ numbers entries, x.isNaN = false := fun _ _ => isNaN_of_mem_numbers
  have htop := fun entries => hkeep.foldl hstart (hnumbers entries)
  have hcompute : ∀ {entries}, numbers entries ≠ [] →
      f.compute entries = .float ((numbers entries).foldl keep start) := compute_eq hkeep hcount hcombine
  refine ⟨?best, fun hall => ?start, fun others hsame => ?idle, fun others hperm => ?arranged⟩
  case best =>
    have hreached : (∃ x ∈ numbers entries, x ≠ beyond) ↔
        ∃ x ∈ numbers entries, key start ≤ key x := by
      refine exists_congr fun x => and_congr_right fun hx => ?_
      rw [← Int.not_lt, hbeyond x (hnumbers entries x hx)]
    rw [hreached, ← (htop entries).mem_iff, hcompute h]
    constructor
    · rintro ⟨m, hm, hmost⟩
      obtain rfl := Value.float.inj hm
      exact ((hbest _ _ (hnumbers entries)).mp hmost).1
    · exact fun hmem => ⟨_, rfl, (hbest _ _ (hnumbers entries)).mpr ⟨hmem, (htop entries).le⟩⟩
  case start =>
    rw [hcompute h]
    rcases (htop entries).mem with hmem | ⟨hsame, -⟩
    · have hlt := (hbeyond _ (htop entries).number).mpr (hall _ hmem)
      exact absurd (htop entries).start_le (Int.not_le.mpr hlt)
    · rw [hsame]
  case idle => rw [hcompute h, hcompute (hsame ▸ h), hsame]
  case arranged =>
    have hothers : numbers others ≠ [] := fun hnone => h (List.nil_perm.mp (hnone ▸ hperm))
    refine ⟨_, _, hcompute hothers, hcompute h, ?_⟩
    exact sameUpToZero_of_rank (htop others).number (htop entries).number
      (hrank _ _ ((htop others).key_eq (htop entries) fun x => hperm.mem_iff))

end

/-- **The greatest and the least number are found**, unless all are the infinity beyond the end of the finite
floats that the search starts from. -/
theorem extremes_found (entries : List (Option Value)) (h : numbers entries ≠ []) :
    Finds maximum Greatest (-largest) (-Decimal.infinity) entries ∧
      Finds minimum Least largest Decimal.infinity entries := by
  constructor
  · refine keeps_larger.finds nofun (fun _ => rfl) (by decide +kernel) (fun _ => rank_lt_iff)
      (fun xs m hxs => ?_) (fun _ _ => id) h
    constructor
    · exact fun hm => ⟨hm.mem, fun x hx => (le_iff (hxs x hx) (hxs m hm.mem)).mp (hm.le x hx)⟩
    · exact fun ⟨hmem, hle⟩ => ⟨hmem, fun x hx => (le_iff (hxs x hx) (hxs m hmem)).mpr (hle x hx)⟩
  · refine keeps_smaller.finds nofun (fun _ => rfl) (by decide +kernel)
      (fun x hx => Int.neg_lt_neg_iff.trans (lt_rank_iff hx)) (fun xs m hxs => ?_) (fun _ _ => Int.neg_inj.mp) h
    constructor
    · intro hm
      exact ⟨hm.mem, fun x hx => Int.neg_le_neg ((le_iff (hxs m hm.mem) (hxs x hx)).mp (hm.le x hx))⟩
    · rintro ⟨hmem, hle⟩
      refine ⟨hmem, fun x hx => ?_⟩
      exact (le_iff (hxs m hmem) (hxs x hx)).mpr (Int.neg_le_neg_iff.mp (hle x hx))

/-- Entries of all kinds, three of which hold numbers. -/
theorem extremes_found_mixed :
    let entries := [none, some .null, some (.int 3), some (.text "lain"), some (.float Decimal.notANumber),
      some (.text " -inf "), some (.date ⟨2024, 2, 29⟩), some (.float 2.5)]
    numbers entries ≠ [] ∧ Finds maximum Greatest (-largest) (-Decimal.infinity) entries ∧
      Finds minimum Least largest Decimal.infinity entries ∧ maximum.compute entries = .float 3.0 ∧
      minimum.compute entries = .float (-Decimal.infinity) := by
  intro entries
  have hnumbers : numbers entries ≠ [] := by decide +kernel
  obtain ⟨hgreatest, hleast⟩ := extremes_found entries hnumbers
  exact ⟨hnumbers, hgreatest, hleast, by decide +kernel, by decide +kernel⟩

/-- **The greatest of infinities is taken to be finite.** -/
theorem maximum_not_found :
    let entries := [some (Value.ofField .float "-inf")]
    numbers entries = [-Decimal.infinity] ∧ maximum.compute entries = .float (-largest) ∧
      (¬∃ m, maximum.compute entries = .float m ∧ Greatest (numbers entries) m) ∧
      ((Engine.reached [(⟨"asep", superRole, "kantor"⟩, "DAMEL t a:FLOAT"),
          (⟨"asep", superRole, "kantor"⟩, "SIMPEN t -inf")]).execute ⟨"asep", superRole, "kantor"⟩
        "TINGALI PANGGEDENA(a) TI t").1 = .ok (.rows ⟨["PANGGEDENA(a)"], [[.float (-largest)]]⟩) := by
  intro entries
  have hnumbers : numbers entries = [-Decimal.infinity] := by decide +kernel
  have hcompute : maximum.compute entries = .float (-largest) := by decide +kernel
  refine ⟨hnumbers, hcompute, ?_, by decide +kernel⟩
  rintro ⟨m, hm, hgreatest⟩
  obtain rfl := Value.float.inj (hcompute.symm.trans hm)
  have hmem := hgreatest.mem
  rw [hnumbers] at hmem
  exact absurd (List.mem_singleton.mp hmem) (by decide +kernel)

end Aggregate

end Leuit
