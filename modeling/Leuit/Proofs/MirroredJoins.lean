import Leuit.Proofs.JoinSides

/-! Joins by an equality, seen from the other side. The rows of a join come from pairs of blocks, a row or the
padding of each side (`Relation.blocks`). Exchanging the relations, and with them what matches, exchanges the
blocks of every pair, up to the order of the pairs (`Relation.blocks_mirror`). An equality between two columns
matches the same rows from either side and however it is written (`Relation.Apart.matchesOn_symm`), so the
left join of two relations is the right join of the two exchanged (`Relation.equality_joins_mirrored`). -/
namespace Leuit

/-- The kind of join that keeps on each side what this one keeps on the other. -/
def JoinKind.mirror : JoinKind → JoinKind
  | .left => .right
  | .right => .left
  | kind => kind

@[simp] theorem JoinKind.keepsLeft_mirror (kind : JoinKind) : kind.mirror.keepsLeft = kind.keepsRight := by
  cases kind <;> rfl

@[simp] theorem JoinKind.keepsRight_mirror (kind : JoinKind) : kind.mirror.keepsRight = kind.keepsLeft := by
  cases kind <;> rfl

namespace Relation
variable {left right : Relation}

/-! ### Blocks -/

/-- The two blocks that each row of a join is made of: what matches, then what is kept alone of the left side,
then what is kept alone of the right side. -/
def blocks (kind : JoinKind) (matchRows : Row → Row → Bool) (left right : Relation) : List (Row × Row) :=
  left.rows.flatMap (fun l => (right.rows.filter (matchRows l)).map fun r => (l, r)) ++
    ((if kind.keepsLeft then
        (left.rows.filter (lonely matchRows right)).map fun l => (l, blankRow right.width) else []) ++
      if kind.keepsRight then
        (right.rows.filter (stray matchRows left)).map fun r => (blankRow left.width, r) else [])

theorem rows_blocks (kind : JoinKind) (matchRows : Row → Row → Bool) (left right : Relation) :
    (joinBy kind matchRows left right).rows.Perm
      ((blocks kind matchRows left right).map fun block => block.1 ++ block.2) := by
  have hblocks : (blocks kind matchRows left right).map (fun block => block.1 ++ block.2) =
      pairRows matchRows left right ++
        (if kind.keepsLeft then lonelyRows matchRows left right else []) ++
          strayRows kind matchRows left right := by
    rw [blocks, List.map_append, List.map_append, List.map_flatMap, apply_ite (List.map _),
      apply_ite (List.map _), strayRows_eq, List.append_assoc]
    simp only [List.map_map, List.map_nil]
    rfl
  rw [hblocks]
  exact joinBy_perm ..

/-- A block is a row of its side or the padding for it. -/
theorem mem_blocks {kind : JoinKind} {matchRows : Row → Row → Bool} {block : Row × Row}
    (h : block ∈ blocks kind matchRows left right) :
    (block.1 ∈ left.rows ∨ block.1 = blankRow left.width) ∧
      (block.2 ∈ right.rows ∨ block.2 = blankRow right.width) := by
  rcases List.mem_append.mp h with hpair | hlone
  · obtain ⟨l, hl, hpair⟩ := List.mem_flatMap.mp hpair
    obtain ⟨r, hr, rfl⟩ := List.mem_map.mp hpair
    exact ⟨.inl hl, .inl (List.mem_of_mem_filter hr)⟩
  rcases List.mem_append.mp hlone with hlonely | hstray
  · split at hlonely
    · obtain ⟨l, hl, rfl⟩ := List.mem_map.mp hlonely
      exact ⟨.inl (List.mem_of_mem_filter hl), .inr rfl⟩
    · cases hlonely
  · split at hstray
    · obtain ⟨r, hr, rfl⟩ := List.mem_map.mp hstray
      exact ⟨.inr rfl, .inl (List.mem_of_mem_filter hr)⟩
    · cases hstray

/-- The pairs that match, collected from the one list or from the other. -/
theorem pairs_perm {α β γ : Type} (p : α → β → Bool) (f : α → β → γ) (xs : List α) (ys : List β) :
    (xs.flatMap fun x => (ys.filter (p x)).map (f x)).Perm
      (ys.flatMap fun y => (xs.filter (p · y)).map (f · y)) := by
  induction xs with
  | nil => simp
  | cons x rest ih =>
    have hcons : (ys.flatMap fun y => ((x :: rest).filter (p · y)).map (f · y)) =
        ys.flatMap fun y => (if p x y then [f x y] else []) ++ (rest.filter (p · y)).map (f · y) := by
      refine List.flatMap_congr fun y _ => ?_
      rw [List.filter_cons]
      split <;> rfl
    rw [List.flatMap_cons, hcons, ← flatMap_ite_singleton (p x) (f x)]
    exact (ih.append_left _).trans (List.flatMap_append_perm ..)

/-- Exchanging the sides exchanges the blocks. -/
theorem blocks_mirror (kind : JoinKind) (matchRows : Row → Row → Bool) (left right : Relation) :
    (blocks kind.mirror (fun r l => matchRows l r) right left).Perm
      ((blocks kind matchRows left right).map Prod.swap) := by
  rw [blocks, blocks, List.map_append, List.map_append, List.map_flatMap, apply_ite (List.map _),
    apply_ite (List.map _), JoinKind.keepsLeft_mirror, JoinKind.keepsRight_mirror]
  simp only [List.map_map, List.map_nil]
  -- What is kept alone of the right side comes first when that is the left one.
  exact .append (pairs_perm (fun r l => matchRows l r) (fun r l => (r, l)) right.rows left.rows)
    List.perm_append_comm

/-! ### Equalities -/

variable {on on' : Condition}

/-- The condition is between a column of one relation and one of the other, in either order. -/
def Links (left right : Relation) (on : Condition) : Prop :=
  left.Names on.field ∧ right.Names on.literal ∨ right.Names on.field ∧ left.Names on.literal

theorem Links.symm (h : left.Links right on) : right.Links left on := Or.symm h

theorem Links.exchange (h : left.Links right on) : left.Links right on.exchange :=
  Or.symm (h.imp And.symm And.symm)

/-- However an equality is written, it matches what it says. -/
theorem Apart.matchesOn_of_isEquality (h : left.Apart right) (hop : on.operator.isEquality = true)
    (hlinks : left.Links right on) : left.matchesOn right on = left.asserts right on := by
  rcases hlinks with ⟨hfield, hliteral⟩ | ⟨hfield, hliteral⟩
  · exact h.matchesOn_ordered hfield hliteral
  · rw [h.matchesOn_reversed hfield hliteral]
    exact funext₂ (asserts_exchange_of_isEquality hop)

/-- An equality matches the same rows from either side, written in the same order or in the other one. -/
theorem Apart.matchesOn_symm (h : left.Apart right) (hop : on.operator.isEquality = true)
    (hlinks : left.Links right on) (hon : on' = on ∨ on' = on.exchange) :
    right.matchesOn left on' = fun r l => left.matchesOn right on l r := by
  have hon' : right.matchesOn left on' = right.asserts left on := by
    rcases hon with rfl | rfl
    · exact h.symm.matchesOn_of_isEquality hop hlinks.symm
    · have hexchange : right.matchesOn left on.exchange = right.asserts left on.exchange :=
        h.symm.matchesOn_of_isEquality hop hlinks.exchange.symm
      rw [hexchange]
      exact funext₂ (asserts_exchange_of_isEquality hop)
  rw [hon', h.matchesOn_of_isEquality hop hlinks]
  exact funext₂ fun r l => h.asserts_symm on l r

/-- A join and the one with the sides exchanged are the same but for the order of the two blocks and of the
rows. -/
structure Mirrored (left right : Relation) (kind : JoinKind) (on on' : Condition) : Prop where
  header : (left.join kind right on).header.rotate left.width = (right.join kind.mirror left on').header
  /-- There are pairs of blocks, rows of their sides or paddings for them, that are the rows of both. -/
  blocks : ∃ blocks : List (Row × Row),
    (∀ block ∈ blocks, (block.1 ∈ left.rows ∨ block.1 = blankRow left.width) ∧
      (block.2 ∈ right.rows ∨ block.2 = blankRow right.width)) ∧
    (left.join kind right on).rows.Perm (blocks.map fun block => block.1 ++ block.2) ∧
    (right.join kind.mirror left on').rows.Perm (blocks.map fun block => block.2 ++ block.1)
  /-- If the rows are as wide as the header, the columns of the left side can be moved behind the others. -/
  rotated : left.Rectangular → ((left.join kind right on).rows.map (·.rotate left.width)).Perm
    (right.join kind.mirror left on').rows

/-- **Joins by an equality are symmetric**, whatever kind of join it is and in whichever order the columns are
named on either side. -/
theorem equality_joins_mirrored (h : left.Apart right) (kind : JoinKind)
    (hop : on.operator.isEquality = true) (hlinks : left.Links right on)
    (hon : on' = on ∨ on' = on.exchange) : left.Mirrored right kind on on' := by
  have hrows : (left.join kind right on).rows.Perm
      ((Relation.blocks kind (left.matchesOn right on) left right).map fun block => block.1 ++ block.2) :=
    rows_blocks ..
  have hmirror : (right.join kind.mirror left on').rows.Perm
      ((Relation.blocks kind (left.matchesOn right on) left right).map fun block =>
        block.2 ++ block.1) := by
    refine (rows_blocks kind.mirror (right.matchesOn left on') right left).trans ?_
    rw [h.matchesOn_symm hop hlinks hon]
    refine ((blocks_mirror kind (left.matchesOn right on) left right).map _).trans (.of_eq ?_)
    rw [List.map_map]
    rfl
  refine ⟨List.rotate_append_length_eq .., ⟨_, fun block => mem_blocks, hrows, hmirror⟩, fun hleft => ?_⟩
  refine (hrows.map _).trans (.trans (.of_eq ?_) hmirror.symm)
  rw [List.map_map]
  refine List.map_congr_left fun block hblock => ?_
  have hwidth : block.1.length = left.width := by
    rcases (mem_blocks hblock).1 with hrow | hblank
    · exact hleft block.1 hrow
    · rw [hblank]
      exact List.length_replicate
  show (block.1 ++ block.2).rotate left.width = block.2 ++ block.1
  rw [← hwidth]
  exact List.rotate_append_length_eq ..

theorem equality_joins_mirrored_staff :
    let on : Condition := ⟨"pegawai.divisi", .eq, "divisi.id", none⟩
    staff.Apart divisions ∧ staff.Rectangular ∧ staff.Links divisions on ∧
      staff.Mirrored divisions .left on on.exchange ∧ staff.Mirrored divisions .full on on := by
  intro on
  have hlinks : staff.Links divisions on := .inl ⟨by unfold Names; decide, by unfold Names; decide⟩
  exact ⟨staff_apart, by unfold Rectangular; decide, hlinks,
    equality_joins_mirrored staff_apart .left rfl hlinks (.inr rfl),
    equality_joins_mirrored staff_apart .full rfl hlinks (.inl rfl)⟩

end Relation

end Leuit
