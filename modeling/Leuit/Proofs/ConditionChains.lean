import Leuit.Query.Condition

/-! How chains of conditions are evaluated. A chain goes on as long as its conditions have links
(`Condition.Leads`). Its conditions are checked from the left, each once and whatever the results before it are,
and the results are put together in the same order (`Condition.evaluate_eq`); what stands behind a condition
without link is not checked. So a chain that goes on by a link comes to its own result and that of the new
condition (`Condition.evaluate_concat`). To say what is checked, chains are evaluated here in any monad; without
effects that is how queries evaluate them (`Condition.evaluate_pure`, `Condition.chain_folds_left`). -/
namespace Leuit.Condition

variable {chain conditions front rest : List Condition} {c last d : Condition} {connective : Connective}

/-! ### Linked conditions -/

/-- All conditions but the last are linked to the next. -/
def Linked (chain : List Condition) : Prop := ∀ c ∈ chain.dropLast, c.link.isSome = true

/-- The longest start of a list in which the conditions are linked. -/
structure Leads (chain conditions : List Condition) : Prop where
  start : chain <+: conditions
  linked : Linked chain
  longest : ∀ other, other <+: conditions → Linked other → other <+: chain

theorem linked_cons_cons {next : Condition} :
    Linked (c :: next :: rest) ↔ c.link.isSome = true ∧ Linked (next :: rest) := by
  rw [Linked, List.dropLast_cons_cons, List.forall_mem_cons]
  rfl

theorem linked_single (c : Condition) : Linked [c] := nofun

theorem linked_concat : Linked (front ++ [last]) ↔ ∀ c ∈ front, c.link.isSome = true := by
  rw [Linked, List.dropLast_concat]

theorem Leads.unique {chain' : List Condition} (h : Leads chain conditions) (h' : Leads chain' conditions) :
    chain = chain' :=
  (h'.longest chain h.start h.linked).eq_of_length_le (h.longest chain' h'.start h'.linked).length_le

theorem decisive_leads (conditions : List Condition) : Leads (decisive conditions) conditions := by
  induction conditions with
  | nil => exact ⟨List.prefix_rfl, nofun, fun other hother _ => hother⟩
  | cons c rest ih =>
    unfold decisive
    split
    · next hlink =>
      refine ⟨List.prefix_cons_inj c |>.mpr ih.start, ?_, fun other hother hlinked => ?_⟩
      · cases hrest : decisive rest with
        | nil => exact linked_single c
        | cons next more => exact linked_cons_cons.mpr ⟨hlink, hrest ▸ ih.linked⟩
      · cases other with
        | nil => exact List.nil_prefix
        | cons first others =>
          obtain ⟨rfl, hothers⟩ := List.cons_prefix_cons.mp hother
          refine List.cons_prefix_cons.mpr ⟨rfl, ih.longest others hothers ?_⟩
          cases others with
          | nil => exact nofun
          | cons next others => exact (linked_cons_cons.mp hlinked).2
    · next hlink =>
      refine ⟨⟨rest, rfl⟩, linked_single c, fun other hother hlinked => ?_⟩
      cases other with
      | nil => exact List.nil_prefix
      | cons first others =>
        obtain ⟨rfl, hothers⟩ := List.cons_prefix_cons.mp hother
        cases others with
        | nil => exact List.prefix_rfl
        | cons next others => exact absurd (linked_cons_cons.mp hlinked).1 hlink

/-! ### Evaluating with effects -/

section
variable {m : Type → Type} [Monad m]

/-- Goes through the neighbours in a chain up to a condition without link. The second of each two is
checked, which may do something besides, and its result is added to the one before. -/
def evaluatePairs (check : Condition → m Bool) (result : Bool) : List (Condition × Condition) → m Bool
  | [] => pure result
  | (c, next) :: rest =>
    match c.link with
    | none => pure result
    | some connective => do
      let holds ← check next
      evaluatePairs check (connective.apply result holds) rest

/-- Evaluates a chain with checks that may do something besides. -/
def evaluate (check : Condition → m Bool) : List Condition → m Bool
  | [] => pure true
  | c :: rest => do
    let result ← check c
    evaluatePairs check result ((c :: rest).zip rest)

/-- Adds results to one, from the left. -/
def foldFrom (result : Bool) (connectives : List Connective) (results : List Bool) : Bool :=
  (connectives.zip results).foldl (fun result (connective, next) => connective.apply result next) result

/-- The results of a chain put together from the left. The link of its last condition joins nothing. -/
def foldLeft (chain : List Condition) : List Bool → Bool
  | [] => true
  | result :: results => foldFrom result (chain.filterMap (·.link)) results

variable [LawfulMonad m] {check : Condition → m Bool}

theorem evaluatePairs_eq (check : Condition → m Bool) (result : Bool) (c : Condition) (rest : List Condition) :
    evaluatePairs check result ((c :: rest).zip rest) = do
      let results ← (decisive (c :: rest)).tail.mapM check
      return foldFrom result ((decisive (c :: rest)).filterMap (·.link)) results := by
  induction rest generalizing c result with
  | nil => simp [decisive, evaluatePairs, foldFrom]
  | cons next rest ih =>
    rw [List.zip_cons_cons, evaluatePairs]
    cases hlink : c.link with
    | none => simp [decisive, hlink, foldFrom]
    | some connective =>
      have hdecisive : decisive (c :: next :: rest) = c :: decisive (next :: rest) := by
        simp [decisive, hlink]
      obtain ⟨more, hmore⟩ : ∃ more, decisive (next :: rest) = next :: more := ⟨_, rfl⟩
      simp only [ih, hdecisive, hmore, hlink, List.tail_cons, List.mapM_cons, bind_assoc, pure_bind,
        List.filterMap_cons]
      rfl

/-- **A chain is checked from the left, each condition once, and the results are put together from the
left.** -/
theorem evaluate_eq (check : Condition → m Bool) (conditions : List Condition) :
    evaluate check conditions = do
      let results ← (decisive conditions).mapM check
      return foldLeft (decisive conditions) results := by
  cases conditions with
  | nil => simp [evaluate, decisive, foldLeft]
  | cons c rest =>
    obtain ⟨more, hmore⟩ : ∃ more, decisive (c :: rest) = c :: more := ⟨_, rfl⟩
    rw [evaluate]
    simp only [evaluatePairs_eq, hmore, List.tail_cons, List.mapM_cons, bind_assoc, pure_bind]
    rfl

/-- Checks that only have a result give the result that holds of a chain. -/
theorem evaluate_pure (p : Condition → Bool) (conditions : List Condition) :
    evaluate (fun c => (pure (p c) : m Bool)) conditions = pure (holdsAll p conditions) := by
  have hpairs : ∀ rest c result, evaluatePairs (fun c => (pure (p c) : m Bool)) result ((c :: rest).zip rest) =
      pure (continueChain p result c.link rest) := by
    intro rest
    induction rest with
    | nil => intro c result; cases c.link <;> rfl
    | cons next rest ih =>
      intro c result
      rw [List.zip_cons_cons, evaluatePairs]
      cases c.link with
      | none => rfl
      | some connective =>
        simp only [pure_bind, ih]
        rfl
  cases conditions with
  | nil => rfl
  | cons c rest =>
    rw [evaluate, pure_bind, hpairs]
    rfl

/-- One more pair behind a chain whose conditions have links. -/
theorem evaluatePairs_concat {pairs : List (Condition × Condition)}
    (hpairs : ∀ pair ∈ pairs, pair.1.link.isSome = true) (hlast : last.link = some connective)
    (result : Bool) :
    evaluatePairs check result (pairs ++ [(last, d)]) = do
      let before ← evaluatePairs check result pairs
      let holds ← check d
      return connective.apply before holds := by
  induction pairs generalizing result with
  | nil => simp [evaluatePairs, hlast]
  | cons pair pairs ih =>
    obtain ⟨hpair, hpairs⟩ := List.forall_mem_cons.mp hpairs
    obtain ⟨linked, hlinked⟩ := Option.isSome_iff_exists.mp hpair
    simp only [List.cons_append, evaluatePairs, hlinked, ih hpairs, bind_assoc]

theorem zip_tail_concat (front : List Condition) (last d : Condition) :
    (front ++ [last, d]).zip (front ++ [last, d]).tail =
      (front ++ [last]).zip (front ++ [last]).tail ++ [(last, d)] := by
  induction front with
  | nil => rfl
  | cons c front ih =>
    cases front with
    | nil => rfl
    | cons next front => exact congrArg ((c, next) :: ·) ih

/-- **A chain that goes on by a link comes to its result and that of the new condition.** -/
theorem evaluate_concat (h : Linked (front ++ [last])) (hlast : last.link = some connective) :
    evaluate check (front ++ [last, d]) = do
      let before ← evaluate check (front ++ [last])
      let holds ← check d
      return connective.apply before holds := by
  have hlinked : ∀ c ∈ front ++ [last], c.link.isSome = true := by
    simpa [or_imp, forall_and, hlast] using linked_concat.mp h
  have hpairs : ∀ pair ∈ (front ++ [last]).zip (front ++ [last]).tail, pair.1.link.isSome = true :=
    fun pair hpair => hlinked _ (List.of_mem_zip hpair).1
  have hsplit := zip_tail_concat front last d
  cases front with
  | nil => simp [evaluate, evaluatePairs, hlast]
  | cons c front =>
    show (check c >>= fun result => evaluatePairs check result
      ((c :: front ++ [last, d]).zip (c :: front ++ [last, d]).tail)) = _
    rw [hsplit]
    simp only [evaluatePairs_concat hpairs hlast]
    exact (bind_assoc ..).symm

/-- What stands behind a condition without link is not checked. -/
theorem evaluate_ignored (hlast : last.link = none) :
    evaluate check (front ++ last :: rest) = evaluate check (front ++ [last]) := by
  have hdecisive : decisive (front ++ last :: rest) = decisive (front ++ [last]) := by
    induction front with
    | nil => simp [decisive, hlast]
    | cons c front ih => simp only [List.cons_append, decisive, ih]
  rw [evaluate_eq, evaluate_eq, hdecisive]

/-- The link of the last condition joins nothing. -/
theorem evaluate_relinked {link : Option Connective} (hcheck : check { last with link } = check last) :
    evaluate check (front ++ [{ last with link }]) = evaluate check (front ++ [last]) := by
  have hpairs : ∀ front c result, evaluatePairs check result
      ((c :: (front ++ [{ last with link }])).zip (front ++ [{ last with link }])) =
        evaluatePairs check result ((c :: (front ++ [last])).zip (front ++ [last])) := by
    intro front
    induction front with
    | nil => simp [evaluatePairs, hcheck]
    | cons next front ih => simp [evaluatePairs, ih]
  cases front with
  | nil => simp [evaluate, hcheck]
  | cons c front => simp [evaluate, hpairs]

end

/-! ### What a chain comes to -/

section
variable {m : Type → Type} [Monad m]

/-- How chains are evaluated that fold strictly from the left. -/
structure FoldsLeft (eval : List Condition → m Bool) (check : Condition → m Bool) : Prop where
  empty : eval [] = pure true
  /-- The conditions that are linked from the start are checked one after the other, each once and whatever the
  results are, and no others; their results are then put together from the left. -/
  fold : ∀ chain conditions, Leads chain conditions → eval conditions = do
    let results ← chain.mapM check
    return foldLeft chain results
  ignored : ∀ front last rest, last.link = none → eval (front ++ last :: rest) = eval (front ++ [last])
  /-- A linked chain that goes on by a link comes to its result and that of the new condition. -/
  appended : ∀ front last connective d, Linked (front ++ [last]) → last.link = some connective →
    eval (front ++ [last, d]) = do
      let before ← eval (front ++ [last])
      let holds ← check d
      return connective.apply before holds
  /-- It makes no difference to a chain by which link it will go on. -/
  relinked : ∀ front last link, check { last with link } = check last →
    eval (front ++ [{ last with link }]) = eval (front ++ [last])

variable [LawfulMonad m]

theorem evaluate_foldsLeft (check : Condition → m Bool) : FoldsLeft (evaluate check) check where
  empty := rfl
  fold _ conditions hleads := hleads.unique (decisive_leads conditions) ▸ evaluate_eq check conditions
  ignored _ _ _ := evaluate_ignored
  appended _ _ _ _ := evaluate_concat
  relinked _ _ _ := evaluate_relinked

/-- **Chains fold strictly from the left**, also if checks do something besides; without that, this is how
queries evaluate them. -/
theorem chain_folds_left (check : Condition → m Bool) (p : Condition → Bool) :
    (∀ conditions, ∃ chain, Leads chain conditions) ∧
      FoldsLeft (evaluate check) check ∧ FoldsLeft (m := Id) (holdsAll p) p ∧
      ∀ conditions, evaluate (fun c => (pure (p c) : m Bool)) conditions = pure (holdsAll p conditions) := by
  have hrun : evaluate (m := Id) p = holdsAll p := funext (evaluate_pure (m := Id) p)
  exact ⟨fun conditions => ⟨_, decisive_leads conditions⟩, evaluate_foldsLeft check,
    hrun ▸ evaluate_foldsLeft (m := Id) p, evaluate_pure p⟩

/-- Checks that keep a list of the fields they read: the last condition of four is not reached, and the third
is joined to the first two. -/
theorem chain_folds_left_mixed :
    let check (c : Condition) : StateM (List String) Bool := do
      modify (· ++ [c.field])
      return c.literal == "t"
    let chain : List Condition :=
      [⟨"a", .eq, "t", some .or⟩, ⟨"b", .eq, "t", some .and⟩, ⟨"c", .eq, "f", none⟩, ⟨"d", .eq, "t", some .or⟩]
    (evaluate check chain).run [] = (false, ["a", "b", "c"]) ∧ holdsAll (·.literal == "t") chain = false := by
  intro check chain
  obtain ⟨-, h, hrun, -⟩ := chain_folds_left check (·.literal == "t")
  have hfront : ∀ c ∈ chain.take 1, c.link.isSome = true := by decide
  have hlinked : Linked (chain.take 2) := linked_concat.mpr hfront
  refine ⟨?_, ?_⟩
  · have hlog := (h.ignored (chain.take 2) ⟨"c", .eq, "f", none⟩ (chain.drop 3) rfl).trans
      (h.appended (chain.take 1) _ .and _ hlinked rfl)
    exact congrArg (·.run []) hlog
  · exact (hrun.ignored (chain.take 2) ⟨"c", .eq, "f", none⟩ (chain.drop 3) rfl).trans
      (hrun.appended (chain.take 1) _ .and _ hlinked rfl)

end

end Leuit.Condition
