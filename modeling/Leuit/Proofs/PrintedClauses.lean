import Leuit.Proofs.Printing

/-! Reading the clauses of a selection as they are printed. Every word of a chain of conditions spells a
connective or no keyword, so the chain ends just where the next clause starts (`untilClause_append`); no word
of a clause spells the word for the table; and a clause takes the words it is printed as
(`Clause.Prints.ofWords`). So the clauses are read one by one, in any order (`SelectRows.Prints.ofWords`). -/
namespace Leuit

/-! ### Conditions -/

theorem Keyword.Optional.tokens {k : Keyword} {words : List String} (h : k.Optional words)
    {allowed : Keyword → Prop} (hk : allowed k) : ∀ word ∈ words, Token allowed word := by
  cases h with
  | absent => exact nofun
  | present hword => exact List.forall_mem_singleton.mpr (hword.token hk)

/-- The keywords between conditions. -/
def Keyword.Links (k : Keyword) : Prop := k = .and ∨ k = .or

theorem Connective.links_keyword (connective : Connective) : connective.keyword.Links := by
  cases connective with
  | and => exact .inl rfl
  | or => exact .inr rfl

theorem Connective.Prints.tokens {link : Option Connective} {words : List String} (h : Prints link words) :
    ∀ word ∈ words, Token Keyword.Links word := by
  cases h with
  | none => exact nofun
  | some hword => exact List.forall_mem_singleton.mpr (hword.token (links_keyword _))

namespace Condition
variable {conditions : List Condition} {link : Option Connective} {words rest : List String}

theorem Prints.tokens (hw : ∀ c ∈ conditions, c.Writable) (h : Prints conditions words) :
    ∀ word ∈ words, Token Keyword.Links word := by
  induction h with
  | nil => exact nofun
  | cons hsymbol hlink _ ih =>
    obtain ⟨hc, hrest⟩ := List.forall_mem_cons.mp hw
    exact List.forall_mem_cons.mpr ⟨hc.field.token, List.forall_mem_cons.mpr ⟨hsymbol.token,
      List.forall_mem_cons.mpr ⟨hc.literal.token, List.forall_mem_append.mpr ⟨hlink.tokens, ih hrest⟩⟩⟩⟩

/-- A chain starts with a field, which is no connective. -/
theorem Prints.linkOf? (hw : ∀ c ∈ conditions, c.Writable) (h : Prints conditions words) :
    linkOf? words = none := by
  cases h with
  | nil => rfl
  | cons =>
    obtain ⟨hc, -⟩ := List.forall_mem_cons.mp hw
    rw [Condition.linkOf?, hc.field.free]

/-- The word for a link is read as the link, and passed over. -/
theorem linkOf?_append (hlink : Connective.Prints link words) (hrest : linkOf? rest = none) :
    linkOf? (words ++ rest) = link ∧ (if link.isSome then (words ++ rest).drop 1 else words ++ rest) = rest := by
  cases hlink with
  | none => exact ⟨hrest, rfl⟩
  | @some connective word hword =>
    refine ⟨?_, rfl⟩
    rw [List.singleton_append, Condition.linkOf?, hword.ofWord?]
    cases connective <;> rfl

theorem Prints.listOfWords (hw : ∀ c ∈ conditions, c.Writable) (h : Prints conditions words) :
    listOfWords words = .ok conditions := by
  induction h with
  | nil => simp [Condition.listOfWords]
  | @cons c rest symbol link words hsymbol hlink hrest ih =>
    obtain ⟨hc, hrestw⟩ := List.forall_mem_cons.mp hw
    obtain ⟨hlinkOf, hdrop⟩ := linkOf?_append hlink (hrest.linkOf? hrestw)
    rw [Condition.listOfWords, hsymbol.ofText]
    dsimp only
    rw [hlinkOf, hdrop, ih hrestw, Text.stripQuotes_quoted hc.literal]
    rfl

theorem PrintsEnd.forall_word (hw : ∀ c ∈ conditions, c.Writable) (h : PrintsEnd conditions words) :
    ∀ word ∈ words, Text.Word word := by
  cases h with
  | absent => exact nofun
  | present hword hwords =>
    exact List.forall_mem_cons.mpr ⟨hword.isWord, fun w hmem => (hwords.tokens hw w hmem).isWord⟩

/-- The word before the conditions is found. -/
theorem PrintsEnd.split (h : PrintsEnd conditions words) :
    words.takeWhile (!Keyword.where.isSpelled ·) = [] ∧
      words.dropWhile (!Keyword.where.isSpelled ·) = words := by
  cases h with
  | absent => exact ⟨rfl, rfl⟩
  | present hword => simp [hword.isSpelled]

theorem PrintsEnd.listOfWords (hw : ∀ c ∈ conditions, c.Writable) (h : PrintsEnd conditions words) :
    listOfWords (words.drop 1) = .ok conditions := by
  cases h with
  | absent => simp [Condition.listOfWords]
  | present _ hwords => exact hwords.listOfWords hw

end Condition

/-! ### Clauses -/

/-- The keywords that start clauses. -/
def Keyword.startsClause : Keyword → Bool
  | .where | .order | .limit | .offset | .join | .left | .right | .inner | .full => true
  | _ => false

theorem JoinKind.startsClause_keyword (kind : JoinKind) : kind.keyword.startsClause = true := by
  cases kind <;> rfl

theorem JoinKind.Prints.tokens {kind : JoinKind} {words : List String} (h : kind.Prints words) :
    ∀ word ∈ words, Token (· ≠ .from) word := by
  cases h with
  | plain => exact nofun
  | named hword => exact List.forall_mem_singleton.mpr (hword.token (by cases kind <;> decide))

/-- Conditions end where a clause of another kind starts. -/
theorem untilClause_append {words rest : List String} (h : ∀ word ∈ words, Token Keyword.Links word)
    (hrest : rest = [] ∨ startsClause rest = true) : untilClause (words ++ rest) = words := by
  induction words with
  | nil =>
    rcases hrest with rfl | hrest
    · rfl
    · cases rest with
      | nil => rfl
      | cons word rest => rw [List.nil_append, untilClause, if_pos hrest]
  | cons word words ih =>
    obtain ⟨hword, hwords⟩ := List.forall_mem_cons.mp h
    have hstarts : startsClause (word :: (words ++ rest)) = false := by
      cases hk : Keyword.ofWord? word with
      | none => simp [startsClause, hk]
      | some k => rcases hword.spells k hk with rfl | rfl <;> simp [startsClause, hk, Keyword.isJoinKind]
    rw [List.cons_append, untilClause, if_neg (by simp [hstarts]), ih hwords]

theorem Join.ofWords_printed {j : Join} {on symbol : String} (hj : j.Writable)
    (hon : Keyword.on.SpelledAs on) (hsymbol : j.condition.operator.SpelledAs symbol) (rest : List String) :
    Join.ofWords j.kind
      (j.table :: on :: j.condition.field :: symbol :: Text.quoted j.condition.literal :: rest) = .ok j := by
  obtain ⟨kind, table, field, operator, literal, link⟩ := j
  obtain rfl : link = none := hj.unlinked
  unfold Join.ofWords
  dsimp only
  rw [if_pos hon.isSpelled, hsymbol.ofText]
  dsimp only
  rw [Text.stripQuotes_quoted hj.condition.literal]

theorem readCount_printed {n : Nat} (clause : Paging) (h : n < Decimal.countBound) (rest : List String) :
    readCount clause (toString n :: rest) = .ok n := by
  rw [readCount, Decimal.count?_toString h]

theorem nextIs_cons (k : Keyword) (word : String) (rest : List String) :
    nextIs k (word :: rest) = k.isSpelled word := rfl

/-- The words that may be left out are told from the column and from what follows. -/
theorem Sorting.ofWords_ascending {column : String} {between after rest : List String}
    (hcolumn : Identifier column) (hbetween : Keyword.by.Optional between) (hafter : Keyword.asc.Optional after)
    (hrest : nextIs .asc rest = false ∧ nextIs .desc rest = false) :
    Sorting.ofWords (between ++ column :: after ++ rest) =
      .ok (⟨column, false⟩, (between ++ column :: after).length) := by
  have hby : Keyword.by.isSpelled column = false := Keyword.isSpelled_of_none hcolumn.free
  cases hbetween with
  | absent =>
    cases hafter with
    | absent => simp [Sorting.ofWords, nextIs_cons, hby, hrest]
    | present hword =>
      simp [Sorting.ofWords, nextIs_cons, hby, hword.isSpelled,
        Keyword.isSpelled_of_ofWord? hword.ofWord? (show Keyword.asc ≠ .desc by decide)]
  | present hword' =>
    cases hafter with
    | absent => simp [Sorting.ofWords, nextIs_cons, hword'.isSpelled, hrest]
    | present hword =>
      simp [Sorting.ofWords, nextIs_cons, hword'.isSpelled, hword.isSpelled,
        Keyword.isSpelled_of_ofWord? hword.ofWord? (show Keyword.asc ≠ .desc by decide)]

theorem Sorting.ofWords_descending {column direction : String} {between : List String}
    (hcolumn : Identifier column) (hbetween : Keyword.by.Optional between)
    (hdirection : Keyword.desc.SpelledAs direction) (rest : List String) :
    Sorting.ofWords (between ++ [column, direction] ++ rest) =
      .ok (⟨column, true⟩, (between ++ [column, direction]).length) := by
  have hby : Keyword.by.isSpelled column = false := Keyword.isSpelled_of_none hcolumn.free
  cases hbetween with
  | absent => simp [Sorting.ofWords, nextIs_cons, hby, hdirection.isSpelled]
  | present hword => simp [Sorting.ofWords, nextIs_cons, hword.isSpelled, hdirection.isSpelled]

namespace Clause
variable {clause : Clause} {clauses : List Clause} {words rest : List String}

def Writable : Clause → Prop
  | conditions cs => ∀ c ∈ cs, c.Writable
  | sorting s => Identifier s.column
  | limit n | offset n => n < Decimal.countBound
  | join j => j.Writable
  | nothing => True

theorem Prints.tokens (hw : clause.Writable) (h : clause.Prints words) :
    ∀ word ∈ words, Token (· ≠ .from) word := by
  cases h with
  | conditions hword hwords =>
    refine List.forall_mem_cons.mpr ⟨hword.token (by decide), fun w hmem => ?_⟩
    exact (hwords.tokens hw w hmem).mono fun k hk => by rcases hk with rfl | rfl <;> decide
  | ascending hword hbetween hafter =>
    exact List.forall_mem_cons.mpr ⟨hword.token (by decide), List.forall_mem_append.mpr
      ⟨hbetween.tokens (by decide), List.forall_mem_cons.mpr ⟨hw.token, hafter.tokens (by decide)⟩⟩⟩
  | descending hword hbetween hdirection =>
    exact List.forall_mem_cons.mpr ⟨hword.token (by decide), List.forall_mem_append.mpr
      ⟨hbetween.tokens (by decide), by simpa using ⟨hw.token, hdirection.token (by decide)⟩⟩⟩
  | limit hword | offset hword => simpa using ⟨hword.token (by decide), token_toString _⟩
  | join hkind hword hon hsymbol =>
    refine List.forall_mem_append.mpr ⟨hkind.tokens, ?_⟩
    simpa using ⟨hword.token (by decide), hw.table.token, hon.token (by decide), hw.condition.field.token,
      hsymbol.token, hw.condition.literal.token⟩

/-- A clause starts with a keyword for it. -/
theorem Prints.head (h : clause.Prints words) :
    ∃ word own k, words = word :: own ∧ Keyword.ofWord? word = some k ∧ k.startsClause = true := by
  cases h with
  | conditions hword | ascending hword | descending hword | limit hword | offset hword =>
    exact ⟨_, _, _, rfl, hword.ofWord?, rfl⟩
  | @join j _ _ _ kind hkind hword =>
    generalize j.kind = kind at hkind
    cases hkind with
    | plain => exact ⟨_, _, _, rfl, hword.ofWord?, rfl⟩
    | named hkind => exact ⟨_, _, _, rfl, hkind.ofWord?, JoinKind.startsClause_keyword _⟩

theorem Prints.startsClause (h : clause.Prints words) (hne : ∀ cs, clause ≠ .conditions cs) :
    startsClause (words ++ rest) = true := by
  cases h with
  | conditions => exact absurd rfl (hne _)
  | ascending hword | descending hword | limit hword | offset hword =>
    simp [Leuit.startsClause, hword.ofWord?]
  | @join j _ _ _ kind hkind hword =>
    generalize j.kind = kind at hkind
    cases hkind with
    | plain => simp [Leuit.startsClause, hword.ofWord?]
    | @named kind _ hkind =>
      cases kind <;>
        simp [Leuit.startsClause, hkind.ofWord?, nextIs, hword.isSpelled, JoinKind.keyword, Keyword.isJoinKind]

theorem ofWords_of_kind {kind : JoinKind} {word next : String} (hword : kind.keyword.SpelledAs word)
    (hnext : Keyword.join.SpelledAs next) (rest : List String) :
    Clause.ofWords word (next :: rest) =
      (Join.ofWords kind rest).map fun j => (.join j, Join.wordCount + 1) := by
  rw [Clause.ofWords, hword.ofWord?]
  cases kind <;> exact if_pos (by rw [nextIs_cons, hnext.isSpelled]; rfl)

/-- A clause is read as itself, and nothing of what follows with it. -/
theorem Prints.ofWords (hw : clause.Writable) (h : clause.Prints words)
    (hdirection : nextIs .asc rest = false ∧ nextIs .desc rest = false)
    (hconditions : ∀ cs, clause = .conditions cs → rest = [] ∨ Leuit.startsClause rest = true) :
    ∃ word own, words = word :: own ∧ Clause.ofWords word (own ++ rest) = .ok (clause, own.length) := by
  cases h with
  | @conditions cs word own hword hwords =>
    refine ⟨word, own, rfl, ?_⟩
    rw [Clause.ofWords, hword.ofWord?]
    dsimp only
    rw [untilClause_append (hwords.tokens hw) (hconditions cs rfl), hwords.listOfWords hw]
    rfl
  | ascending hword hbetween hafter =>
    refine ⟨_, _, rfl, ?_⟩
    rw [Clause.ofWords, hword.ofWord?]
    exact congrArg (Except.map _) (Sorting.ofWords_ascending hw hbetween hafter hdirection)
  | descending hword hbetween hdirection =>
    refine ⟨_, _, rfl, ?_⟩
    rw [Clause.ofWords, hword.ofWord?]
    exact congrArg (Except.map _) (Sorting.ofWords_descending hw hbetween hdirection rest)
  | limit hword =>
    refine ⟨_, _, rfl, ?_⟩
    rw [Clause.ofWords, hword.ofWord?]
    exact congrArg (Except.map _) (readCount_printed .limit hw rest)
  | offset hword =>
    refine ⟨_, _, rfl, ?_⟩
    rw [Clause.ofWords, hword.ofWord?]
    exact congrArg (Except.map _) (readCount_printed .offset hw rest)
  | @join j word on symbol kind hkind hword hon hsymbol =>
    have hread := Join.ofWords_printed hw hon hsymbol rest
    generalize j.kind = joinKind at hkind hread
    cases hkind with
    | plain =>
      refine ⟨_, _, rfl, ?_⟩
      rw [Clause.ofWords, hword.ofWord?]
      exact congrArg (Except.map _) hread
    | named hkind =>
      exact ⟨_, _, rfl, (ofWords_of_kind hkind hword _).trans (congrArg (Except.map _) hread)⟩

/-! ### Selections -/

def conditions? : Clause → Option (List Condition)
  | conditions cs => some cs
  | _ => none

def sorting? : Clause → Option Sorting
  | sorting s => some s
  | _ => none

def limit? : Clause → Option Nat
  | limit n => some n
  | _ => none

def offset? : Clause → Option Nat
  | offset n => some n
  | _ => none

namespace PrintsAll

theorem tokens (hw : ∀ clause ∈ clauses, clause.Writable) (h : PrintsAll clauses words) :
    ∀ word ∈ words, Token (· ≠ .from) word := by
  induction h with
  | nil => exact nofun
  | cons hclause _ ih =>
    obtain ⟨hfirst, hrest⟩ := List.forall_mem_cons.mp hw
    exact List.forall_mem_append.mpr ⟨hclause.tokens hfirst, ih hrest⟩

/-- A clause is not mistaken for the direction of a sorting before it. -/
theorem nextIs_direction (h : PrintsAll clauses words) :
    nextIs .asc words = false ∧ nextIs .desc words = false := by
  cases h with
  | nil => exact ⟨rfl, rfl⟩
  | cons hclause =>
    obtain ⟨word, own, k, rfl, hk, hstarts⟩ := hclause.head
    rw [List.cons_append, nextIs_cons, nextIs_cons]
    constructor <;>
      exact Keyword.isSpelled_of_ofWord? hk (by rintro rfl; cases hstarts)

/-- What follows the only chain of conditions ends it. -/
theorem startsClause (h : PrintsAll clauses words) (hnone : clauses.filterMap conditions? = []) :
    words = [] ∨ Leuit.startsClause words = true := by
  cases h with
  | nil => exact .inl rfl
  | cons hclause =>
    refine .inr (hclause.startsClause ?_)
    rintro cs rfl
    cases hnone

theorem addClauses (hw : ∀ clause ∈ clauses, clause.Writable) (h : PrintsAll clauses words)
    (hone : (clauses.filterMap conditions?).length ≤ 1) (q : SelectRows) :
    q.addClauses words = .ok (clauses.foldl SelectRows.add q) := by
  induction h generalizing q with
  | nil => rw [SelectRows.addClauses]; rfl
  | @cons clause rest own words hclause hrest ih =>
    obtain ⟨hfirst, hrestw⟩ := List.forall_mem_cons.mp hw
    -- There is one chain at most, so what follows this one is of another kind and ends it.
    have hconditions : ∀ cs, clause = .conditions cs → words = [] ∨ Leuit.startsClause words = true := by
      rintro cs rfl
      refine hrest.startsClause (List.length_eq_zero_iff.mp ?_)
      simpa [conditions?] using hone
    have hfewer : (rest.filterMap conditions?).length ≤ 1 := by
      refine Nat.le_trans ?_ hone
      rw [List.filterMap_cons]
      split <;> simp
    obtain ⟨word, own, rfl, hread⟩ := hclause.ofWords hfirst hrest.nextIs_direction hconditions
    rw [List.cons_append, SelectRows.addClauses, hread]
    dsimp only
    rw [List.drop_left, ih hrestw hfewer, List.foldl_cons]

end PrintsAll

end Clause

namespace SelectRows
variable {q : SelectRows} {clauses : List Clause} {words : List String}

/-- What clauses make of a selection: they add joins, and the last of any other kind counts. -/
theorem foldl_add (q : SelectRows) (clauses : List Clause) :
    clauses.foldl add q =
      ⟨q.table, q.fields, q.joins ++ clauses.filterMap Clause.join?,
        (clauses.filterMap Clause.conditions?).getLast?.getD q.conditions,
        (clauses.filterMap Clause.sorting?).getLast?.or q.sorting,
        (clauses.filterMap Clause.limit?).getLast?.or q.limit,
        (clauses.filterMap Clause.offset?).getLast?.getD q.offset⟩ := by
  induction clauses generalizing q with
  | nil => simp
  | cons clause rest ih =>
    rw [List.foldl_cons, ih]
    cases clause <;>
      simp [add, List.filterMap_cons, Clause.join?, Clause.conditions?, Clause.sorting?, Clause.limit?,
        Clause.offset?, List.getLast?_cons]

/-- A list that is a single element at most has one order only. -/
theorem eq_of_perm_toList {α : Type} {list : List α} {o : Option α} (h : list.Perm o.toList) :
    list = o.toList := by
  cases o with
  | none => exact List.perm_nil.mp h
  | some a => exact List.perm_singleton.mp h

theorem filterMap_clauses {α : Type} (q : SelectRows) (f : Clause → Option α) :
    q.clauses.filterMap f =
      q.joins.filterMap (fun j => f (.join j)) ++
        (if q.conditions = [] then none else f (.conditions q.conditions)).toList ++
        (q.sorting.bind fun s => f (.sorting s)).toList ++ (q.limit.bind fun n => f (.limit n)).toList ++
        (if q.offset = 0 then none else f (.offset q.offset)).toList := by
  have honly : ∀ (p : Prop) [Decidable p] (clause : Clause),
      (if p then [] else [clause]).filterMap f = (if p then none else f clause).toList := by
    intro p _ clause
    split
    · rfl
    · cases h : f clause <;> simp [h]
  have hoption : ∀ {β : Type} (o : Option β) (clause : β → Clause),
      (o.toList.map clause).filterMap f = (o.bind fun b => f (clause b)).toList := by
    intro β o clause
    cases o with
    | none => rfl
    | some b => cases h : f (clause b) <;> simp [h]
  simp only [clauses, List.filterMap_append, List.filterMap_map, honly, hoption]
  rfl

/-- Of every kind but joins a selection needs one clause at most. -/
theorem Arranged.single (h : q.Arranged clauses) :
    clauses.filterMap Clause.conditions? = (if q.conditions = [] then none else some q.conditions).toList ∧
      clauses.filterMap Clause.sorting? = q.sorting.toList ∧
      clauses.filterMap Clause.limit? = q.limit.toList ∧
      clauses.filterMap Clause.offset? = (if q.offset = 0 then none else some q.offset).toList := by
  refine ⟨?_, ?_, ?_, ?_⟩ <;>
    (refine eq_of_perm_toList ((h.perm.filterMap _).trans (.of_eq ?_)); rw [filterMap_clauses])
  · simp [Clause.conditions?]
  · simp [Clause.sorting?]
  · simp [Clause.limit?]
  · simp [Clause.offset?]

theorem Arranged.foldl_add (h : q.Arranged clauses) : clauses.foldl add (ofFields q.table q.fields) = q := by
  have hlast : ∀ {α : Type} (o : Option α), o.toList.getLast? = o := fun o => by cases o <;> rfl
  obtain ⟨hconditions, hsorting, hlimit, hoffset⟩ := h.single
  rw [SelectRows.foldl_add, h.joins, hconditions, hsorting, hlimit, hoffset, hlast, hlast, hlast, hlast]
  have hchain : (if q.conditions = [] then none else some q.conditions).getD [] = q.conditions := by
    split <;> simp [*]
  have hskip : (if q.offset = 0 then none else some q.offset).getD 0 = q.offset := by
    split <;> simp [*]
  simp only [ofFields, hchain, hskip, Option.or_none, List.nil_append]

theorem Writable.of_arranged (hw : q.Writable) (h : q.Arranged clauses) :
    ∀ clause ∈ clauses, clause.Writable := by
  intro clause hclause
  have hmem := h.perm.mem_iff.mp hclause
  simp only [SelectRows.clauses, List.mem_append, List.mem_map, Option.mem_toList] at hmem
  obtain (((⟨j, hj, rfl⟩ | hmem) | ⟨s, hs, rfl⟩) | ⟨n, hn, rfl⟩) | hmem := hmem
  · exact hw.joins j hj
  · split at hmem
    · cases hmem
    · rw [List.mem_singleton.mp hmem]
      exact hw.conditions
  · exact hw.sorting s hs
  · exact hw.limit n hn
  · split at hmem
    · cases hmem
    · rw [List.mem_singleton.mp hmem]
      exact hw.offset

theorem Writable.token_fields (hw : q.Writable) : Token (· ≠ .from) (",".intercalate q.fields) :=
  .commas hw.nonempty fun field hfield => (hw.fields field hfield).token

theorem Prints.forall_word (hw : q.Writable) (h : q.Prints words) : ∀ word ∈ words, Text.Word word := by
  cases h with
  | fields hword harranged hwords =>
    have hclauses := hwords.tokens (hw.of_arranged harranged)
    refine List.forall_mem_cons.mpr ⟨hw.token_fields.isWord,
      List.forall_mem_cons.mpr ⟨hword.isWord, List.forall_mem_cons.mpr ⟨hw.table.isWord, ?_⟩⟩⟩
    exact fun w hmem => (hclauses w hmem).isWord
  | all hall harranged hwords =>
    have hclauses := hwords.tokens (hw.of_arranged harranged)
    exact List.forall_mem_cons.mpr ⟨hw.table.isWord, fun w hmem => (hclauses w hmem).isWord⟩

theorem Prints.ofWords (hw : q.Writable) (h : q.Prints words) : SelectRows.ofWords words = .ok q := by
  have hread : ∀ clauses words, q.Arranged clauses → Clause.PrintsAll clauses words →
      (ofFields q.table q.fields).addClauses words = .ok q := by
    intro clauses words harranged hwords
    have hone : (clauses.filterMap Clause.conditions?).length ≤ 1 := by
      rw [harranged.single.1]
      split <;> simp
    rw [hwords.addClauses (hw.of_arranged harranged) hone, harranged.foldl_add]
  cases h with
  -- Only the fields stand before the word for the table, and they are not such a word themselves.
  | @fields word clauses words hword harranged hwords =>
    have hfields : Keyword.from.isSpelled (",".intercalate q.fields) = false :=
      hw.token_fields.isSpelled (not_not_intro rfl)
    have hindex : (",".intercalate q.fields :: word :: q.table :: words).findIdx? Keyword.from.isSpelled =
        some 1 := by
      simp [List.findIdx?_cons, hfields, hword.isSpelled]
    unfold SelectRows.ofWords
    rw [hindex]
    show (SelectRows.ofFields q.table (commaList (" ".intercalate [",".intercalate q.fields]))).addClauses
      words = _
    rw [String.intercalate_singleton, commaList_intercalate hw.fields]
    exact hread clauses words harranged hwords
  | @all clauses words hall harranged hwords =>
    have hnone : (q.table :: words).findIdx? Keyword.from.isSpelled = none := by
      rw [List.findIdx?_eq_none_iff]
      refine List.forall_mem_cons.mpr ⟨Keyword.isSpelled_of_none hw.table.free, fun w hmem => ?_⟩
      exact (hwords.tokens (hw.of_arranged harranged) w hmem).isSpelled (not_not_intro rfl)
    unfold SelectRows.ofWords
    rw [hnone]
    show (SelectRows.ofFields q.table ["*"]).addClauses words = _
    rw [← hall]
    exact hread clauses words harranged hwords

end SelectRows

end Leuit
