import Leuit.Proofs.Slices
import Leuit.Proofs.Spellings
import Leuit.Query.Parser

/-! Queries read by position. The reader stands at a word of the query, counted from the word for the command,
asks for words by number and takes slices of them: fields between the command and the table, conditions up
to the next clause, assignments up to the word for conditions. The positions it goes by are found in the
words themselves, so every read stays inside the query, and the command is the one that is read word by word
(`Command.ofTextStrict_eq`). That a word for commands names no command, and that the reader of conditions does
not move forward, are held to be impossible; so this says too that the reader always moves on. -/
namespace Leuit
open Console (byteCount cutAt)
open Strict (settled read)

/-! ### Flags -/

theorem Text.utf8Size_toLower (c : Char) : c.toLower.utf8Size = c.utf8Size :=
  forall_char_toLower (by decide +kernel) c

theorem Text.byteCount_map_toLower (cs : List Char) : byteCount (cs.map Char.toLower) = byteCount cs := by
  induction cs with
  | nil => rfl
  | cons c cs ih => rw [List.map_cons, byteCount_cons, byteCount_cons, utf8Size_toLower, ih]

/-- What follows a flag, cut out of the word. That the word may end before the flag does, or inside a
character, is no fault: then it is no flag. -/
def flagValueStrict? (flag word : String) : Option (Option String) :=
  match Text.slice? word.toList 0 (byteCount flag.toList) with
  | none => some none
  | some start =>
    if start.map Char.toLower = flag.toList then do
      let value ← Text.slice? word.toList (byteCount flag.toList) (byteCount word.toList)
      return some (String.ofList value)
    else some none

theorem flagValueStrict?_eq (flag word : String) :
    flagValueStrict? flag word = some (flagValue? flag word) := by
  unfold flagValueStrict? flagValue?
  rw [List.splitAt_eq]
  dsimp only
  by_cases hflag : (word.toList.take flag.length).map Char.toLower = flag.toList
  · have hbytes : byteCount flag.toList = byteCount (word.toList.take flag.length) := by
      rw [← hflag, Text.byteCount_map_toLower]
    have hword := (List.take_append_drop flag.length word.toList).symm
    have hstart : Text.slice? word.toList 0 (byteCount flag.toList) = some (word.toList.take flag.length) :=
      Text.slice?_of_append (a := []) hword rfl (by simp [hbytes])
    have hvalue : Text.slice? word.toList (byteCount flag.toList) (byteCount word.toList) =
        some (word.toList.drop flag.length) := by
      refine Text.slice?_of_append (c := []) (by rw [List.append_nil]; exact hword) hbytes ?_
      rw [← Text.byteCount_append, ← hword]
    rw [if_pos hflag, hstart]
    simp only [if_pos hflag, hvalue]
    rfl
  · rw [if_neg hflag]
    split
    · rfl
    · next start hstart =>
      rw [if_neg]
      intro heq
      have hlen : start.length = flag.length := by
        rw [← String.length_toList, ← heq, List.length_map]
      rw [← hlen, ← List.prefix_iff_eq_take.mp (Text.prefix_of_slice? hstart)] at hflag
      exact hflag heq

/-- Sorts the words behind the name of a new table into column descriptors and the last flag of each kind. -/
def scanFlags (columns : List String) (readers writers : Option String) :
    List String → Option (List String × Option String × Option String)
  | [] => some (columns, readers, writers)
  | word :: rest => do
    match ← flagValueStrict? readFlag word with
    | some roles => scanFlags columns (some roles) writers rest
    | none =>
      match ← flagValueStrict? writeFlag word with
      | some roles => scanFlags columns readers (some roles) rest
      | none => scanFlags (columns ++ [word]) readers writers rest

/-- No word is a flag of both kinds. -/
theorem flagValue?_write_of_read {word roles : String} (h : flagValue? readFlag word = some roles) :
    flagValue? writeFlag word = none := by
  unfold flagValue? at h ⊢
  rw [List.splitAt_eq] at h ⊢
  dsimp only at h ⊢
  split at h
  · next hread =>
    rw [if_neg]
    intro hwrite
    -- the two flags differ in their third character already
    have hr : ((word.toList.take readFlag.length).map Char.toLower)[2]? = some 'r' := by
      rw [hread]
      rfl
    have hw : ((word.toList.take writeFlag.length).map Char.toLower)[2]? = some 'w' := by
      rw [hwrite]
      rfl
    rw [List.getElem?_map, List.getElem?_take_of_lt (by decide)] at hr hw
    rw [hr] at hw
    cases hw
  · cases h

/-- A flag counts unless a later one follows. -/
theorem lastFlag_cons {flag word roles : String} (h : flagValue? flag word = some roles) (rest : List String)
    (earlier : Option String) :
    ((word :: rest).filterMap (flagValue? flag)).getLast?.or earlier =
      (rest.filterMap (flagValue? flag)).getLast?.or (some roles) := by
  rw [List.filterMap_cons_some h, List.getLast?_cons]
  cases (rest.filterMap (flagValue? flag)).getLast? <;> rfl

theorem scanFlags_eq (columns : List String) (readers writers : Option String) (words : List String) :
    scanFlags columns readers writers words = some (columns ++ words.filter (!isFlag ·),
      (words.filterMap (flagValue? readFlag)).getLast?.or readers,
      (words.filterMap (flagValue? writeFlag)).getLast?.or writers) := by
  induction words generalizing columns readers writers with
  | nil => simp [scanFlags]
  | cons word rest ih =>
    rw [scanFlags, flagValueStrict?_eq, flagValueStrict?_eq]
    simp only [Option.bind_eq_bind, Option.bind_some]
    cases hread : flagValue? readFlag word with
    | some roles =>
      have hwrite := flagValue?_write_of_read hread
      have hflag : isFlag word = true := by simp [isFlag, hread]
      dsimp only
      rw [ih, lastFlag_cons hread, List.filterMap_cons_none hwrite, List.filter_cons_of_neg (by simp [hflag])]
    | none =>
      dsimp only
      rw [List.filterMap_cons_none hread]
      cases hwrite : flagValue? writeFlag word with
      | some roles =>
        have hflag : isFlag word = true := by simp [isFlag, hwrite]
        dsimp only
        rw [ih, lastFlag_cons hwrite, List.filter_cons_of_neg (by simp [hflag])]
      | none =>
        have hflag : isFlag word = false := by simp [isFlag, hread, hwrite]
        dsimp only
        rw [ih, List.filterMap_cons_none hwrite, List.filter_cons_of_pos (by simp [hflag]), List.append_assoc,
          List.singleton_append]

namespace CreateTable

/-- A new table from its name and the words after it, whose flags are cut out. -/
def describeStrict (table : String) (words : List String) : Strict CreateTable := do
  let (columns, readers, writers) ← read (scanFlags [] none none words)
  match columns with
  | [] => settled (.error (missing .create))
  | columns =>
    let standard := Permissions.standard
    let listed (roles : String) := NameSet.ofList (commaList roles)
    let permissions := match readers.map listed, writers.map listed with
      | none, none => none
      | some readers, none => some (standard.set .read readers)
      | none, some writers => some (standard.set .write writers)
      | some readers, some writers => some ((standard.set .read readers).set .write writers)
    return ⟨table, String.join columns, permissions⟩

def ofWordsStrict : List String → Strict CreateTable
  | [] => settled (.error (missing .create))
  | word :: rest =>
    if Keyword.create.isSpelled word then
      match rest with
      | [] => settled (.error (missing .create))
      | table :: words => describeStrict table words
    else describeStrict word rest

theorem describeStrict_eq (table : String) (words : List String) :
    describeStrict table words = settled
      (match words.filter (!isFlag ·) with
      | [] => .error (missing .create)
      | columns => .ok ⟨table, String.join columns, flagPermissions words⟩) := by
  unfold describeStrict
  rw [scanFlags_eq, Strict.read_some_bind]
  simp only [List.nil_append, Option.or_none, flagPermissions, flagRoles?]
  cases words.filter (!isFlag ·) <;> rfl

theorem ofWordsStrict_eq (words : List String) : ofWordsStrict words = settled (ofWords words) := by
  unfold ofWordsStrict ofWords
  cases words with
  | nil => rfl
  | cons word rest =>
    dsimp only
    split
    · cases rest with
      | nil => rfl
      | cons table words => exact describeStrict_eq table words
    · exact describeStrict_eq word rest

end CreateTable

/-! ### Conditions -/

namespace Condition

/-- The conditions from position `i` on, each made of three words that are asked for by number. -/
def listOfWordsStrict (words : List String) (i : Nat) : Strict (List Condition) :=
  if i + 2 < words.length then do
    let field ← read words[i]?
    let symbol ← read words[i + 1]?
    let operator ← settled (Operator.ofText symbol)
    let literal ← read words[i + 2]?
    let link := linkOf? (words.drop (i + 3))
    let others ← listOfWordsStrict words (if link.isSome then i + 4 else i + 3)
    return ⟨field, operator, Text.stripQuotes literal, link⟩ :: others
  else settled (.ok [])
termination_by words.length - i
decreasing_by split <;> omega

/-- A condition takes three words. -/
theorem listOfWords_short {words : List String} (h : words.length ≤ 2) : listOfWords words = .ok [] := by
  unfold listOfWords
  split
  · simp at h
  · rfl

theorem listOfWordsStrict_eq (words : List String) (i : Nat) :
    listOfWordsStrict words i = settled (listOfWords (words.drop i)) := by
  induction i using listOfWordsStrict.induct words with
  | case1 i h ih =>
    have h0 : i < words.length := by omega
    have h1 : i + 1 < words.length := by omega
    have hdrop : words.drop i = words[i] :: words[i + 1] :: words[i + 2] :: words.drop (i + 3) := by
      rw [List.drop_eq_getElem_cons h0, List.drop_eq_getElem_cons h1, List.drop_eq_getElem_cons h]
    rw [listOfWordsStrict, if_pos h, hdrop, listOfWords, List.getElem?_eq_getElem h0,
      List.getElem?_eq_getElem h1, List.getElem?_eq_getElem h]
    simp only [Strict.read_some_bind]
    cases Operator.ofText words[i + 1] with
    | error e => rfl
    | ok operator =>
      have hnext : (if (linkOf? (words.drop (i + 3))).isSome then (words.drop (i + 3)).drop 1
          else words.drop (i + 3)) =
          words.drop (if (linkOf? (words.drop (i + 3))).isSome then i + 4 else i + 3) := by
        split
        · exact List.drop_drop ..
        · rfl
      simp only [dite_eq_ite] at ih
      rw [Strict.settled_ok_bind, ih]
      dsimp only
      rw [hnext]
      cases listOfWords (words.drop _) <;> rfl
  | case2 i h =>
    have hshort : (words.drop i).length ≤ 2 := by rw [List.length_drop]; omega
    rw [listOfWordsStrict, if_neg h, listOfWords_short hshort]

end Condition

/-! ### Clauses -/

section
variable {p : List String → Bool} {words : List String}

/-- The first of `count` positions from `i` on that passes a test made of reads, or the one behind them. -/
def firstPosition (test : Nat → Option Bool) : Nat → Nat → Option Nat
  | 0, i => some i
  | count + 1, i => do
    if ← test i then return i else firstPosition test count (i + 1)

/-- The words up to where the rest of them has a property. -/
def wordsUntil (p : List String → Bool) : List String → List String
  | [] => []
  | word :: rest => if p (word :: rest) then [] else word :: wordsUntil p rest

theorem prefix_wordsUntil (p : List String → Bool) (words : List String) : wordsUntil p words <+: words := by
  induction words with
  | nil => exact List.prefix_refl []
  | cons word rest ih =>
    rw [wordsUntil]
    split
    · exact List.nil_prefix
    · exact (List.prefix_cons_inj word).mpr ih

theorem firstPosition_eq {test : Nat → Option Bool}
    (htest : ∀ i < words.length, test i = some (p (words.drop i))) {count i : Nat}
    (hi : i + count = words.length) :
    firstPosition test count i = some (i + (wordsUntil p (words.drop i)).length) := by
  induction count generalizing i with
  | zero =>
    rw [firstPosition, List.drop_of_length_le (by omega)]
    rfl
  | succ count ih =>
    have hlt : i < words.length := by omega
    rw [firstPosition, htest i hlt, List.drop_eq_getElem_cons hlt, wordsUntil]
    simp only [Option.bind_eq_bind, Option.bind_some]
    split
    · rfl
    · rw [ih (by omega), List.length_cons, Nat.add_assoc, Nat.add_comm 1]

/-- Where the first word from `i` on stands that passes a test, the words after it being looked at freely. -/
def positionOf (p : List String → Bool) (words : List String) (i : Nat) : Option Nat :=
  firstPosition (fun j => words[j]?.map fun word => p (word :: words.drop (j + 1))) (words.length - i) i

theorem positionOf_eq {i : Nat} (hi : i ≤ words.length) :
    positionOf p words i = some (i + (wordsUntil p (words.drop i)).length) := by
  refine firstPosition_eq (fun j hj => ?_) (by omega)
  rw [List.getElem?_eq_getElem hj, List.drop_eq_getElem_cons hj]
  rfl

theorem untilClause_eq (words : List String) : untilClause words = wordsUntil startsClause words := by
  induction words with
  | nil => rfl
  | cons word rest ih => rw [untilClause, wordsUntil, ih]

end

namespace SelectRows

/-- Adds the clauses from a position on, which must move forward at conditions. -/
def addClausesStrict (q : SelectRows) (words : List String) (position : Nat) : Strict SelectRows :=
  if h : position < words.length then
    if Keyword.where.isSpelled words[position] then do
      let stop ← read (positionOf startsClause words (position + 1))
      let part ← read (slice? words (position + 1) stop)
      let conditions ← Condition.listOfWordsStrict part 0
      if position < stop then (q.add (.conditions conditions)).addClausesStrict words stop
      else Strict.impossible
    else do
      let (clause, used) ← settled (Clause.ofWords words[position] (words.drop (position + 1)))
      (q.add clause).addClausesStrict words (position + 1 + used)
  else settled (.ok q)
termination_by words.length - position

theorem addClausesStrict_eq (q : SelectRows) (words : List String) (position : Nat) :
    q.addClausesStrict words position = settled (q.addClauses (words.drop position)) := by
  induction hn : words.length - position using Nat.strong_induction_on generalizing q position with
  | _ n ih =>
    rw [addClausesStrict]
    split
    · next hlt =>
      rw [List.drop_eq_getElem_cons hlt, addClauses]
      split
      · next hwhere =>
        have hword : Keyword.ofWord? words[position] = some .where := by
          simpa [Keyword.isSpelled] using hwhere
        rw [positionOf_eq hlt, Strict.read_some_bind, slice?_of_prefix hlt (prefix_wordsUntil _ _),
          Strict.read_some_bind, Condition.listOfWordsStrict_eq, List.drop_zero, Clause.ofWords, hword,
          untilClause_eq]
        dsimp only
        cases Condition.listOfWords (wordsUntil startsClause (words.drop (position + 1))) with
        | error e => rfl
        | ok conditions =>
          rw [Strict.settled_ok_bind, if_pos (by omega), ih _ (by omega) _ _ rfl, ← List.drop_drop]
          rfl
      · cases Clause.ofWords words[position] (words.drop (position + 1)) with
        | error e => rfl
        | ok result =>
          obtain ⟨clause, used⟩ := result
          rw [Strict.settled_ok_bind]
          dsimp only
          rw [ih _ (by omega) _ _ rfl, ← List.drop_drop]
    · next hend =>
      rw [List.drop_of_length_le (by omega), addClauses]

/-- A selection, its fields cut out before the word for the table. -/
def ofWordsStrict (words : List String) : Strict SelectRows :=
  match words.findIdx? Keyword.from.isSpelled with
  | some i =>
    if i < 2 then settled (.error (missing .noFields))
    else do
      let fields ← read (slice? words 1 i)
      match words[i + 1]? with
      | none => settled (.error (missing .selectFrom))
      | some table =>
        (ofFields table (commaList (" ".intercalate fields))).addClausesStrict words (i + 2)
  | none =>
    match words[1]? with
    | none => settled (.error (missing .select))
    | some table => (ofFields table ["*"]).addClausesStrict words 2

theorem ofWordsStrict_eq {verb : String} (hverb : Keyword.from.isSpelled verb = false) (rest : List String) :
    ofWordsStrict (verb :: rest) = settled (ofWords rest) := by
  unfold ofWordsStrict ofWords
  rw [List.findIdx?_cons, hverb]
  simp only [Bool.false_eq_true, if_false]
  cases hfrom : rest.findIdx? Keyword.from.isSpelled with
  | none =>
    cases rest with
    | nil => rfl
    | cons table rest => exact addClausesStrict_eq ..
  | some i =>
    cases i with
    | zero => rfl
    | succ i =>
      have hlt : i + 1 < rest.length := (List.findIdx?_eq_some_iff_getElem.mp hfrom).1
      have hfields : slice? (verb :: rest) 1 (i + 1 + 1) = some (rest.take (i + 1)) := by
        rw [slice?, if_pos ⟨by omega, by rw [List.length_cons]; omega⟩]
        rfl
      simp only [Option.map_some]
      rw [if_neg (by omega), hfields, Strict.read_some_bind, List.getElem?_cons_succ]
      cases hrest : rest[i + 1 + 1]? with
      | none => rw [List.drop_eq_nil_of_le (List.getElem?_eq_none_iff.mp hrest)]
      | some table =>
        obtain ⟨hlen, rfl⟩ := List.getElem?_eq_some_iff.mp hrest
        rw [List.drop_eq_getElem_cons hlen]
        exact addClausesStrict_eq ..

end SelectRows

/-! ### Commands -/

/-- A record is all that stands behind the name of the table. -/
def InsertRow.ofWordsStrict (words : List String) : Strict InsertRow :=
  match words[1]? with
  | none => settled (.error (missing .insert))
  | some table =>
    if words.length ≤ 2 then settled (.error (missing .insert))
    else do
      let pieces ← read (slice? words 2 words.length)
      return ⟨table, " ".intercalate pieces⟩

theorem InsertRow.ofWordsStrict_eq (verb : String) (rest : List String) :
    ofWordsStrict (verb :: rest) = settled (ofWords rest) := by
  match rest with
  | [] => rfl
  | [_] => rfl
  | table :: word :: rest =>
    have hlong : ¬(verb :: table :: word :: rest).length ≤ 2 := by simp
    have hpieces : slice? (verb :: table :: word :: rest) 2 (verb :: table :: word :: rest).length =
        some (word :: rest) := slice?_length (by simp)
    unfold ofWordsStrict
    simp only [List.getElem?_cons_succ, List.getElem?_cons_zero, if_neg hlong, hpieces, Strict.read_some_bind]
    rfl

namespace UpdateRows

/-- Assignments stand up to the word for conditions, and conditions behind it. -/
def ofWordsStrict (words : List String) : Strict UpdateRows :=
  if words.length < 4 then settled (.error (missing .update))
  else
    match words[1]?, words[2]? with
    | some table, some set =>
      if Keyword.set.isSpelled set then do
        let whereAt ← read (positionOf (nextIs .where) words 3)
        let assigned ← read (slice? words 3 whereAt)
        match (Text.split ',' (" ".intercalate assigned)).filterMap assignment? with
        | [] => settled (.error (missing .update))
        | assignments =>
          if whereAt < words.length then
            let part ← read (slice? words (whereAt + 1) words.length)
            let conditions ← Condition.listOfWordsStrict part 0
            return ⟨table, assignments, conditions⟩
          else return ⟨table, assignments, []⟩
      else settled (.error (missing .updateSet))
    | _, _ => settled (.error (missing .update))

theorem takeWhile_eq (words : List String) :
    words.takeWhile (!Keyword.where.isSpelled ·) = wordsUntil (nextIs .where) words := by
  induction words with
  | nil => rfl
  | cons word rest ih =>
    rw [List.takeWhile_cons, wordsUntil, ih, nextIs]
    cases Keyword.where.isSpelled word <;> rfl

theorem dropWhile_eq (words : List String) :
    words.dropWhile (!Keyword.where.isSpelled ·) = words.drop (wordsUntil (nextIs .where) words).length := by
  have h := List.takeWhile_append_dropWhile (p := (!Keyword.where.isSpelled ·)) (l := words)
  have hdrop := congrArg (List.drop (wordsUntil (nextIs .where) words).length) h
  rw [takeWhile_eq, List.drop_left] at hdrop
  exact hdrop

theorem ofWordsStrict_eq (verb : String) (rest : List String) :
    ofWordsStrict (verb :: rest) = settled (ofWords rest) := by
  match rest with
  | [] => rfl
  | [_] => rfl
  | [_, _] => rfl
  | table :: set :: word :: rest =>
    generalize hwords : verb :: table :: set :: word :: rest = words
    have hlong : 3 < words.length := by simp [← hwords]
    have hdrop : words.drop 3 = word :: rest := by simp [← hwords]
    have htable : words[1]? = some table := by simp [← hwords]
    have hset : words[2]? = some set := by simp [← hwords]
    have hprefix := prefix_wordsUntil (nextIs .where) (words.drop 3)
    unfold ofWordsStrict ofWords
    rw [if_neg (by omega), htable, hset]
    simp only [takeWhile_eq, dropWhile_eq, ← hdrop]
    split
    · rw [positionOf_eq (Nat.le_of_lt hlong), Strict.read_some_bind,
        slice?_of_prefix (Nat.le_of_lt hlong) hprefix, Strict.read_some_bind]
      cases (Text.split ',' (" ".intercalate (wordsUntil (nextIs .where) (words.drop 3)))).filterMap
          assignment? with
      | nil => rfl
      | cons assignment others =>
        dsimp only
        rw [List.drop_drop, List.drop_drop]
        split
        · next hlt =>
          rw [slice?_length hlt, Strict.read_some_bind, Condition.listOfWordsStrict_eq, List.drop_zero]
          cases Condition.listOfWords (words.drop _) <;> rfl
        · next hend =>
          rw [Condition.listOfWords_short (by rw [List.length_drop]; omega)]
          rfl
    · rfl

end UpdateRows

/-- Conditions stand behind the fourth word. -/
def DeleteRows.ofWordsStrict (words : List String) : Strict DeleteRows :=
  match words[1]?, words[2]? with
  | some first, some table =>
    if Keyword.from.isSpelled first then
      match words[3]? with
      | none => settled (.ok ⟨table, []⟩)
      | some word =>
        if Keyword.where.isSpelled word then do
          let part ← read (slice? words 4 words.length)
          let conditions ← Condition.listOfWordsStrict part 0
          return ⟨table, conditions⟩
        else settled (.error (missing .deleteWhere))
    else settled (.error (missing .delete))
  | _, _ => settled (.error (missing .delete))

theorem DeleteRows.ofWordsStrict_eq (verb : String) (rest : List String) :
    ofWordsStrict (verb :: rest) = settled (ofWords rest) := by
  match rest with
  | [] => rfl
  | [_] => rfl
  | [first, table] =>
    unfold ofWordsStrict ofWords
    simp only [List.getElem?_cons_succ, List.getElem?_cons_zero, List.getElem?_nil]
    split <;> rfl
  | first :: table :: word :: rest =>
    have hpart : slice? (verb :: first :: table :: word :: rest) 4
        (verb :: first :: table :: word :: rest).length = some rest := slice?_length (by simp)
    unfold ofWordsStrict ofWords
    simp only [List.getElem?_cons_succ, List.getElem?_cons_zero, hpart, Strict.read_some_bind,
      Condition.listOfWordsStrict_eq, List.drop_zero]
    split
    · split
      · cases Condition.listOfWords rest <;> rfl
      · rfl
    · rfl

/-- A command from the words of a query, positions counting from the word for the command. -/
def Command.ofWordsStrict : List String → Strict Command
  | [] => settled (.error (.syntaxFault .emptyQuery))
  | verb :: rest =>
    match (Keyword.ofWord? verb).filter (·.isVerb) with
    | none => settled (.error (.syntaxFault (.unknownCommand verb)))
    | some .create => create <$> CreateTable.ofWordsStrict rest
    | some .insert => insert <$> InsertRow.ofWordsStrict (verb :: rest)
    | some .select => select <$> SelectRows.ofWordsStrict (verb :: rest)
    | some .update => update <$> UpdateRows.ofWordsStrict (verb :: rest)
    | some .delete => delete <$> DeleteRows.ofWordsStrict (verb :: rest)
    | some _ => Strict.impossible

theorem Command.ofWordsStrict_eq (words : List String) : ofWordsStrict words = settled (ofWords words) := by
  cases words with
  | nil => rfl
  | cons verb rest =>
    unfold ofWordsStrict ofWords
    dsimp only
    cases hverb : Keyword.ofWord? verb with
    | none => rfl
    | some k =>
      cases k with
      | create =>
        rw [CreateTable.ofWordsStrict_eq, Strict.map_settled]
        rfl
      | insert =>
        rw [InsertRow.ofWordsStrict_eq, Strict.map_settled]
        rfl
      | select =>
        rw [SelectRows.ofWordsStrict_eq (Keyword.isSpelled_of_ofWord? hverb (by decide)), Strict.map_settled]
        rfl
      | update =>
        rw [UpdateRows.ofWordsStrict_eq, Strict.map_settled]
        rfl
      | delete =>
        rw [DeleteRows.ofWordsStrict_eq, Strict.map_settled]
        rfl
      | _ => rfl

/-- A command from the text of a query. -/
def Command.ofTextStrict (s : String) : Strict Command := do
  let words ← settled (queryWords s)
  ofWordsStrict words

/-- **Reading a query by position stays inside it**, and gives the command it spells. -/
theorem Command.ofTextStrict_eq (s : String) : ofTextStrict s = settled (ofText s) := by
  unfold ofTextStrict ofText
  cases queryWords s with
  | error e => rfl
  | ok words => exact ofWordsStrict_eq words

end Leuit
