import Leuit.Query.Command

/-! Reading commands from query text. A query is a row of words, of which the first says what to do;
quotes do not hold words together. The clauses of a selection may come in any order, a later one
replaces an earlier one of its kind, and words that start no clause are passed over. -/
namespace Leuit

/-- The words of a query, less the semicolon that may end it. -/
def queryWords (s : String) : Except QueryError (List String) :=
  let trimmed := (Text.trim s).toList
  let body := if trimmed.getLast? = some ';' then trimmed.dropLast else trimmed
  match Text.words (String.ofList body) with
  | [] => .error (.syntaxFault .emptyQuery)
  | words => .ok words

/-- The parts of a text between commas, trimmed, without the empty ones. -/
def commaList (s : String) : List String := ((Text.split ',' s).map Text.trim).filter (· ≠ "")

def missing (form : Form) : QueryError := .syntaxFault (.form form)

/-! ### Creating and inserting -/

/-- What follows a flag such as `--read=`, if the word starts with it in any letter case. -/
def flagValue? (flag word : String) : Option String :=
  let (start, rest) := word.toList.splitAt flag.length
  if start.map Char.toLower = flag.toList then some (String.ofList rest) else none

/-- Words that grant an action to roles: the flag decides, and of several flags the last. -/
def flagRoles? (flag : String) (words : List String) : Option NameSet :=
  (words.filterMap (flagValue? flag)).getLast?.map fun roles => NameSet.ofList (commaList roles)

def readFlag : String := "--read="

def writeFlag : String := "--write="

def isFlag (word : String) : Bool :=
  (flagValue? readFlag word).isSome || (flagValue? writeFlag word).isSome

/-- The permissions that flags give: those of an action without flag stay as they are by default. -/
def flagPermissions (words : List String) : Option Permissions :=
  let standard := Permissions.standard
  match flagRoles? readFlag words, flagRoles? writeFlag words with
  | none, none => none
  | some readers, none => some (standard.set .read readers)
  | none, some writers => some (standard.set .write writers)
  | some readers, some writers => some ((standard.set .read readers).set .write writers)

def CreateTable.ofWords (words : List String) : Except QueryError CreateTable :=
  let words := match words with
    | word :: rest => if Keyword.create.isSpelled word then rest else words
    | [] => []
  match words with
  | [] => .error (missing .create)
  | table :: rest =>
    match rest.filter (!isFlag ·) with
    | [] => .error (missing .create)
    | columns => .ok ⟨table, String.join columns, flagPermissions rest⟩

def InsertRow.ofWords : List String → Except QueryError InsertRow
  | table :: word :: rest => .ok ⟨table, " ".intercalate (word :: rest)⟩
  | _ => .error (missing .insert)

/-! ### Selecting -/

inductive Clause where
  | conditions (conditions : List Condition)
  | sorting (sorting : Sorting)
  | limit (count : Nat)
  | offset (count : Nat)
  | join (join : Join)
  /-- A word that starts no clause. -/
  | nothing
deriving DecidableEq, Repr

def SelectRows.add (q : SelectRows) : Clause → SelectRows
  | .conditions conditions => { q with conditions }
  | .sorting sorting => { q with sorting := some sorting }
  | .limit count => { q with limit := some count }
  | .offset count => { q with offset := count }
  | .join join => { q with joins := q.joins ++ [join] }
  | .nothing => q

/-- Whether the next word is a spelling of the keyword. -/
def nextIs (k : Keyword) : List String → Bool
  | [] => false
  | word :: _ => k.isSpelled word

/-- Whether a clause that ends a chain of conditions starts here. -/
def startsClause : List String → Bool
  | [] => false
  | word :: rest =>
    match Keyword.ofWord? word with
    | some .order | some .limit | some .offset | some .join => true
    | some k => k.isJoinKind && nextIs .join rest
    | none => false

/-- The words before the next clause. -/
def untilClause : List String → List String
  | [] => []
  | word :: rest => if startsClause (word :: rest) then [] else word :: untilClause rest

/-- A number of rows. -/
def readCount (clause : Paging) : List String → Except QueryError Nat
  | [] => .error (.syntaxFault (.countMissing clause))
  | word :: _ =>
    match Decimal.count? word with
    | some n => .ok n
    | none => .error (.syntaxFault (.notACount clause word))

/-- What follows the word for a join: a table and a condition. -/
def Join.ofWords (kind : JoinKind) : List String → Except QueryError Join
  | table :: on :: field :: symbol :: rest =>
    if Keyword.on.isSpelled on then
      match Operator.ofText symbol, rest with
      | .error e, _ => .error e
      | .ok _, [] => .error (missing .join)
      | .ok operator, value :: _ => .ok ⟨kind, table, ⟨field, operator, Text.stripQuotes value, none⟩⟩
    else .error (missing .join)
  | _ => .error (missing .join)

/-- How many words a join takes after the word for it. -/
def Join.wordCount : Nat := 5

/-- What follows the word for sorting, and how many words it takes. -/
def Sorting.ofWords (words : List String) : Except QueryError (Sorting × Nat) :=
  let skipped := if nextIs .by words then 1 else 0
  match words.drop skipped with
  | [] => .error (missing .orderBy)
  | column :: rest =>
    if nextIs .desc rest then .ok (⟨column, true⟩, skipped + 2)
    else if nextIs .asc rest then .ok (⟨column, false⟩, skipped + 2)
    else .ok (⟨column, false⟩, skipped + 1)

def JoinKind.ofKeyword : Keyword → JoinKind
  | .left => .left
  | .right => .right
  | .full => .full
  | _ => .inner

/-- The clause that a word starts, and how many of the words after it belong to it. -/
def Clause.ofWords (word : String) (rest : List String) : Except QueryError (Clause × Nat) :=
  match Keyword.ofWord? word with
  | some .where =>
    (Condition.listOfWords (untilClause rest)).map fun cs => (.conditions cs, (untilClause rest).length)
  | some .order => (Sorting.ofWords rest).map fun (order, used) => (.sorting order, used)
  | some .limit => (readCount .limit rest).map fun n => (.limit n, 1)
  | some .offset => (readCount .offset rest).map fun n => (.offset n, 1)
  | some .join => (Join.ofWords .inner rest).map fun j => (.join j, Join.wordCount)
  | some k =>
    if k.isJoinKind && nextIs .join rest then
      (Join.ofWords (.ofKeyword k) (rest.drop 1)).map fun j => (.join j, Join.wordCount + 1)
    else .ok (.nothing, 0)
  | none => .ok (.nothing, 0)

/-- Adds the clauses that the words spell to a selection. -/
def SelectRows.addClauses (q : SelectRows) : List String → Except QueryError SelectRows
  | [] => .ok q
  | word :: rest =>
    match Clause.ofWords word rest with
    | .error e => .error e
    | .ok (clause, used) => (q.add clause).addClauses (rest.drop used)
termination_by words => words.length
decreasing_by simp only [List.length_cons, List.length_drop]; omega

/-- Fields stand before the word for the table; without that word all columns are selected. -/
def SelectRows.ofWords (words : List String) : Except QueryError SelectRows :=
  match words.findIdx? Keyword.from.isSpelled with
  | some 0 => .error (missing .noFields)
  | some i =>
    match words.drop (i + 1) with
    | [] => .error (missing .selectFrom)
    | table :: rest =>
      (SelectRows.ofFields table (commaList (" ".intercalate (words.take i)))).addClauses rest
  | none =>
    match words with
    | [] => .error (missing .select)
    | table :: rest => (SelectRows.ofFields table ["*"]).addClauses rest

/-! ### Updating and deleting -/

/-- Reads `column=field`; a column without name is none. -/
def assignment? (s : String) : Option (String × String) :=
  match Text.cut? '=' s with
  | some (column, field) =>
    if Text.trim column ≠ "" then some (Text.trim column, Text.stripQuotes (Text.trim field)) else none
  | none => none

def UpdateRows.ofWords (words : List String) : Except QueryError UpdateRows :=
  match words with
  | table :: set :: word :: rest =>
    if Keyword.set.isSpelled set then
      let isWhere := Keyword.where.isSpelled
      let assigned := " ".intercalate ((word :: rest).takeWhile (!isWhere ·))
      match (Text.split ',' assigned).filterMap assignment? with
      | [] => .error (missing .update)
      | assignments =>
        (Condition.listOfWords (((word :: rest).dropWhile (!isWhere ·)).drop 1)).map
          fun conditions => ⟨table, assignments, conditions⟩
    else .error (missing .updateSet)
  | _ => .error (missing .update)

def DeleteRows.ofWords : List String → Except QueryError DeleteRows
  | first :: table :: rest =>
    if Keyword.from.isSpelled first then
      match rest with
      | [] => .ok ⟨table, []⟩
      | word :: conditions =>
        if Keyword.where.isSpelled word then
          (Condition.listOfWords conditions).map fun conditions => ⟨table, conditions⟩
        else .error (missing .deleteWhere)
    else .error (missing .delete)
  | _ => .error (missing .delete)

/-! ### Commands -/

def Command.ofWords : List String → Except QueryError Command
  | [] => .error (.syntaxFault .emptyQuery)
  | verb :: rest =>
    match Keyword.ofWord? verb with
    | some .create => (CreateTable.ofWords rest).map create
    | some .insert => (InsertRow.ofWords rest).map insert
    | some .select => (SelectRows.ofWords rest).map select
    | some .update => (UpdateRows.ofWords rest).map update
    | some .delete => (DeleteRows.ofWords rest).map delete
    | _ => .error (.syntaxFault (.unknownCommand verb))

/-- The command that a query text spells. -/
def Command.ofText (s : String) : Except QueryError Command :=
  match queryWords s with
  | .error e => .error e
  | .ok words => ofWords words

end Leuit
