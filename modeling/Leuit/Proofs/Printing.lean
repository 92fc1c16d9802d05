import Leuit.Proofs.Spellings

/-! How commands are printed. A command can be written (`Command.Writable`) if its names are words that
spell no keyword and its literals can stand in quotes. It is printed as a row of pieces
(`Command.Prints`): keywords and operators in any of their spellings, words that may be left out or not,
the clauses of a selection in any order that keeps that of the joins. -/
namespace Leuit

/-! ### What can be written -/

structure Condition.Writable (c : Condition) : Prop where
  field : Identifier c.field
  literal : Literal c.literal

/-- A join has one condition, which no other follows. -/
structure Join.Writable (j : Join) : Prop where
  table : Identifier j.table
  condition : j.condition.Writable
  unlinked : j.condition.link = none

/-- The columns are one word, which is not taken for a flag. -/
structure CreateTable.Writable (q : CreateTable) : Prop where
  table : Identifier q.table
  columns : Text.Word q.columns
  unflagged : isFlag q.columns = false
  roles : ∀ p ∈ q.permissions, ∀ action, ∀ role ∈ (p.roles action).names, Identifier role

/-- The words of a record have single spaces between them. -/
structure InsertRow.Writable (q : InsertRow) : Prop where
  table : Identifier q.table
  nonempty : q.record ≠ ""
  spaced : " ".intercalate (Text.words q.record) = q.record

/-- Without fields there would be no word before that for the table. -/
structure SelectRows.Writable (q : SelectRows) : Prop where
  table : Identifier q.table
  nonempty : q.fields ≠ []
  fields : ∀ field ∈ q.fields, Identifier field
  joins : ∀ j ∈ q.joins, j.Writable
  conditions : ∀ c ∈ q.conditions, c.Writable
  sorting : ∀ sorting ∈ q.sorting, Identifier sorting.column
  limit : ∀ n ∈ q.limit, n < Decimal.countBound
  offset : q.offset < Decimal.countBound

/-- An equals sign or a comma would end a column or a literal that is assigned to it. -/
structure Assignable (pair : String × String) : Prop where
  column : Identifier pair.1
  single : '=' ∉ pair.1.toList
  literal : Literal pair.2
  unmarked : ',' ∉ pair.2.toList

structure UpdateRows.Writable (q : UpdateRows) : Prop where
  table : Identifier q.table
  nonempty : q.assignments ≠ []
  assignments : ∀ pair ∈ q.assignments, Assignable pair
  conditions : ∀ c ∈ q.conditions, c.Writable

structure DeleteRows.Writable (q : DeleteRows) : Prop where
  table : Identifier q.table
  conditions : ∀ c ∈ q.conditions, c.Writable

def Command.Writable : Command → Prop
  | create q => q.Writable
  | insert q => q.Writable
  | select q => q.Writable
  | update q => q.Writable
  | delete q => q.Writable

/-! ### Printing -/

def Connective.keyword : Connective → Keyword
  | and => .and
  | or => .or

def JoinKind.keyword : JoinKind → Keyword
  | inner => .inner
  | left => .left
  | right => .right
  | full => .full

/-- A word for a keyword may stand here. -/
inductive Keyword.Optional (k : Keyword) : List String → Prop where
  | absent : k.Optional []
  | present {word : String} (hword : k.SpelledAs word) : k.Optional [word]

/-- The word between two conditions. -/
inductive Connective.Prints : Option Connective → List String → Prop where
  | none : Prints none []
  | some {connective : Connective} {word : String} (hword : connective.keyword.SpelledAs word) :
      Prints (some connective) [word]

/-- A chain of conditions, each a field, an operator and a literal in quotes. -/
inductive Condition.Prints : List Condition → List String → Prop where
  | nil : Prints [] []
  | cons {c : Condition} {rest : List Condition} {symbol : String} {link words : List String}
      (hsymbol : c.operator.SpelledAs symbol) (hlink : Connective.Prints c.link link)
      (hrest : Prints rest words) :
      Prints (c :: rest) (c.field :: symbol :: Text.quoted c.literal :: (link ++ words))

/-- The word that may stand before a join, which must unless the join is an inner one. -/
inductive JoinKind.Prints : JoinKind → List String → Prop where
  | plain : Prints .inner []
  | named {kind : JoinKind} {word : String} (hword : kind.keyword.SpelledAs word) : Prints kind [word]

/-- The words of a clause. -/
inductive Clause.Prints : Clause → List String → Prop where
  | conditions {conditions : List Condition} {word : String} {words : List String}
      (hword : Keyword.where.SpelledAs word) (hwords : Condition.Prints conditions words) :
      Prints (.conditions conditions) (word :: words)
  | ascending {column word : String} {between after : List String} (hword : Keyword.order.SpelledAs word)
      (hbetween : Keyword.by.Optional between) (hafter : Keyword.asc.Optional after) :
      Prints (.sorting ⟨column, false⟩) (word :: (between ++ column :: after))
  | descending {column word direction : String} {between : List String} (hword : Keyword.order.SpelledAs word)
      (hbetween : Keyword.by.Optional between) (hdirection : Keyword.desc.SpelledAs direction) :
      Prints (.sorting ⟨column, true⟩) (word :: (between ++ [column, direction]))
  | limit {n : Nat} {word : String} (hword : Keyword.limit.SpelledAs word) :
      Prints (.limit n) [word, toString n]
  | offset {n : Nat} {word : String} (hword : Keyword.offset.SpelledAs word) :
      Prints (.offset n) [word, toString n]
  | join {j : Join} {word on symbol : String} {kind : List String} (hkind : j.kind.Prints kind)
      (hword : Keyword.join.SpelledAs word) (hon : Keyword.on.SpelledAs on)
      (hsymbol : j.condition.operator.SpelledAs symbol) :
      Prints (.join j)
        (kind ++ [word, j.table, on, j.condition.field, symbol, Text.quoted j.condition.literal])

/-- The words of clauses, one clause after the other. -/
inductive Clause.PrintsAll : List Clause → List String → Prop where
  | nil : PrintsAll [] []
  | cons {clause : Clause} {rest : List Clause} {own words : List String} (hclause : clause.Prints own)
      (hrest : PrintsAll rest words) : PrintsAll (clause :: rest) (own ++ words)

namespace SelectRows

/-- The clauses that a selection needs. -/
def clauses (q : SelectRows) : List Clause :=
  q.joins.map .join ++ (if q.conditions = [] then [] else [.conditions q.conditions]) ++
    q.sorting.toList.map .sorting ++ q.limit.toList.map .limit ++
    (if q.offset = 0 then [] else [.offset q.offset])

end SelectRows

def Clause.join? : Clause → Option Join
  | join j => some j
  | _ => none

/-- The clauses of a selection in an order that keeps that of the joins. -/
structure SelectRows.Arranged (q : SelectRows) (clauses : List Clause) : Prop where
  perm : clauses.Perm q.clauses
  joins : clauses.filterMap Clause.join? = q.joins

/-- Fields and the word for the table may be left out if all columns are selected. -/
inductive SelectRows.Prints (q : SelectRows) : List String → Prop where
  | fields {word : String} {clauses : List Clause} {words : List String} (hword : Keyword.from.SpelledAs word)
      (harranged : q.Arranged clauses) (hwords : Clause.PrintsAll clauses words) :
      q.Prints (",".intercalate q.fields :: word :: q.table :: words)
  | all {clauses : List Clause} {words : List String} (hall : q.fields = ["*"])
      (harranged : q.Arranged clauses) (hwords : Clause.PrintsAll clauses words) :
      q.Prints (q.table :: words)

/-- The conditions at the end of a command. -/
inductive Condition.PrintsEnd : List Condition → List String → Prop where
  | absent : PrintsEnd [] []
  | present {conditions : List Condition} {word : String} {words : List String}
      (hword : Keyword.where.SpelledAs word) (hwords : Condition.Prints conditions words) :
      PrintsEnd conditions (word :: words)

/-- A flag with its roles. -/
def printedFlag (p : Permissions) (action : Action) : String :=
  action.flag ++ ",".intercalate (p.roles action).names

/-- The flags of explicit permissions. -/
def CreateTable.flags (q : CreateTable) : List String :=
  q.permissions.toList.flatMap fun p => Action.all.map (printedFlag p)

def printedAssignment (pair : String × String) : String := pair.1 ++ "=" ++ Text.quoted pair.2

/-- The pieces of a command. A record is one piece, though it may be of several words. -/
inductive Command.Prints : Command → List String → Prop where
  | create {q : CreateTable} {verb : String} (hverb : Keyword.create.SpelledAs verb) :
      Prints (.create q) (verb :: q.table :: q.columns :: q.flags)
  | insert {q : InsertRow} {verb : String} (hverb : Keyword.insert.SpelledAs verb) :
      Prints (.insert q) [verb, q.table, q.record]
  | select {q : SelectRows} {verb : String} {words : List String} (hverb : Keyword.select.SpelledAs verb)
      (hwords : q.Prints words) : Prints (.select q) (verb :: words)
  | update {q : UpdateRows} {verb set : String} {words : List String} (hverb : Keyword.update.SpelledAs verb)
      (hset : Keyword.set.SpelledAs set) (hwords : Condition.PrintsEnd q.conditions words) :
      Prints (.update q)
        (verb :: q.table :: set :: ",".intercalate (q.assignments.map printedAssignment) :: words)
  | delete {q : DeleteRows} {verb word : String} {words : List String} (hverb : Keyword.delete.SpelledAs verb)
      (hword : Keyword.from.SpelledAs word) (hwords : Condition.PrintsEnd q.conditions words) :
      Prints (.delete q) (verb :: word :: q.table :: words)

end Leuit
