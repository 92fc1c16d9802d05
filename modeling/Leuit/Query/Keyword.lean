import Leuit.Text.Case

/-! The keywords of the query language. Each keyword has several spellings, in Sundanese and in
English, and every spelling is accepted in any letter case. -/
namespace Leuit

inductive Keyword where
  | create | insert | select | update | delete
  | from | where | set | order | by | limit | offset
  | asc | desc
  | join | on | left | right | inner | full
  | and | or
deriving DecidableEq, Repr

namespace Keyword

/-- Every spelling, in upper case, with the keyword it stands for. -/
def table : List (String × Keyword) := [
  ("DAMEL", .create), ("BIKIN", .create), ("NYIEUN", .create), ("SCHEMA", .create),
  ("LAHAN", .create), ("CREATE", .create),
  ("SIMPEN", .insert), ("TENDEUN", .insert), ("INSERT", .insert),
  ("TINGALI", .select), ("TENJO", .select), ("SELECT", .select),
  ("OMEAN", .update), ("ROBIH", .update), ("UPDATE", .update),
  ("MICEUN", .delete), ("PICEUN", .delete), ("DELETE", .delete),
  ("TI", .from), ("FROM", .from),
  ("DIMANA", .where), ("WHERE", .where),
  ("JADI", .set), ("JANTEN", .set), ("SET", .set),
  ("RUNTUYKEUN", .order), ("ORDER", .order), ("BY", .by),
  ("SAKADAR", .limit), ("LIMIT", .limit), ("LIWATAN", .offset), ("OFFSET", .offset),
  ("TI_HANDAP", .asc), ("NAEK", .asc), ("ASC", .asc),
  ("TI_LUHUR", .desc), ("TURUN", .desc), ("DESC", .desc),
  ("GABUNG", .join), ("JOIN", .join), ("DINA", .on), ("ON", .on),
  ("KENCA", .left), ("LEFT", .left), ("KATUHU", .right), ("RIGHT", .right),
  ("INNER", .inner), ("FULL", .full),
  ("SARENG", .and), ("AND", .and), ("ATAWA", .or), ("OR", .or)]

def ofWord? (word : String) : Option Keyword := table.lookup (Text.upper word)

def spellings (k : Keyword) : List String := (table.filter (·.2 = k)).map (·.1)

def allSpellings : List String := table.map (·.1)

/-- Keywords that start a statement. -/
def isVerb : Keyword → Bool
  | create | insert | select | update | delete => true
  | _ => false

/-- Keywords that stand before a join. -/
def isJoinKind : Keyword → Bool
  | left | right | inner | full => true
  | _ => false

/-- Whether the word spells the keyword. -/
def isSpelled (k : Keyword) (word : String) : Bool := ofWord? word = some k

end Keyword

end Leuit
