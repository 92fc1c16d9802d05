import Leuit.Schema.Definition

/-! What commands see of a store, and what they do to it. A `Snapshot` answers the two questions a
command may ask about a table of one database; an `Edit` is one change of a table. A store is anything
that gives snapshots and takes edits. -/
namespace Leuit

/-- One database of a store, for reading. -/
structure Snapshot where
  /-- The stored definition of a table, if it has one. -/
  schema : String → Except QueryError (Option String)
  /-- The stored records of a table. -/
  records : String → Except QueryError (List String)

inductive Edit where
  /-- Stores the definition of a table in place of any other. -/
  | define (table document : String)
  /-- Makes room for the records of a table, and keeps those there are. -/
  | provision (table : String)
  | append (table record : String)
  /-- Replaces all records of a table. -/
  | replace (table : String) (records : List String)
deriving DecidableEq, Repr

/-- The table an edit changes. -/
def Edit.table : Edit → String
  | define table _ => table
  | provision table => table
  | append table _ => table
  | replace table _ => table

class Storage (σ : Type) where
  /-- The named database. -/
  snapshot : σ → String → Snapshot
  /-- An edit in the named database: whether it succeeds, and the store after it. -/
  edit : σ → String → Edit → Except QueryError Unit × σ
  /-- The tables of the named database that have a definition, in order. -/
  tables : σ → String → Except QueryError (List String)

/-- Performs edits in order, up to the first that fails. -/
def Storage.commit {σ : Type} [Storage σ] (store : σ) (database : String) :
    List Edit → Except QueryError Unit × σ
  | [] => (.ok (), store)
  | e :: rest =>
    match Storage.edit store database e with
    | (.ok (), after) => commit after database rest
    | (.error fault, after) => (.error fault, after)

namespace Snapshot

/-- The definition of a table. -/
def load (view : Snapshot) (table : String) : Except QueryError Definition :=
  match view.schema table with
  | .error e => .error e
  | .ok none => .error (.notFound (.table table))
  | .ok (some document) => Definition.decode table document

end Snapshot

end Leuit
