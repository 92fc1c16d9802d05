import Leuit.Store.Basic
import Leuit.Store.Keyed

/-! A store in memory. Definitions and records are kept by database and table; a table that was never
provisioned has no records to read or to append to. -/
namespace Leuit

structure Memory where
  /-- Stored definitions by database and table. -/
  schemas : Keyed (String × String) String
  /-- Records by database and table. -/
  records : Keyed (String × String) (List String)

namespace Memory

def empty : Memory := ⟨.empty, .empty⟩

def snapshot (m : Memory) (database : String) : Snapshot where
  schema table := .ok (m.schemas.get? (database, table))
  records table :=
    match m.records.get? (database, table) with
    | some records => .ok records
    | none => .error (.notFound (.records table))

def edit (m : Memory) (database : String) : Edit → Except QueryError Unit × Memory
  | .define table document =>
    (.ok (), { m with schemas := m.schemas.insert (database, table) document })
  | .provision table =>
    match m.records.get? (database, table) with
    | some _ => (.ok (), m)
    | none => (.ok (), { m with records := m.records.insert (database, table) [] })
  | .append table record =>
    match m.records.get? (database, table) with
    | some records =>
      (.ok (), { m with records := m.records.insert (database, table) (records ++ [record]) })
    | none => (.error (.notFound (.records table)), m)
  | .replace table records =>
    (.ok (), { m with records := m.records.insert (database, table) records })

def tables (m : Memory) (database : String) : List String :=
  (NameSet.ofList ((m.schemas.keys.filter (·.1 = database)).map (·.2))).names

instance : Storage Memory where
  snapshot := snapshot
  edit := edit
  tables m database := .ok (m.tables database)

end Memory

end Leuit
