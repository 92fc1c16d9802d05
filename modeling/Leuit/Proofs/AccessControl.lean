import Leuit.Proofs.Footprints

/-! Permissions hold on every path. A table that a role may not write is opened for writing by none of its
commands and is not created anew, so no run of that role edits it (`executeAll_keeps_shut`). A selection
opens each of its tables before it looks at the records (`readTable_of_alike`), so its answer, be it rows
or a fault, says nothing about the records of tables that the role may not read. -/
namespace Leuit
open Outcome

/-! ### Stores seen by a role -/

namespace Memory
variable {m m' : Memory} {role database table : String} {action : Action} {key : String × String}

/-- No definition is stored for a table that lets the role perform the action. -/
def Denies (m : Memory) (role : String) (action : Action) (key : String × String) : Prop :=
  ∀ document d, m.schemas.get? key = some document → Definition.decode key.2 document = .ok d →
    d.permissions.allows role action = false

instance : Decidable (m.Denies role action key) :=
  match hs : m.schemas.get? key with
  | none => .isTrue fun document d hdocument => by
      rw [hs] at hdocument
      cases hdocument
  | some document =>
    match hd : Definition.decode key.2 document with
    | .error fault => .isTrue fun document' d hdocument hdecode => by
        rw [hs] at hdocument
        cases hdocument
        rw [hd] at hdecode
        cases hdecode
    | .ok d => decidable_of_iff (d.permissions.allows role action = false)
        ⟨fun h document' d' hdocument hdecode => by
          rw [hs] at hdocument
          cases hdocument
          rw [hd] at hdecode
          cases hdecode
          exact h, fun h => h document d hs hd⟩

/-- A table that has a definition, but none that lets the role write. -/
structure Shut (m : Memory) (role : String) (key : String × String) : Prop where
  defined : m.schemas.get? key ≠ none
  denied : m.Denies role .write key

/-- Two stores that differ at most in the records of tables that the role may not read. -/
structure AlikeFor (role : String) (m m' : Memory) : Prop where
  schemas : ∀ key, m.schemas.get? key = m'.schemas.get? key
  records : ∀ key, m.records.get? key = m'.records.get? key ∨ m.Denies role .read key

/-- What can be opened is not denied. -/
theorem not_denies_of_open {d : Definition}
    (h : (Storage.snapshot m database).open table role action = .ok d) :
    ¬m.Denies role action (database, table) := by
  intro hdenies
  obtain ⟨hload, hallows⟩ := Snapshot.open_eq_ok.mp h
  obtain ⟨document, hschema, hdecode⟩ := Snapshot.load_eq_ok.mp hload
  rw [snapshot_schema] at hschema
  rw [hdenies document d (Except.ok.inj hschema) hdecode] at hallows
  cases hallows

theorem Shut.of_stored (h : m.Shut role key) (hstored : m'.stored key = m.stored key) :
    m'.Shut role key := by
  have hschema : m'.schemas.get? key = m.schemas.get? key := (Prod.mk.inj hstored).1
  refine ⟨hschema ▸ h.defined, fun document d hdocument => ?_⟩
  rw [hschema] at hdocument
  exact h.denied document d hdocument

/-! ### Writing -/

/-- No plan of a role edits a table that is shut for it. -/
theorem commit_keeps_shut {caller : Caller} {command : Command} {plan : Plan}
    (h : m.Shut caller.role key)
    (hplan : command.planned (Storage.snapshot m caller.database) caller = .ok plan) :
    (Storage.commit m caller.database plan.edits).2.stored key = m.stored key := by
  by_contra hchanged
  obtain ⟨rfl, -, hnone | ⟨d, hopen⟩⟩ := plan_changes hplan hchanged
  · rw [snapshot_schema] at hnone
    exact h.defined (Except.ok.inj hnone)
  · exact not_denies_of_open hopen h.denied

end Memory

namespace Engine
variable {e e' : Engine Memory} {role : String} {key : String × String}

theorem execute_keeps_shut {caller : Caller} (h : e.store.Shut caller.role key) (text : String) :
    (e.execute caller text).2.store.stored key = e.store.stored key := by
  obtain hstore | ⟨command, plan, hplan, hstore⟩ := e.execute_store caller text
  · rw [hstore]
  · rw [hstore]
    exact Memory.commit_keeps_shut h hplan

theorem executeAll_keeps_shut (h : e.store.Shut role key) {inputs : List (Caller × String)}
    (hrole : ∀ input ∈ inputs, input.1.role = role) :
    (e.executeAll inputs).store.stored key = e.store.stored key := by
  induction inputs generalizing e with
  | nil => rfl
  | cons input rest ih =>
    have hstep : (e.execute input.1 input.2).2.store.stored key = e.store.stored key :=
      execute_keeps_shut (by rwa [hrole input List.mem_cons_self]) input.2
    rw [executeAll_cons, ih (h.of_stored hstep) fun i hi => hrole i (List.mem_cons_of_mem input hi), hstep]

/-! ### Reading -/

theorem readTable_of_alike {m m' : Memory} (h : m.AlikeFor role m') (database table : String) :
    SelectRows.readTable (Storage.snapshot m database) role table =
      SelectRows.readTable (Storage.snapshot m' database) role table := by
  have hopen : (Storage.snapshot m database).open table role .read =
      (Storage.snapshot m' database).open table role .read :=
    Snapshot.open_congr (by rw [Memory.snapshot_schema, Memory.snapshot_schema, h.schemas]) .read
  unfold SelectRows.readTable
  cases hd : (Storage.snapshot m database).open table role .read with
  | error fault => rw [← hopen, hd]
  | ok d =>
    rw [← hopen, hd]
    have hrecords : m.records.get? (database, table) = m'.records.get? (database, table) :=
      (h.records (database, table)).resolve_right (Memory.not_denies_of_open hd)
    simp only [Memory.snapshot_records_congr hrecords]

/-- The answer of a selection is that of its plan. -/
theorem run_select_answer {σ : Type} [Storage σ] (e : Engine σ) (caller : Caller) (q : SelectRows) :
    (e.run caller (.select q)).1 =
      ((Command.select q).planned (Storage.snapshot e.store caller.database) caller).map (·.answer) := by
  cases hp : (Command.select q).planned (Storage.snapshot e.store caller.database) caller with
  | error fault => exact (run_of_refused hp).1
  | ok plan =>
    rw [(run_of_planned hp).1]
    obtain ⟨d, records, rows, joined, result, -, -, -, -, -, rfl⟩ := Command.planned_select.mp hp
    rfl

theorem execute_select_of_alike {caller : Caller} (h : e.store.AlikeFor caller.role e'.store) {text : String}
    {q : SelectRows} (hq : Command.ofText text = .ok (.select q)) :
    (e.execute caller text).1 = (e'.execute caller text).1 := by
  rw [execute_of_ofText hq, execute_of_ofText hq, run_select_answer, run_select_answer,
    Command.planned_select_congr]
  · exact readTable_of_alike h caller.database q.table
  · exact fun j _ => readTable_of_alike h caller.database j.table

/-! ### Both -/

/-- **Permissions are enforced on every path.** Whatever queries a role runs, in whatever databases, a
table that has a definition but none that lets it write keeps definition and records; and a selection
gives the role the same answer on stores that differ only in records it may not read. -/
theorem permissions_enforced (role : String) :
    (∀ (e : Engine Memory) (key : String × String) (inputs : List (Caller × String)),
        e.store.Shut role key → (∀ input ∈ inputs, input.1.role = role) →
        (e.executeAll inputs).store.stored key = e.store.stored key) ∧
      ∀ (e e' : Engine Memory) (caller : Caller) (text : String) (q : SelectRows),
        e.store.AlikeFor role e'.store → caller.role = role → Command.ofText text = .ok (.select q) →
        (e.execute caller text).1 = (e'.execute caller text).1 := by
  refine ⟨fun e key inputs h hrole => executeAll_keeps_shut h hrole, ?_⟩
  rintro e e' caller text q h rfl hq
  exact execute_select_of_alike h hq

/-- A table that guests may read, and one of salaries that they may neither read nor write. -/
def payroll (salaries : List String) : Memory where
  schemas := ⟨[(("kantor", "umum"), "a:INT\ntamu=read\n"),
    (("kantor", "gaji"), "a:INT\nadmin=read,write\n")]⟩
  records := Keyed.insert ⟨[(("kantor", "umum"), ["1", "2"])]⟩ ("kantor", "gaji") salaries

theorem permissions_enforced_payroll :
    let guest : Caller := ⟨"asep", "tamu", "kantor"⟩
    let attempts :=
      ["MICEUN TI gaji", "SIMPEN gaji 9", "DAMEL gaji a:INT --write=tamu", "OMEAN gaji JADI a=9"]
    let join := "TINGALI a TI umum GABUNG gaji DINA umum.a = gaji.a"
    ((ofStore (payroll ["1"])).executeAll (attempts.map (guest, ·))).store.stored ("kantor", "gaji") =
        (some "a:INT\nadmin=read,write\n", some ["1"]) ∧
      ((ofStore (payroll ["1"])).execute guest join).1 =
        ((ofStore (payroll ["7", "x"])).execute guest join).1 := by
  intro guest attempts join
  have hshut : (payroll ["1"]).Shut "tamu" ("kantor", "gaji") := ⟨by decide, by decide +kernel⟩
  have halike : (payroll ["1"]).AlikeFor "tamu" (payroll ["7", "x"]) := by
    refine ⟨fun key => rfl, fun key => ?_⟩
    by_cases hkey : key = ("kantor", "gaji")
    · right
      rw [hkey]
      decide +kernel
    · left
      simp only [payroll, Keyed.get?_insert, if_neg hkey]
  have hselect : ∃ q, Command.ofText join = .ok (.select q) := by
    let j : Join := ⟨.inner, "gaji", ⟨"umum.a", .eq, "gaji.a", none⟩⟩
    exact ⟨{ SelectRows.ofFields "umum" ["a"] with joins := [j] }, by decide +kernel⟩
  obtain ⟨q, hq⟩ := hselect
  obtain ⟨hwrite, hread⟩ := permissions_enforced "tamu"
  refine ⟨?_, hread _ _ guest join q halike rfl hq⟩
  rw [hwrite (ofStore (payroll ["1"])) ("kantor", "gaji") _ hshut]
  · rfl
  · intro input hinput
    obtain ⟨text, -, rfl⟩ := List.mem_map.mp hinput
    rfl

end Engine

end Leuit
