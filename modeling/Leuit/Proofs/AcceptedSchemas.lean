import Leuit.Proofs.Definitions
import Leuit.Store.Keyed

/-! What is known of every text that is read as a schema. A column has a name, and each of its parts is free of
what separates it from the next (`Column.Accepted`); a list of columns has one at least, and no two of the same
name. Grants are read into a table that lists only actions that have roles (`RoleTable`). Line by line it lists
the same roles as the permissions that are read (`RoleTable.Lists`), so an action is either missing there or has
roles, all of them trimmed and without equals sign (`Definition.Accepted`, `accepted_schemas`). -/
namespace Leuit

/-! ### Columns -/

namespace Column
variable {c : Column}

/-- A column whose parts are those of a descriptor. -/
structure Accepted (c : Column) : Prop where
  name : c.name ≠ "" ∧ ∀ x ∈ c.name.toList, Text.isBlank x = false ∧ x ≠ '.' ∧ x ≠ '|'
  primary : c.isPrimary = true → c.isUnique = true ∧ c.isNotNull = true
  values : ∀ values, c.type = .enum values →
    values ≠ [] ∧ ∀ v ∈ values, v ≠ "" ∧ Text.trim v = v ∧ ',' ∉ v.toList
  reference : ∀ key, c.foreignKey = some key → key.WellFormed

theorem WellFormed.accepted (h : c.WellFormed) : c.Accepted where
  name := nameAllowed_iff.mp h.name
  primary := h.primary
  values values heq := by
    have htype := h.type
    rwa [heq] at htype
  reference := h.reference

end Column

/-! ### Roles -/

theorem NameSet.insert_ne_empty (roles : NameSet) (role : String) : roles.insert role ≠ ∅ := by
  intro h
  exact not_mem_empty role (h ▸ mem_insert.mpr (.inl rfl))

theorem NameSet.isEmpty_iff {roles : NameSet} : roles.isEmpty = true ↔ roles = ∅ := by
  rw [isEmpty, List.isEmpty_iff]
  constructor
  · intro h
    exact ext_mem fun role => by rw [← mem_names, h]; exact Iff.rfl
  · rintro rfl
    rfl

/-- The roles of the actions that have any. -/
abbrev RoleTable := Keyed Action NameSet

namespace RoleTable
variable {t : RoleTable} {p : Permissions} {action : Action} {roles : NameSet}

/-- Adds a role to an action, which is listed from then on. -/
def add (t : RoleTable) (action : Action) (role : String) : RoleTable :=
  t.insert action (((t.get? action).getD ∅).insert role)

/-- Replaces the roles of an action. Without roles it is no longer listed. -/
def put (t : RoleTable) (action : Action) (roles : NameSet) : RoleTable :=
  if roles.isEmpty then t.erase action else t.insert action roles

/-- Adds a role to an action named in a document; a name that is no action is passed over. -/
def addNamed (role : String) (t : RoleTable) (name : String) : RoleTable :=
  match Action.ofName? name with
  | some action => t.add action role
  | none => t

/-- Reads one line of grants; a line without an equals sign is passed over. -/
def readLine (t : RoleTable) (line : String) : RoleTable :=
  match Text.cut? '=' (Text.trim line) with
  | some (role, actions) => (Text.split ',' actions).foldl (addNamed (Text.trim role)) t
  | none => t

/-- Puts the roles that another table lists for an action, if it does. -/
def putListed (listed t : RoleTable) (action : Action) : RoleTable :=
  match t.get? action with
  | some roles => listed.put action roles
  | none => listed

/-- Puts what was read, one action after the other. -/
def putAll (t : RoleTable) : RoleTable := Action.all.foldl (·.putListed t) .empty

/-- The roles that a stored document lists behind its first line. -/
def ofDocument (document : String) : RoleTable :=
  ((Text.lines document).tail.foldl readLine .empty).putAll

/-- A table that lists the actions that have roles, each with its roles, and no others. -/
def Lists (t : RoleTable) (p : Permissions) : Prop :=
  ∀ action, t.get? action = if p.roles action = ∅ then none else some (p.roles action)

namespace Lists

theorem empty : Lists .empty .nobody := by
  intro action
  cases action <;> rfl

theorem getD (h : t.Lists p) (action : Action) : (t.get? action).getD ∅ = p.roles action := by
  rw [h action]
  split
  · next hnone => exact hnone.symm
  · rfl

theorem put (h : t.Lists p) (action : Action) (roles : NameSet) :
    (t.put action roles).Lists (p.set action roles) := by
  intro other
  unfold RoleTable.put
  by_cases hother : other = action
  · subst hother
    rw [Permissions.roles_set_self]
    by_cases hroles : roles = ∅
    · rw [if_pos (NameSet.isEmpty_iff.mpr hroles), if_pos hroles, Keyed.get?_erase, if_pos rfl]
    · rw [if_neg (mt NameSet.isEmpty_iff.mp hroles), if_neg hroles, Keyed.get?_insert, if_pos rfl]
  · rw [Permissions.roles_set_of_ne hother, ← h other]
    split
    · rw [Keyed.get?_erase, if_neg hother]
    · rw [Keyed.get?_insert, if_neg hother]

theorem add (h : t.Lists p) (action : Action) (role : String) :
    (t.add action role).Lists (p.set action ((p.roles action).insert role)) := by
  have hput : t.add action role = t.put action ((p.roles action).insert role) := by
    have hsome := mt NameSet.isEmpty_iff.mp ((p.roles action).insert_ne_empty role)
    rw [RoleTable.add, h.getD, RoleTable.put, if_neg hsome]
  rw [hput]
  exact h.put action _

theorem addNamed (h : t.Lists p) (role name : String) :
    (RoleTable.addNamed role t name).Lists (Definition.grantNamed role p name) := by
  unfold RoleTable.addNamed Definition.grantNamed
  cases Action.ofName? name with
  | none => exact h
  | some action => exact h.add action role

theorem foldl_addNamed (h : t.Lists p) (role : String) (names : List String) :
    (names.foldl (RoleTable.addNamed role) t).Lists (names.foldl (Definition.grantNamed role) p) := by
  induction names generalizing t p with
  | nil => exact h
  | cons name names ih =>
    rw [List.foldl_cons, List.foldl_cons]
    exact ih (h.addNamed role name)

theorem readLine (h : t.Lists p) (line : String) : (t.readLine line).Lists (Definition.readGrants p line) := by
  unfold RoleTable.readLine Definition.readGrants
  cases Text.cut? '=' (Text.trim line) with
  | none => exact h
  | some parts => exact h.foldl_addNamed (Text.trim parts.1) (Text.split ',' parts.2)

theorem foldl_readLine (h : t.Lists p) (lines : List String) :
    (lines.foldl RoleTable.readLine t).Lists (lines.foldl Definition.readGrants p) := by
  induction lines generalizing t p with
  | nil => exact h
  | cons line lines ih =>
    rw [List.foldl_cons, List.foldl_cons]
    exact ih (h.readLine line)

/-- Putting the roles that are listed for an action, if there were none before. -/
theorem putListed {listed : RoleTable} {q : Permissions} (h : t.Lists p) (hlisted : listed.Lists q)
    (action : Action) (hnone : q.roles action = ∅) :
    (listed.putListed t action).Lists (q.set action (p.roles action)) := by
  unfold RoleTable.putListed
  rw [h action]
  by_cases hroles : p.roles action = ∅
  · have hsame : q.set action (p.roles action) = q := by
      rw [hroles, ← hnone, Permissions.set_roles]
    rw [if_pos hroles, hsame]
    exact hlisted
  · rw [if_neg hroles]
    exact hlisted.put action _

/-- Putting the roles of all actions lists them again. -/
theorem putAll (h : t.Lists p) : t.putAll.Lists p := by
  have hread := h.putListed empty .read rfl
  exact h.putListed hread .write rfl

end Lists

/-- The actions that a stored document lists are those that have roles when it is read. -/
theorem ofDocument_lists {table document : String} {d : Definition}
    (h : Definition.decode table document = .ok d) : (ofDocument document).Lists d.permissions := by
  obtain ⟨header, grants, columns, hlines, -, -, rfl⟩ := Definition.decode_eq_ok.mp h
  unfold ofDocument
  rw [hlines]
  exact (Lists.empty.foldl_readLine grants).putAll

end RoleTable

/-! ### Schemas -/

namespace Definition
variable {d : Definition} {table text : String}

/-- What is known of a definition that was read, and of the table that lists its roles. -/
structure Accepted (d : Definition) (listed : RoleTable) : Prop where
  columns : ∀ c ∈ d.columns, c.Accepted
  /-- An action is missing, which denies it, or it is listed with its roles. -/
  listed : ∀ action, (listed.get? action = none ∧ d.permissions.roles action = ∅) ∨
    (listed.get? action = some (d.permissions.roles action) ∧ d.permissions.roles action ≠ ∅)
  roles : ∀ action, ∀ role ∈ d.permissions.roles action, Text.trim role = role ∧ '=' ∉ role.toList

theorem decode_accepted (h : decode table text = .ok d) : d.Accepted (RoleTable.ofDocument text) where
  columns c hc := (decode_wellFormed h hc).accepted
  listed action := by
    have hlists := RoleTable.ofDocument_lists h action
    split at hlists
    · next hnone => exact .inl ⟨hlists, hnone⟩
    · next hsome => exact .inr ⟨hlists, hsome⟩
  roles action role hrole := by
    obtain ⟨header, grants, columns, -, -, -, rfl⟩ := decode_eq_ok.mp h
    obtain ⟨line, -, hgrants⟩ := mem_roles_read.mp hrole
    exact ⟨hgrants.trimmed, hgrants.not_mem⟩

end Definition

/-- **Whatever is read as a schema is well formed**: a column, the columns of a new table, and a stored
definition with its permissions. -/
theorem accepted_schemas (table text : String) :
    (∀ c, Column.ofText text = .ok c → c.Accepted) ∧
      (∀ columns, Column.listOfText text = .ok columns →
        columns ≠ [] ∧ (columns.map (·.name)).Nodup ∧ ∀ c ∈ columns, c.Accepted) ∧
      ∀ d, Definition.decode table text = .ok d → d.Accepted (RoleTable.ofDocument text) := by
  refine ⟨fun c h => (Column.ofText_wellFormed h).accepted, fun columns h => ?_,
    fun d => Definition.decode_accepted⟩
  obtain ⟨hne, hread, hnames⟩ := Column.listOfText_eq_ok_iff.mp h
  refine ⟨hne, hnames, fun c hc => ?_⟩
  obtain ⟨text, -, htext⟩ := Outcome.exists_mem_left hread hc
  exact (Column.ofText_wellFormed htext).accepted

/-- A descriptor that repeats a constraint, a list that goes on after it, and a document with a line for the
empty role. -/
theorem accepted_schemas_staff :
    let key : Column := ⟨"id", .enum ["L", "P"], true, true, true, some ⟨"orang", "id"⟩⟩
    let text := " id : ENUM( L ,, P ) : UNIQUE : PK : FK( orang . id ) : PK"
    let document := "id:INT\n admin = read, write ,x\nx\n = WRITE"
    (Column.ofText text = .ok key ∧ key.Accepted) ∧
      (Column.listOfText (text ++ ",,n:INT") = .ok [key, .plain "n" .int] ∧
        (Column.plain "n" .int).Accepted) ∧
      ∃ d, Definition.decode "staf" document = .ok d ∧ d.Accepted (RoleTable.ofDocument document) ∧
        (d.permissions.roles .read).names = ["admin"] ∧ (d.permissions.roles .write).names = ["", "admin"] := by
  intro key text document
  have hkey : Column.ofText text = .ok key := by decide +kernel
  have hcolumns : Column.listOfText (text ++ ",,n:INT") = .ok [key, .plain "n" .int] := by decide +kernel
  obtain ⟨-, -, haccepted⟩ := (accepted_schemas "staf" (text ++ ",,n:INT")).2.1 _ hcolumns
  have hd : Definition.decode "staf" document =
      .ok ⟨"staf", [.plain "id" .int], ⟨.ofList ["admin"], .ofList ["", "admin"]⟩⟩ := by decide +kernel
  exact ⟨⟨hkey, (accepted_schemas "staf" text).1 key hkey⟩, ⟨hcolumns, haccepted _ (by simp)⟩,
    _, hd, (accepted_schemas "staf" document).2.2 _ hd, by decide +kernel, by decide +kernel⟩

end Leuit
