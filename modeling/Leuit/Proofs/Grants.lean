import Leuit.Proofs.Pieces
import Leuit.Schema.Definition

/-! Grants that were stored are read back. The part of a document after its first line grants actions to
roles, one role a line. A line is cut at its first equals sign, so whatever it says it says about a role
without one (`Definition.Grants`). Reading adds up what the lines grant (`mem_roles_foldl_readGrants`), and
the line of a role gives back its actions if the role has no equals sign in it (`grants_grantText`). So
everybody may do the same after storing exactly if no role has one (`Permissions.readBack_allows_iff`). -/
namespace Leuit

/-! ### Actions and roles -/

namespace Action

theorem ofName?_name (action : Action) : ofName? action.name = some action := by
  cases action <;> decide

theorem bareEnds_name (action : Action) : Text.BareEnds action.name.toList := by
  cases action with
  | read => exact Text.Bare.bareEnds (by decide) (by decide)
  | write => exact Text.Bare.bareEnds (by decide) (by decide)

theorem comma_not_mem_name (action : Action) : ',' ∉ action.name.toList := by
  cases action <;> decide

theorem newline_not_mem_name (action : Action) : '\n' ∉ action.name.toList := by
  cases action <;> decide

theorem mem_all (action : Action) : action ∈ all := by
  cases action <;> decide

end Action

namespace Permissions
variable {p q : Permissions} {action other : Action} {role : String}

theorem roles_set_self (roles : NameSet) : (p.set action roles).roles action = roles := by
  cases action <;> rfl

theorem roles_set_of_ne (h : other ≠ action) (roles : NameSet) :
    (p.set action roles).roles other = p.roles other := by
  cases action <;> cases other <;> first | rfl | exact absurd rfl h

theorem set_roles : p.set action (p.roles action) = p := by
  cases action <;> rfl

/-- Permissions are known by the roles of each action. -/
theorem ext_roles (h : ∀ action role, role ∈ p.roles action ↔ role ∈ q.roles action) : p = q := by
  obtain ⟨readers, writers⟩ := p
  obtain ⟨readers', writers'⟩ := q
  rw [mk.injEq]
  exact ⟨NameSet.ext_mem (h .read), NameSet.ext_mem (h .write)⟩

/-- The roles that are granted something, as they are listed in a document. -/
def grantees (p : Permissions) : NameSet := p.readers.union p.writers

theorem mem_grantees : role ∈ p.grantees ↔ ∃ action, role ∈ p.roles action := by
  rw [grantees, NameSet.mem_union]
  constructor
  · rintro (h | h)
    · exact ⟨.read, h⟩
    · exact ⟨.write, h⟩
  · rintro ⟨action, h⟩
    cases action with
    | read => exact .inl h
    | write => exact .inr h

/-- The names of the actions of a role, as they are listed in a document. -/
def actionNames (p : Permissions) (role : String) : List String :=
  (Action.all.filter fun a => role ∈ p.roles a).map Action.name

theorem mem_actionNames {name : String} :
    name ∈ p.actionNames role ↔ ∃ action : Action, role ∈ p.roles action ∧ action.name = name := by
  simp [actionNames, Action.mem_all]

theorem actionNames_ne_nil (h : role ∈ p.grantees) : p.actionNames role ≠ [] := by
  obtain ⟨action, haction⟩ := mem_grantees.mp h
  exact List.ne_nil_of_mem (mem_actionNames.mpr ⟨action, haction, rfl⟩)

end Permissions

namespace Definition
variable {p : Permissions} {line role other : String} {action : Action}

/-! ### Reading -/

/-- What a line of a document grants. -/
def Grants (line role : String) (action : Action) : Prop :=
  ∃ written actions, Text.cut? '=' (Text.trim line) = some (written, actions) ∧ role = Text.trim written ∧
    ∃ name ∈ Text.split ',' actions, Action.ofName? name = some action

theorem Grants.not_mem (h : Grants line role action) : '=' ∉ role.toList := by
  obtain ⟨written, actions, hcut, rfl, -⟩ := h
  exact fun hmem => (Text.cut?_eq_some.mp hcut).2 (Text.mem_of_mem_trim hmem)

theorem Grants.trimmed (h : Grants line role action) : Text.trim role = role := by
  obtain ⟨written, actions, -, rfl, -⟩ := h
  exact Text.trim_trim written

theorem mem_roles_grantNamed {name : String} :
    other ∈ (grantNamed role p name).roles action ↔
      (other = role ∧ Action.ofName? name = some action) ∨ other ∈ p.roles action := by
  unfold grantNamed
  cases Action.ofName? name with
  | none => simp
  | some named =>
    by_cases h : action = named
    · subst h
      simp [Permissions.roles_set_self, NameSet.mem_insert]
    · simp [Permissions.roles_set_of_ne h, Ne.symm h]

theorem mem_roles_foldl_grantNamed {names : List String} :
    other ∈ (names.foldl (grantNamed role) p).roles action ↔
      (other = role ∧ ∃ name ∈ names, Action.ofName? name = some action) ∨ other ∈ p.roles action := by
  induction names generalizing p with
  | nil => simp
  | cons name names ih =>
    rw [List.foldl_cons, ih, mem_roles_grantNamed]
    simp only [List.mem_cons, exists_eq_or_imp, and_or_left, or_assoc]
    exact or_left_comm

theorem mem_roles_readGrants :
    other ∈ (readGrants p line).roles action ↔ Grants line other action ∨ other ∈ p.roles action := by
  unfold readGrants
  cases hcut : Text.cut? '=' (Text.trim line) with
  | none => simp [Grants, hcut]
  | some parts =>
    obtain ⟨written, actions⟩ := parts
    rw [mem_roles_foldl_grantNamed]
    refine or_congr_left ⟨fun h => ⟨written, actions, hcut, h⟩, ?_⟩
    rintro ⟨written', actions', hcut', h⟩
    cases hcut.symm.trans hcut'
    exact h

/-- A role may do what some line grants it, and what it could do before. -/
theorem mem_roles_foldl_readGrants {lines : List String} :
    other ∈ (lines.foldl readGrants p).roles action ↔
      (∃ line ∈ lines, Grants line other action) ∨ other ∈ p.roles action := by
  induction lines generalizing p with
  | nil => simp
  | cons line lines ih =>
    rw [List.foldl_cons, ih, mem_roles_readGrants]
    simp only [List.mem_cons, exists_eq_or_imp, or_assoc]
    exact or_left_comm

/-- A role may do what some line grants it, and nothing else. -/
theorem mem_roles_read {lines : List String} :
    other ∈ (lines.foldl readGrants .nobody).roles action ↔ ∃ line ∈ lines, Grants line other action := by
  rw [mem_roles_foldl_readGrants, or_iff_left]
  cases action <;> exact NameSet.not_mem_empty other

/-! ### Writing -/

/-- The text of the line of a role. -/
def grantText (p : Permissions) (role : String) : String :=
  role ++ "=" ++ ",".intercalate (p.actionNames role)

theorem grantLine_eq (p : Permissions) (role : String) : grantLine p role = grantText p role ++ "\n" := rfl

theorem toList_grantText (p : Permissions) (role : String) :
    (grantText p role).toList = role.toList ++ '=' :: (",".intercalate (p.actionNames role)).toList := by
  simp [grantText]

theorem bareEnds_grantText (hrole : Text.Proper ['\n'] role) (h : role ∈ p.grantees) :
    Text.BareEnds (grantText p role).toList := by
  have hactions : Text.BareEnds (",".intercalate (p.actionNames role)).toList := by
    rw [String.toList_intercalate]
    refine Text.bareEnds_intercalate (by simpa using Permissions.actionNames_ne_nil h) fun piece hp => ?_
    obtain ⟨name, hname, rfl⟩ := List.mem_map.mp hp
    obtain ⟨action, -, rfl⟩ := Permissions.mem_actionNames.mp hname
    exact action.bareEnds_name
  rw [toList_grantText, List.append_cons]
  exact hrole.bareEnds.append hactions ['=']

theorem newline_not_mem_grantText (hrole : Text.Proper ['\n'] role) : '\n' ∉ (grantText p role).toList := by
  rw [toList_grantText, String.toList_intercalate, List.mem_append, List.mem_cons]
  rintro (hmem | hequals | hmem)
  · exact hrole.not_mem List.mem_cons_self hmem
  · exact absurd hequals (by decide)
  · rcases Text.mem_intercalate hmem with hcomma | ⟨piece, hp, hmem⟩
    · exact absurd hcomma (by decide)
    · obtain ⟨name, hname, rfl⟩ := List.mem_map.mp hp
      obtain ⟨action, -, rfl⟩ := Permissions.mem_actionNames.mp hname
      exact action.newline_not_mem_name hmem

/-- The line of a role grants it its actions. -/
theorem grants_grantText (hrole : Text.Proper ['\n'] role) (hequals : '=' ∉ role.toList)
    (h : role ∈ p.grantees) :
    Grants (grantText p role) other action ↔ other = role ∧ role ∈ p.roles action := by
  have hcut : Text.cut? '=' (Text.trim (grantText p role)) =
      some (role, ",".intercalate (p.actionNames role)) := by
    rw [(bareEnds_grantText hrole h).trim]
    exact Text.cut?_eq_some.mpr ⟨toList_grantText p role, hequals⟩
  have hsplit : Text.split ',' (",".intercalate (p.actionNames role)) = p.actionNames role := by
    refine Text.split_of_intercalate (by simp [String.toList_intercalate])
      (Permissions.actionNames_ne_nil h) fun name hname => ?_
    obtain ⟨action, -, rfl⟩ := Permissions.mem_actionNames.mp hname
    exact action.comma_not_mem_name
  unfold Grants
  rw [hcut]
  constructor
  · rintro ⟨_, _, heq, rfl, name, hname, hof⟩
    cases heq
    rw [hsplit] at hname
    obtain ⟨named, hnamed, rfl⟩ := Permissions.mem_actionNames.mp hname
    rw [Action.ofName?_name, Option.some.injEq] at hof
    exact ⟨hrole.trimmed, hof ▸ hnamed⟩
  · rintro ⟨rfl, haction⟩
    refine ⟨_, _, rfl, hrole.trimmed.symm, action.name, ?_, action.ofName?_name⟩
    rw [hsplit]
    exact Permissions.mem_actionNames.mpr ⟨action, haction, rfl⟩

end Definition

/-! ### Permissions -/

namespace Permissions
variable {p : Permissions} {role : String} {action : Action}
open Definition (grantLine grantText readGrants)

/-- What stands in a document after its first line. -/
def document (p : Permissions) : String := String.join (p.grantees.names.map (grantLine p))

/-- What the permissions are after they were stored. -/
def readBack (p : Permissions) : Permissions := (Text.lines p.document).foldl readGrants .nobody

theorem lines_document (hroles : ∀ role ∈ p.grantees, Text.Proper ['\n'] role) :
    Text.lines p.document = p.grantees.names.map (grantText p) := by
  -- over any roles that are granted something, so that the induction leaves the permissions alone
  have hlines : ∀ roles : List String, (∀ role ∈ roles, role ∈ p.grantees) →
      Text.lines (String.join (roles.map (grantLine p))) = roles.map (grantText p) := by
    intro roles hmem
    induction roles with
    | nil => rfl
    | cons role roles ih =>
      have hrole := hmem role List.mem_cons_self
      obtain ⟨last, hlast, hblank⟩ := (Definition.bareEnds_grantText (hroles role hrole) hrole).last
      have hreturn : (grantText p role).toList.getLast? ≠ some '\r' := by
        rw [hlast]
        rintro heq
        cases heq
        exact absurd hblank (by decide)
      rw [List.map_cons, List.map_cons, String.join_cons, Definition.grantLine_eq,
        Text.lines_cons (Definition.newline_not_mem_grantText (hroles role hrole)) hreturn,
        ih fun r hr => hmem r (List.mem_cons_of_mem role hr)]
  exact hlines _ fun role h => h

theorem not_mem_of_mem_readBack (h : role ∈ p.readBack.roles action) : '=' ∉ role.toList := by
  obtain ⟨line, -, hgrants⟩ := Definition.mem_roles_read.mp h
  exact hgrants.not_mem

/-- Permissions are read back exactly if no role has an equals sign in it. -/
theorem readBack_eq_iff (hroles : ∀ role ∈ p.grantees, Text.Proper ['\n'] role) :
    p.readBack = p ↔ ∀ role ∈ p.grantees, '=' ∉ role.toList := by
  constructor
  · intro h role hrole
    obtain ⟨action, haction⟩ := mem_grantees.mp hrole
    rw [← h] at haction
    exact not_mem_of_mem_readBack haction
  · intro h
    refine ext_roles fun action role => ?_
    rw [readBack, lines_document hroles, Definition.mem_roles_read]
    constructor
    · rintro ⟨line, hline, hgrants⟩
      obtain ⟨grantee, hgrantee, rfl⟩ := List.mem_map.mp hline
      obtain ⟨rfl, haction⟩ :=
        (Definition.grants_grantText (hroles _ hgrantee) (h _ hgrantee) hgrantee).mp hgrants
      exact haction
    · intro haction
      have hrole : role ∈ p.grantees := mem_grantees.mpr ⟨action, haction⟩
      exact ⟨grantText p role, List.mem_map_of_mem hrole,
        (Definition.grants_grantText (hroles role hrole) (h role hrole) hrole).mpr ⟨rfl, haction⟩⟩

/-- **Every role but the super role may do the same after storing** exactly if no role has an equals sign
in it. -/
theorem readBack_allows_iff (hroles : ∀ role ∈ p.grantees, Text.Proper ['\n'] role) :
    (∀ role ≠ superRole, ∀ action, p.readBack.allows role action = true ↔ role ∈ p.roles action) ↔
      ∀ role ∈ p.grantees, '=' ∉ role.toList := by
  have hallows : ∀ role ≠ superRole, ∀ q : Permissions, ∀ action,
      q.allows role action = true ↔ role ∈ q.roles action := by
    intro role hrole q action
    simp [allows, hrole]
  constructor
  · intro hkeeps role hgrantee hequals
    have hrole : role ≠ superRole := by
      rintro rfl
      exact absurd hequals (by decide)
    obtain ⟨action, haction⟩ := mem_grantees.mp hgrantee
    have hallowed := (hkeeps role hrole action).mpr haction
    exact not_mem_of_mem_readBack ((hallows role hrole _ action).mp hallowed) hequals
  · intro hequals role hrole action
    rw [hallows role hrole, (readBack_eq_iff hroles).mpr hequals]

end Permissions

end Leuit
