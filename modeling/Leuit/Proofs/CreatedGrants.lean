import Leuit.Proofs.CreatedTables

/-! Who may use a created table. A query grants actions by flags, of which the last for an action counts
(`Granted`), and the words that are no flags cannot be taken for one (`Command.permissions_of_create`). The
roles so granted are stored with the table, and those that have an equals sign in them are cut when it is
loaded; so everybody may do what was granted to them exactly if no such role was granted anything. -/
namespace Leuit
open Outcome

/-! ### Flags -/

namespace Action

/-- The flag that grants an action. -/
def flag : Action → String
  | read => readFlag
  | write => writeFlag

/-- The roles that may perform an action if no flag says so. -/
def defaultRoles : Action → List String
  | read => [userRole, adminRole, superRole]
  | write => [adminRole, superRole]

theorem equals_mem_flag (action : Action) : '=' ∈ action.flag.toList := by
  cases action <;> decide

end Action

theorem mem_roles_standard {action : Action} {role : String} :
    role ∈ Permissions.standard.roles action ↔ role ∈ action.defaultRoles := by
  cases action with
  | read =>
    have : (Permissions.standard.roles .read).names = [adminRole, superRole, userRole] := by decide +kernel
    rw [← NameSet.mem_names, this]
    simp only [Action.defaultRoles, List.mem_cons, List.not_mem_nil, or_false]
    constructor <;> rintro (h | h | h) <;> simp [h]
  | write =>
    have : (Permissions.standard.roles .write).names = [adminRole, superRole] := by decide +kernel
    rw [← NameSet.mem_names, this, Action.defaultRoles]

section
variable {flag word value : String} {words : List String}

theorem equals_of_toLower {c : Char} (h : c.toLower = '=') : c = '=' := by
  unfold Char.toLower at h
  split at h
  · next hupper =>
    have hlow : 65 ≤ c.val.toNat := UInt32.le_iff_toNat_le.mp hupper.1
    have hhigh : c.val.toNat ≤ 90 := UInt32.le_iff_toNat_le.mp hupper.2
    have hsum : (c.val + 32).toNat = 61 := congrArg (fun x : Char => x.val.toNat) h
    have hadd : (c.val + 32).toNat = (c.val.toNat + 32) % 2 ^ 32 := UInt32.toNat_add c.val 32
    omega
  · exact h

/-- A word that starts with a flag has the characters of the value after it. -/
theorem flagValue?_eq_some (h : flagValue? flag word = some value) :
    value.toList.Sublist word.toList ∧ ('=' ∈ flag.toList → '=' ∈ word.toList) := by
  unfold flagValue? at h
  rw [List.splitAt_eq] at h
  dsimp only at h
  split at h
  · next hstart =>
    rw [Option.some.injEq] at h
    subst h
    rw [String.toList_ofList]
    refine ⟨List.drop_sublist .., fun hmem => ?_⟩
    rw [← hstart] at hmem
    obtain ⟨c, hc, hlower⟩ := List.mem_map.mp hmem
    exact equals_of_toLower hlower ▸ List.mem_of_mem_take hc
  · cases h

/-- Of several flags for an action the last counts. -/
theorem flagRoles?_eq_some {roles : NameSet} :
    flagRoles? flag words = some roles ↔
      ∃ before word value after, words = before ++ word :: after ∧ flagValue? flag word = some value ∧
        (∀ later ∈ after, flagValue? flag later = none) ∧ roles = NameSet.ofList (commaList value) := by
  unfold flagRoles?
  rw [Option.map_eq_some_iff, List.getLast?_filterMap]
  constructor
  · rintro ⟨value, hlast, rfl⟩
    obtain ⟨after, word, before, hwords, hvalue, hafter⟩ := List.findSome?_eq_some_iff.mp hlast
    refine ⟨before.reverse, word, value, after.reverse, ?_, hvalue, ?_, rfl⟩
    · rw [← List.reverse_inj, hwords]
      simp
    · exact fun later hlater => hafter later (List.mem_reverse.mp hlater)
  · rintro ⟨before, word, value, after, rfl, hvalue, hafter, rfl⟩
    refine ⟨value, List.findSome?_eq_some_iff.mpr ⟨after.reverse, word, before.reverse, ?_, hvalue, ?_⟩, rfl⟩
    · simp
    · exact fun later hlater => hafter later (List.mem_reverse.mp hlater)

theorem flagRoles?_eq_none :
    flagRoles? flag words = none ↔ ∀ word ∈ words, flagValue? flag word = none := by
  simp [flagRoles?]

/-- Words that are no flags may stand in front. -/
theorem flagRoles?_append {before : List String} (h : ∀ word ∈ before, flagValue? flag word = none) :
    flagRoles? flag (before ++ words) = flagRoles? flag words := by
  have hnone : before.filterMap (flagValue? flag) = [] := List.filterMap_eq_nil_iff.mpr h
  rw [flagRoles?, List.filterMap_append, hnone, List.nil_append, flagRoles?]

end

/-! ### What a query grants -/

/-- What the words of a query grant: an action belongs to the roles that the last flag for it lists, or
to the default ones if there is no flag for it. -/
inductive Granted (words : List String) (action : Action) (role : String) : Prop where
  | listed {before after : List String} {word roles : String} : words = before ++ word :: after →
      flagValue? action.flag word = some roles → (∀ later ∈ after, flagValue? action.flag later = none) →
      role ∈ commaList roles → Granted words action role
  | standard : (∀ word ∈ words, flagValue? action.flag word = none) → role ∈ action.defaultRoles →
      Granted words action role

section
variable {words : List String} {action : Action} {role : String}

theorem granted_iff :
    Granted words action role ↔
      role ∈ (flagRoles? action.flag words).getD (Permissions.standard.roles action) := by
  constructor
  · rintro (⟨hwords, hvalue, hafter, hrole⟩ | ⟨hnone, hrole⟩)
    · rw [flagRoles?_eq_some.mpr ⟨_, _, _, _, hwords, hvalue, hafter, rfl⟩]
      exact NameSet.mem_ofList.mpr hrole
    · rw [flagRoles?_eq_none.mpr hnone]
      exact mem_roles_standard.mpr hrole
  · intro h
    cases hflag : flagRoles? action.flag words with
    | none =>
      rw [hflag] at h
      exact .standard (flagRoles?_eq_none.mp hflag) (mem_roles_standard.mp h)
    | some roles =>
      rw [hflag] at h
      obtain ⟨before, word, value, after, hwords, hvalue, hafter, rfl⟩ := flagRoles?_eq_some.mp hflag
      exact .listed hwords hvalue hafter (NameSet.mem_ofList.mp h)

instance : Decidable (Granted words action role) := decidable_of_iff _ granted_iff.symm

theorem granted_append {before : List String}
    (h : ∀ word ∈ before, flagValue? action.flag word = none) :
    Granted (before ++ words) action role ↔ Granted words action role := by
  rw [granted_iff, granted_iff, flagRoles?_append h]

/-- The permissions of a new table are what the flags grant. -/
theorem mem_roles_flagPermissions :
    role ∈ ((flagPermissions words).getD .standard).roles action ↔ Granted words action role := by
  have hroles : ((flagPermissions words).getD .standard).roles action =
      (flagRoles? action.flag words).getD (Permissions.standard.roles action) := by
    unfold flagPermissions
    cases hread : flagRoles? readFlag words <;> cases hwrite : flagRoles? writeFlag words <;>
      cases action <;> simp [Action.flag, hread, hwrite, Permissions.set, Permissions.roles]
  rw [hroles, granted_iff]

/-- Roles are listed without blanks. -/
theorem proper_of_granted (hbare : ∀ word ∈ words, Text.Bare word.toList) (h : Granted words action role) :
    Text.Proper ['\n'] role := by
  have hrole : role ≠ "" ∧ Text.Bare role.toList := by
    rcases h with ⟨rfl, hvalue, -, hrole⟩ | ⟨-, hrole⟩
    · obtain ⟨hmap, hne⟩ := List.mem_filter.mp hrole
      obtain ⟨piece, hpiece, rfl⟩ := List.mem_map.mp hmap
      refine ⟨by simpa using hne, fun c hc => hbare _ (List.mem_append_right _ List.mem_cons_self) c ?_⟩
      exact (flagValue?_eq_some hvalue).1.subset
        ((Text.sublist_of_mem_split hpiece).subset (Text.mem_of_mem_trim hc))
    · cases action with
      | read => revert role; decide
      | write => revert role; decide
  refine ⟨hrole.1, hrole.2.trim, fun c hc hline => ?_⟩
  have hblank := hrole.2 c hc
  rw [List.mem_singleton.mp hline] at hblank
  exact absurd hblank (by decide)

end

/-! ### Words that are no flags -/

/-- A character that is in no spelling is in no word that spells a keyword. -/
theorem Keyword.not_mem_of_ofWord? {c : Char} (hc : Text.upperChar c = [c])
    (hspelling : ∀ entry ∈ table, c ∉ entry.1.toList) {word : String} {k : Keyword}
    (h : ofWord? word = some k) : c ∉ word.toList := by
  intro hmem
  obtain ⟨before, after, htable, -⟩ := List.lookup_eq_some_iff.mp h
  have hentry : (Text.upper word, k) ∈ table := by
    rw [htable]
    simp
  exact hspelling _ hentry (Text.mem_upper hc hmem)

theorem Keyword.equals_not_mem {word : String} {k : Keyword} (h : ofWord? word = some k) :
    '=' ∉ word.toList :=
  not_mem_of_ofWord? (by decide +kernel) (by decide +kernel) h

theorem Definition.equals_not_mem {kind name : String} (h : checkName kind name = .ok ()) :
    '=' ∉ name.toList := by
  intro hmem
  unfold checkName at h
  split at h
  · next hallowed =>
    rw [nameAllowed, Bool.and_eq_true, List.all_eq_true] at hallowed
    exact absurd (hallowed.2 '=' hmem) (by decide +kernel)
  · cases h

theorem flagValue?_of_not_mem {action : Action} {word : String} (h : '=' ∉ word.toList) :
    flagValue? action.flag word = none := by
  cases hvalue : flagValue? action.flag word with
  | none => rfl
  | some value => exact absurd ((flagValue?_eq_some hvalue).2 action.equals_mem_flag) h

/-- If the table has a proper name, the permissions of a new table are what the query grants. -/
theorem Command.permissions_of_create {text : String} {q : CreateTable}
    (h : ofText text = .ok (create q)) (hname : Definition.checkName "table" q.table = .ok ()) :
    ∃ words, queryWords text = .ok words ∧ ∀ action role,
      role ∈ (q.permissions.getD .standard).roles action ↔ Granted words action role := by
  obtain ⟨words, hwords, hcommand⟩ := ofText_eq_ok h
  obtain ⟨verb, rest, rfl, hverb, hcreate⟩ := ofWords_create hcommand
  obtain ⟨before, flags, rfl, hbefore, -, hpermissions⟩ := CreateTable.ofWords_eq_ok hcreate
  refine ⟨_, hwords, fun action role => ?_⟩
  have hsplit : verb :: (before ++ q.table :: flags) = (verb :: before ++ [q.table]) ++ flags := by simp
  rw [hpermissions, mem_roles_flagPermissions, hsplit, granted_append]
  -- before the flags stand the verb, perhaps the word for a table, and the table
  intro word hword
  apply flagValue?_of_not_mem
  simp only [List.cons_append, List.mem_cons, List.mem_append, List.not_mem_nil, or_false] at hword
  rcases hword with rfl | hword | rfl
  · exact Keyword.equals_not_mem hverb
  · have hspelled := hbefore word hword
    rw [Keyword.isSpelled, decide_eq_true_eq] at hspelled
    exact Keyword.equals_not_mem hspelled
  · exact Definition.equals_not_mem hname

/-! ### Loading -/

namespace Engine
variable {σ : Type} [Storage σ]

/-- What becomes of the grants of a query: if the query is accepted, the table that is loaded lets every
role but the super role do just what was granted to it exactly if nothing was granted to a role with an
equals sign in it. The table is loaded if its columns can be stored. -/
def KeepsGrants (e : Engine σ) (caller : Caller) (text : String) (q : CreateTable) : Prop :=
  ∀ answer, (e.execute caller text).1 = .ok answer →
    ∃ words columns, queryWords text = .ok words ∧ Column.listOfText q.columns = .ok columns ∧
      ((∀ c ∈ columns, c.Storable) →
        ∃ d, (Storage.snapshot (e.execute caller text).2.store caller.database).load q.table = .ok d) ∧
      ∀ d, (Storage.snapshot (e.execute caller text).2.store caller.database).load q.table = .ok d →
        ((∀ role ≠ superRole, ∀ action,
            d.permissions.allows role action = true ↔ Granted words action role) ↔
          ∀ role action, Granted words action role → '=' ∉ role.toList)

theorem keepsGrants_of_storage [DefiningStorage σ] (e : Engine σ) (caller : Caller) {text : String}
    {q : CreateTable} (h : Command.ofText text = .ok (.create q)) : e.KeepsGrants caller text q := by
  intro answer hanswer
  obtain ⟨columns, hname, hcolumns, hloads⟩ := created_loads_iff e caller h hanswer
  obtain ⟨words, hwords, hgranted⟩ := Command.permissions_of_create h hname
  have hbare := Command.bare_columns h
  obtain ⟨hwf, hline⟩ := Column.listOfText_oneLine hbare hcolumns
  refine ⟨words, columns, hwords, hcolumns, fun hstorable => ?_, fun d hd => ?_⟩
  · obtain ⟨d, hdecode, -⟩ :=
      (Definition.decode_encode_iff hbare hcolumns q.table (q.permissions.getD .standard)).mpr hstorable
    exact ⟨d, (hloads d).mpr hdecode⟩
  · obtain ⟨read, -, rfl⟩ := (Definition.decode_encode_eq_ok
      ⟨q.table, columns, q.permissions.getD .standard⟩ (Column.listOfText_eq_ok hbare hcolumns).1 hwf
      hline).mp ((hloads d).mp hd)
    have hroles : ∀ role ∈ (q.permissions.getD .standard).grantees, Text.Proper ['\n'] role := by
      intro role hrole
      obtain ⟨action, haction⟩ := Permissions.mem_grantees.mp hrole
      exact proper_of_granted (bare_of_queryWords hwords) ((hgranted action role).mp haction)
    have hallows := Permissions.readBack_allows_iff hroles
    simp only [hgranted, Permissions.mem_grantees] at hallows
    refine hallows.trans (forall_congr' fun role => ?_)
    exact ⟨fun h action hgrant => h ⟨action, hgrant⟩, fun h ⟨action, hgrant⟩ => h action hgrant⟩

/-- **A created table lets everybody do what was granted to them exactly if nothing was granted to a role
with an equals sign in it.** This holds of a store in memory and of a folder of files, whatever they
hold. -/
theorem created_grants_kept (caller : Caller) {text : String} {q : CreateTable}
    (h : Command.ofText text = .ok (.create q)) :
    (∀ e : Engine Memory, e.KeepsGrants caller text q) ∧
      ∀ e : Engine Directory, e.KeepsGrants caller text q :=
  ⟨fun e => e.keepsGrants_of_storage caller h, fun e => e.keepsGrants_of_storage caller h⟩

theorem created_grants_kept_guests :
    let caller : Caller := ⟨"asep", superRole, "kantor"⟩
    let text := "DAMEL t a:INT --write=admin --READ=tamu, --write=juru,tamu"
    let words := ["DAMEL", "t", "a:INT", "--write=admin", "--READ=tamu,", "--write=juru,tamu"]
    ∃ d, (Storage.snapshot ((ofStore Memory.empty).execute caller text).2.store "kantor").load "t" =
        .ok d ∧
      ∀ role ≠ superRole, ∀ action,
        d.permissions.allows role action = true ↔ Granted words action role := by
  intro caller text words
  let q : CreateTable := ⟨"t", "a:INT", flagPermissions words⟩
  have hparsed : Command.ofText text = .ok (.create q) := by decide +kernel
  have haccepted : ((ofStore Memory.empty).execute caller text).1 = .ok (.created "t") := by
    rw [execute_of_ofText hparsed]
    decide +kernel
  have hasked : Column.listOfText q.columns = .ok [Column.plain "a" .int] := by decide +kernel
  have hsplit : queryWords text = .ok words := by decide +kernel
  have hnames : ∀ action : Action, ∀ role ∈
      ((flagRoles? action.flag words).getD (Permissions.standard.roles action)).names,
      '=' ∉ role.toList := by
    intro action
    cases action <;> decide +kernel
  obtain ⟨_, columns, hwords, hcolumns, hloads, hkeeps⟩ :=
    (created_grants_kept caller hparsed).1 (ofStore Memory.empty) _ haccepted
  cases hsplit.symm.trans hwords
  cases hasked.symm.trans hcolumns
  obtain ⟨d, hd⟩ := hloads (by decide)
  exact ⟨d, hd, (hkeeps d hd).mpr fun role action h => hnames action role (granted_iff.mp h)⟩

/-- A role with an equals sign in it is cut: it loses what was granted to it, and what stands before the
sign gains it. -/
theorem created_grant_moved :
    let caller : Caller := ⟨"asep", superRole, "kantor"⟩
    let text := "DAMEL t a:INT --read=user=1 --write=user=1"
    let words := ["DAMEL", "t", "a:INT", "--read=user=1", "--write=user=1"]
    queryWords text = .ok words ∧ ((ofStore Memory.empty).execute caller text).1 = .ok (.created "t") ∧
      ∃ d, (Storage.snapshot ((ofStore Memory.empty).execute caller text).2.store "kantor").load "t" =
          .ok d ∧
        d.permissions.allows "user" .write = true ∧ ¬Granted words .write "user" ∧
        d.permissions.allows "user=1" .write = false ∧ Granted words .write "user=1" := by
  intro caller text words
  let d : Definition := ⟨"t", [Column.plain "a" .int], Permissions.nobody.grant .write ["user"]⟩
  refine ⟨?_, ?_, d, ?_, ?_, ?_, ?_, ?_⟩ <;> decide +kernel

end Engine

end Leuit
