import Leuit.CommandLine.Run
import Leuit.Proofs.OpenFolders

/-! What lines of input do to a session. A line leaves its user and role alone, and changes its database only
to one that is there (`Console.Session.handleLine_caller`). It changes files if it is a query, makes a
database if it is the command for it and the role is that of an administrator, and else leaves the store
alone (`Console.Session.handleLine_store`). So whatever lines a session handles, nothing that is listed is
lost, nobody else makes a database, and no command of the shell touches a table
(`Console.Session.lines_confined`). Nor does an error end it; what ends the program in its midst is a query whose
rows cannot be sorted. -/
namespace Leuit.Console

/-- The command of the shell that a line is, if it starts with a point. -/
def shellCommand? (line : String) : Option ShellCommand :=
  if (Text.trim line).toList.head? = some '.' then some (.ofLine (Text.trim line)) else none

namespace Session
variable {s : Session} {line : String} {base : Place}

/-- The session after lines of input, whatever they do. -/
def afterLines (s : Session) (lines : List String) : Session :=
  lines.foldl (fun s line => (s.handleLine line).2) s

theorem afterLines_concat (s : Session) (lines : List String) (line : String) :
    s.afterLines (lines ++ [line]) = ((s.afterLines lines).handleLine line).2 :=
  List.foldl_concat ..

/-- The sessions that the program opens are in open data folders. -/
theorem opened_of_openSession {files after : FileTree} {settings : Settings} {json colored : Bool}
    (h : files.Sound) (hopen : CommandLine.openSession files settings json colored = (.ok s, after)) :
    ∃ base, s.engine.store.Opened base := by
  unfold CommandLine.openSession at hopen
  rcases hd : Directory.openAt files ⟨settings.dataFolder⟩ with ⟨fault | _, d⟩
  · rw [hd] at hopen
    cases hopen
  · obtain ⟨base, hbase⟩ := Directory.openAt_eq_ok h hd
    rw [hd] at hopen
    dsimp only at hopen
    have hmade := hbase.ensureDatabase settings.database
    rcases he : d.ensureDatabase settings.database with ⟨fault | _, d'⟩
    · rw [he] at hopen
      cases hopen
    · rw [he] at hopen hmade
      cases hopen
      exact ⟨base, hmade⟩

/-! ### Lines -/

theorem command_use (s : Session) (database : String) :
    s.command (.use database) = (.output (s.useDatabase database).1, (s.useDatabase database).2) := rfl

theorem handleLine_of_command {c : ShellCommand} (h : shellCommand? line = some c) :
    s.handleLine line = s.command c := by
  unfold shellCommand? at h
  split at h
  · next hpoint =>
    obtain rfl := Option.some.inj h
    have hne : Text.trim line ≠ "" := by
      intro hempty
      simp [hempty] at hpoint
    simp only [handleLine, hne, hpoint, if_true, if_false]
  · cases h

/-- A line that is no command is a query, unless it is blank. -/
theorem handleLine_of_query (h : shellCommand? line = none) :
    s.handleLine line = (.output "", s) ∧ Text.trim line = "" ∨
      Text.trim line ≠ "" ∧ (s.handleLine line).2 =
          { s with engine := (s.engine.execute s.caller (Text.trim line)).2 } ∧
        (∀ e, (s.engine.execute s.caller (Text.trim line)).1 = .error e → e ≠ .aborted →
          (s.handleLine line).1 = .output (s.errorText e.message)) ∧
        ∀ message, (s.handleLine line).1 = .abort message →
          (s.engine.execute s.caller (Text.trim line)).1 = .error .aborted := by
  unfold shellCommand? at h
  split at h
  · cases h
  · next hpoint =>
    by_cases hempty : Text.trim line = ""
    · exact .inl ⟨by simp only [handleLine, hempty, if_true], hempty⟩
    · refine .inr ⟨hempty, ?_⟩
      simp only [handleLine, hempty, hpoint, if_false, query]
      refine ⟨trivial, fun e he hgoes => ?_, fun message habort => ?_⟩
      · rw [he]
        cases e <;> first | rfl | exact absurd rfl hgoes
      · rcases hanswer : (s.engine.execute s.caller (Text.trim line)).1 with e | answer
        · rw [hanswer] at habort
          cases e <;> first | rfl | cases habort
        · rw [hanswer] at habort
          cases habort

/-- A line leaves the caller alone, or takes it to another database that is there. -/
theorem handleLine_caller (s : Session) (line : String) :
    (s.handleLine line).2.caller = s.caller ∨
      ∃ database, shellCommand? line = some (.use database) ∧
        s.engine.store.requireDatabase database = .ok () ∧
        (s.handleLine line).2.caller = s.caller.withDatabase database := by
  cases hc : shellCommand? line with
  | none =>
    rcases handleLine_of_query hc with ⟨hblank, -⟩ | ⟨-, hafter, -⟩
    · exact .inl (by rw [hblank])
    · exact .inl (by rw [hafter])
  | some c =>
    rw [handleLine_of_command hc]
    cases c with
    | use database =>
      rw [command_use, useDatabase]
      cases hr : s.engine.store.requireDatabase database with
      | error e => exact .inl rfl
      | ok u => exact .inr ⟨database, rfl, hr, rfl⟩
    | _ => exact .inl rfl

/-- A query changes files, an administrator may make a database, and other lines leave the store alone. -/
theorem handleLine_store (h : s.engine.store.Opened base) (line : String) :
    s.engine.store.FilesOnly (s.handleLine line).2.engine.store ∧
        ((shellCommand? line).isSome → (s.handleLine line).2.engine.store = s.engine.store) ∨
      ∃ name, shellCommand? line = some (.createDatabase name) ∧
        (s.caller.role = adminRole ∨ s.caller.role = superRole) ∧
        s.engine.store.tree.node? (Directory.placeOf base name) = none ∧
        (s.handleLine line).2.engine.store = { s.engine.store with
          tree := s.engine.store.tree.put (Directory.placeOf base name) .folder } := by
  cases hc : shellCommand? line with
  | none =>
    refine .inl ⟨?_, nofun⟩
    rcases handleLine_of_query hc with ⟨hblank, -⟩ | ⟨-, hafter, -⟩
    · rw [hblank]
      exact .refl _
    · rw [hafter]
      dsimp only
      exact s.engine.execute_filesOnly s.caller (Text.trim line)
  | some c =>
    have hsame : (s.command c).2.engine.store = s.engine.store →
        s.engine.store.FilesOnly (s.command c).2.engine.store ∧
          ((some c).isSome → (s.command c).2.engine.store = s.engine.store) := fun hsame =>
      ⟨hsame ▸ .refl _, fun _ => hsame⟩
    rw [handleLine_of_command hc]
    cases c with
    | use database =>
      refine .inl (hsame ?_)
      rw [command_use, useDatabase]
      cases s.engine.store.requireDatabase database <;> rfl
    | createDatabase name =>
      rcases h.createDatabase_cases s.caller.role name with hkept | ⟨hrole, hfree, hmade⟩
      · exact .inl (hsame hkept)
      · exact .inr ⟨name, rfl, hrole, hfree, congrArg Prod.snd hmade⟩
    | _ => exact .inl (hsame rfl)

theorem handleLine_opened (h : s.engine.store.Opened base) (line : String) :
    (s.handleLine line).2.engine.store.Opened base := by
  rcases handleLine_store h line with ⟨hfiles, -⟩ | ⟨name, -, -, hfree, hmade⟩
  · exact h.of_filesOnly hfiles
  · rw [hmade]
    exact h.put hfree

theorem afterLines_opened (h : s.engine.store.Opened base) (lines : List String) :
    (s.afterLines lines).engine.store.Opened base := by
  induction lines generalizing s with
  | nil => exact h
  | cons line rest ih => exact ih (handleLine_opened h line)

/-! ### Errors -/

/-- The error of an operation, as it is shown. -/
def shownFault? {ε α : Type} (s : Session) (message : ε → String) : Except ε α → Option String
  | .error e => some (s.errorText (message e))
  | .ok _ => none

/-- The error that a line produces, as it is shown. A query at which the program stops produces none. -/
def lineFault? (s : Session) (line : String) : Option String :=
  match shellCommand? line with
  | none =>
    if Text.trim line = "" then none
    else
      match (s.engine.execute s.caller (Text.trim line)).1 with
      | .error .aborted => none
      | answer => s.shownFault? QueryError.message answer
  | some (.use database) => s.shownFault? DatabaseError.message (s.engine.store.requireDatabase database)
  | some .tables => s.shownFault? QueryError.message (s.engine.store.tables s.caller.database)
  | some .databases => s.shownFault? DatabaseError.message s.engine.store.databases
  | some (.createDatabase name) =>
    s.shownFault? DatabaseError.message (s.engine.store.createDatabase s.caller.role name).1
  | some _ => none

/-- A line that produces an error shows it, and the session goes on as the same caller. -/
theorem handleLine_of_fault {shown : String} (h : s.lineFault? line = some shown) :
    (s.handleLine line).1 = .output shown ∧ (s.handleLine line).2.caller = s.caller := by
  have hfault : ∀ {ε α : Type} {message : ε → String} {outcome : Except ε α},
      s.shownFault? message outcome = some shown → ∃ e, outcome = .error e ∧ s.errorText (message e) = shown := by
    intro ε α message outcome hshown
    cases outcome with
    | error e => exact ⟨e, rfl, Option.some.inj hshown⟩
    | ok a => cases hshown
  unfold lineFault? at h
  cases hc : shellCommand? line with
  | none =>
    rw [hc] at h
    rcases handleLine_of_query hc with ⟨-, hblank⟩ | ⟨hne, hafter, hshown, -⟩
    · simp [hblank] at h
    · dsimp only at h
      rw [if_neg hne] at h
      split at h
      · cases h
      · next hgoes =>
        obtain ⟨e, he, rfl⟩ := hfault h
        exact ⟨hshown e he fun habort => hgoes (habort ▸ he), by rw [hafter]⟩
  | some c =>
    rw [hc] at h
    rw [handleLine_of_command hc]
    cases c with
    | use database =>
      obtain ⟨e, he, rfl⟩ := hfault h
      simp only [command, useDatabase, he, and_self]
    | tables =>
      obtain ⟨e, he, rfl⟩ := hfault h
      simp only [command, tableList, he, and_self]
    | databases =>
      obtain ⟨e, he, rfl⟩ := hfault h
      simp only [command, databaseList, he, and_self]
    | createDatabase name =>
      obtain ⟨e, he, rfl⟩ := hfault h
      simp only [command, createDatabase, he, and_self]
    | _ => cases h

theorem handleLine_of_abort {message : String} (h : (s.handleLine line).1 = .abort message) :
    shellCommand? line = none ∧ (s.engine.execute s.caller (Text.trim line)).1 = .error .aborted := by
  cases hc : shellCommand? line with
  | none =>
    rcases handleLine_of_query hc with ⟨hblank, -⟩ | ⟨-, -, -, habort⟩
    · rw [hblank] at h
      cases h
    · exact ⟨rfl, habort message h⟩
  | some c =>
    rw [handleLine_of_command hc] at h
    cases c <;> cases h

/-! ### Whole sessions -/

/-- What a line may not do to a session. -/
structure LineConfined (s : Session) (line : String) : Prop where
  username : (s.handleLine line).2.caller.username = s.caller.username
  role : (s.handleLine line).2.caller.role = s.caller.role
  /-- The list of databases can still be made if it could, and loses no name. -/
  kept : ∀ names, s.engine.store.databases = .ok names →
    ∃ names', (s.handleLine line).2.engine.store.databases = .ok names' ∧ names ⊆ names'
  /-- A name is gained by the command for it and as an administrator. -/
  gained : ∀ name, (s.handleLine line).2.engine.store.Lists name → ¬s.engine.store.Lists name →
    shellCommand? line = some (.createDatabase name) ∧
      (s.caller.role = adminRole ∨ s.caller.role = superRole)
  /-- A command of the shell leaves all tables alone. -/
  tables : (shellCommand? line).isSome → s.engine.store.SameTables (s.handleLine line).2.engine.store
  /-- A line with an error shows it and leaves the caller alone. -/
  failed : ∀ shown, s.lineFault? line = some shown →
    (s.handleLine line).1 = .output shown ∧ (s.handleLine line).2.caller = s.caller
  /-- The program stops at nothing but a query that is cut short. -/
  stopped : ∀ message, (s.handleLine line).1 = .abort message →
    shellCommand? line = none ∧ (s.engine.execute s.caller (Text.trim line)).1 = .error .aborted
  /-- A command that is not known, or lacks what it is about, does nothing. -/
  idle : (∃ usage, shellCommand? line = some (.incomplete usage)) ∨
      (∃ name, shellCommand? line = some (.unknown name)) →
    ∃ shown, s.handleLine line = (.output shown, s)

theorem handleLine_confined (h : s.engine.store.Opened base) (line : String) : s.LineConfined line := by
  have hidentity : (s.handleLine line).2.caller.username = s.caller.username ∧
      (s.handleLine line).2.caller.role = s.caller.role := by
    rcases s.handleLine_caller line with hsame | ⟨database, -, -, hafter⟩
    · rw [hsame]
      exact ⟨rfl, rfl⟩
    · rw [hafter]
      exact ⟨rfl, rfl⟩
  have hopened := handleLine_opened h line
  refine ⟨hidentity.1, hidentity.2, fun names hnames => ?kept, fun name hafter hbefore => ?gained,
    fun hcommand => ?tables, fun shown => handleLine_of_fault, fun message => handleLine_of_abort, ?idle⟩
  case kept =>
    rcases handleLine_store h line with ⟨hfiles, -⟩ | ⟨name, -, -, hfree, hmade⟩
    · exact h.databases_subset hopened hfiles.root hfiles.tree.keepsFolders hnames
    · rw [hmade] at hopened ⊢
      exact h.databases_subset hopened rfl (.put .folder (by rw [hfree]; simp)) hnames
  case gained =>
    rcases handleLine_store h line with ⟨hfiles, -⟩ | ⟨made, hline, hrole, hfree, hmade⟩
    · exact absurd ((hfiles.lists_iff h).mp hafter) hbefore
    · rw [hmade, h.lists_put hfree] at hafter
      obtain ⟨-, rfl⟩ := hafter.resolve_left hbefore
      exact ⟨hline, hrole⟩
  case tables =>
    rcases handleLine_store h line with ⟨-, hsame⟩ | ⟨name, -, -, hfree, hmade⟩
    · rw [hsame hcommand]
      exact .refl _
    · rw [hmade]
      exact h.sameTables_put hfree
  case idle =>
    rintro (⟨usage, hline⟩ | ⟨name, hline⟩) <;> rw [handleLine_of_command hline] <;> exact ⟨_, rfl⟩

/-- What lines may not do to a session, on the whole and one by one. -/
structure Confined (s : Session) (lines : List String) : Prop where
  username : (s.afterLines lines).caller.username = s.caller.username
  role : (s.afterLines lines).caller.role = s.caller.role
  kept : ∀ names, s.engine.store.databases = .ok names →
    ∃ names', (s.afterLines lines).engine.store.databases = .ok names' ∧ names ⊆ names'
  gained : ∀ name, (s.afterLines lines).engine.store.Lists name → ¬s.engine.store.Lists name →
    (∃ line ∈ lines, shellCommand? line = some (.createDatabase name)) ∧
      (s.caller.role = adminRole ∨ s.caller.role = superRole)
  /-- Each line is confined in the session that it meets. -/
  lines : ∀ before line after, lines = before ++ line :: after → (s.afterLines before).LineConfined line

/-- **A session cannot raise its own privileges**, whatever lines it handles. -/
theorem lines_confined (s : Session) (h : ∃ base, s.engine.store.Opened base) (lines : List String) :
    s.Confined lines := by
  obtain ⟨base, h⟩ := h
  have hline : ∀ before line, (s.afterLines before).LineConfined line := fun before line =>
    handleLine_confined (afterLines_opened h before) line
  -- The last line meets the session that the lines before it leave.
  induction lines using List.reverseRecOn with
  | nil =>
    exact ⟨rfl, rfl, fun names hnames => ⟨names, hnames, fun _ => id⟩,
      fun name hafter hbefore => absurd hafter hbefore, fun before line _ _ => hline before line⟩
  | append_singleton before line ih =>
    have hlast := hline before line
    have hstep : s.afterLines (before ++ [line]) = ((s.afterLines before).handleLine line).2 :=
      afterLines_concat ..
    refine ⟨?username, ?role, fun names hnames => ?kept, fun name hafter hbefore => ?gained,
      fun before line _ _ => hline before line⟩
    case username => rw [hstep, hlast.username, ih.username]
    case role => rw [hstep, hlast.role, ih.role]
    case kept =>
      obtain ⟨names', hnames', hsubset⟩ := ih.kept names hnames
      obtain ⟨names'', hnames'', hsubset'⟩ := hlast.kept names' hnames'
      exact ⟨names'', by rw [hstep, hnames''], List.Subset.trans hsubset hsubset'⟩
    case gained =>
      rw [hstep] at hafter
      by_cases hthere : (s.afterLines before).engine.store.Lists name
      · obtain ⟨⟨made, hmem, hmade⟩, hrole⟩ := ih.gained name hthere hbefore
        exact ⟨⟨made, List.mem_append_left _ hmem, hmade⟩, hrole⟩
      · obtain ⟨hmade, hrole⟩ := hlast.gained name hafter hthere
        rw [ih.role] at hrole
        exact ⟨⟨line, List.mem_append_right _ List.mem_cons_self, hmade⟩, hrole⟩

/-- A data folder that was just made, with one database. -/
def fresh : Directory := ((Directory.openAt .empty ⟨"data"⟩).2.ensureDatabase "default").2

theorem lines_confined_admin :
    let settings : Settings := ⟨"data", "default", "asep", adminRole, ""⟩
    let s : Session := ⟨.ofStore fresh, ⟨"asep", adminRole, "default"⟩, false, false⟩
    let lines := [".createdb kantor", ".use kantor", "DAMEL t id:INT", "SIMPEN t 1", ".createdb ../luar"]
    CommandLine.openSession .empty settings false false = (.ok s, fresh.tree) ∧
      (∃ base, s.engine.store.Opened base) ∧ s.Confined lines ∧
      s.engine.store.databases = .ok ["default"] ∧
      (s.afterLines lines).engine.store.databases = .ok ["default", "kantor"] := by
  intro settings s lines
  have hfolder : Directory.openAt .empty ⟨"data"⟩ = (.ok (), (Directory.openAt .empty ⟨"data"⟩).2) :=
    Prod.ext (by decide +kernel) rfl
  have hdatabase : (Directory.openAt .empty ⟨"data"⟩).2.ensureDatabase "default" = (.ok (), fresh) :=
    Prod.ext (by decide +kernel) rfl
  have hopen : CommandLine.openSession .empty settings false false = (.ok s, fresh.tree) := by
    rw [CommandLine.openSession, show (⟨settings.dataFolder⟩ : Path) = ⟨"data"⟩ from rfl, hfolder]
    dsimp only
    rw [show settings.database = "default" from rfl, hdatabase]
  have hopened := opened_of_openSession .empty hopen
  exact ⟨hopen, hopened, lines_confined s hopened lines, by decide +kernel, by decide +kernel⟩

end Session

end Leuit.Console
