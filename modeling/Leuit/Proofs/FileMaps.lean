import Leuit.Proofs.DataFolders
import Leuit.Proofs.WrittenRecords

/-! A data folder is a map of definitions and of lists of records. Whatever edits of its databases are
called for, in any order, each table has the definition that was last stored for it (`lastDocument`) and the
records that were added and replaced since it was provisioned (`builtRecords`). What carries the argument is
that the files are a function of the calls: the file of a definition is its text, the file of records is
`Directory.recordText` of the list, and no other file stands in the folder of a database
(`Directory.Shelved`). Every call keeps this (`Directory.Shelved.step`), so every run of calls does
(`Directory.files_hold_maps`). -/
namespace Leuit

/-! ### Calls -/

/-- A call of a store: an edit in one of its databases. -/
structure Call where
  database : String
  edit : Edit
deriving DecidableEq, Repr

namespace Call

/-- Whether a call is about a table. -/
def isOf (c : Call) (database table : String) : Bool := c.database = database ∧ c.edit.table = table

/-- The definition that a call stores for a table. -/
def document? (c : Call) (database table : String) : Option String :=
  match c.edit with
  | .define _ document => if c.isOf database table then some document else none
  | _ => none

end Call

/-- The definition that calls stored last for a table. -/
def lastDocument (calls : List Call) (database table : String) : Option String :=
  (calls.filterMap (·.document? database table)).getLast?

/-- The records that calls build for a table: none before it is provisioned or its records are replaced. -/
def builtRecords (calls : List Call) (database table : String) : Option (List String) :=
  (calls.filter (·.isOf database table)).foldl (fun records c => c.edit.recordsAfter records) none

section
variable (calls : List Call) (c : Call) {database table : String}

/-- A call makes of a definition what its edit does. -/
theorem lastDocument_of_isOf (h : c.isOf database table = true) :
    lastDocument (calls ++ [c]) database table = c.edit.schemaAfter (lastDocument calls database table) := by
  rw [lastDocument, List.filterMap_append, List.getLast?_append]
  rcases hedit : c.edit with ⟨t, document⟩ | _ | _ | _ <;>
    simp [Call.document?, h, hedit, Edit.schemaAfter, lastDocument]

theorem lastDocument_of_not_isOf (h : c.isOf database table = false) :
    lastDocument (calls ++ [c]) database table = lastDocument calls database table := by
  rw [lastDocument, List.filterMap_append, List.getLast?_append]
  rcases hedit : c.edit with ⟨t, document⟩ | _ | _ | _ <;>
    simp [Call.document?, h, hedit, lastDocument]

theorem builtRecords_of_isOf (h : c.isOf database table = true) :
    builtRecords (calls ++ [c]) database table = c.edit.recordsAfter (builtRecords calls database table) := by
  rw [builtRecords, List.filter_append, List.foldl_append]
  simp [h, builtRecords]

theorem builtRecords_of_not_isOf (h : c.isOf database table = false) :
    builtRecords (calls ++ [c]) database table = builtRecords calls database table := by
  rw [builtRecords, List.filter_append, List.foldl_append]
  simp [h, builtRecords]

end

/-- The answer to a call that may be carried out. Only records can be missing, to add one to. -/
def Call.answer (c : Call) (calls : List Call) : Except QueryError Unit :=
  match c.edit, builtRecords calls c.database c.edit.table with
  | .append table _, none => .error (.notFound (.records table))
  | _, _ => .ok ()

/-- What holds of the records that were there and of those that an edit writes holds of those after it. -/
theorem Edit.forall_recordsAfter {P : String → Prop} {edit : Edit} {old : Option (List String)}
    {records : List String} (hold : ∀ rs, old = some rs → ∀ r ∈ rs, P r) (hnew : ∀ r ∈ edit.written, P r)
    (h : edit.recordsAfter old = some records) : ∀ r ∈ records, P r := by
  cases edit with
  | define table document => exact hold records h
  | provision table =>
    cases h
    cases old with
    | none => exact fun r hr => absurd hr List.not_mem_nil
    | some rs => exact hold rs rfl
  | append table record =>
    obtain ⟨rs, hrs, rfl⟩ := Option.map_eq_some_iff.mp h
    intro r hr
    rcases List.mem_append.mp hr with hr | hr
    · exact hold rs hrs r hr
    · exact hnew r hr
  | replace table rs =>
    cases h
    exact hnew

namespace Directory
variable {d : Directory} {base : Place} {databases : List String} {calls : List Call}
  {database table : String}

/-- What a record needs to have a line of its own: it is one line, and not a blank one. -/
structure Lined (record : String) : Prop where
  line : Text.Line record
  filled : Text.allBlank record = false

/-- A call may be carried out in files: its table has a name that files may have, if it is a name at all,
and the records that it writes are lines. -/
structure Fits (d : Directory) (c : Call) : Prop where
  name : d.check c.database = .ok () → Definition.nameAllowed c.edit.table = true →
    d.Nameable c.database c.edit.table
  records : ∀ record ∈ c.edit.written, Lined record

/-- The data folder after calls, whether they succeed or not. -/
def perform (d : Directory) (calls : List Call) : Directory :=
  calls.foldl (fun d c => (d.edit c.database c.edit).2) d

/-! ### Texts of records -/

/-- A record that is added to a list is added to its text. -/
theorem recordText_concat {records : List String} {record : String} (hall : ∀ r ∈ records, Lined r)
    (h : Lined record) : recordText (records ++ [record]) = recordText records ++ (record ++ "\n") := by
  have hne : ∀ r, Lined r → r ≠ "" := by
    rintro _ hr rfl
    cases hr.filled
  by_cases hnil : records = []
  · subst hnil
    rw [List.nil_append, recordText_of_intercalate]
    · rw [String.intercalate_singleton]
      rfl
    · rw [String.intercalate_singleton]
      exact hne record h
  · have hfilled : "\n".intercalate records ≠ "" := by
      rw [Ne, intercalate_eq_empty, not_or]
      refine ⟨hnil, ?_⟩
      rintro rfl
      exact hne "" (hall "" List.mem_cons_self) rfl
    have hconcat : "\n".intercalate (records ++ [record]) = "\n".intercalate records ++ "\n" ++ record := by
      rw [String.intercalate_append_of_ne_nil hnil (List.cons_ne_nil _ _), String.intercalate_singleton]
    rw [recordText_of_intercalate hfilled, recordText_of_intercalate, hconcat]
    · simp only [String.append_assoc]
    · rw [hconcat]
      intro hempty
      simp at hempty

/-- The records that calls build are lines, if all that they write are. -/
theorem lined_builtRecords (hfits : ∀ c ∈ calls, ∀ record ∈ c.edit.written, Lined record)
    {records : List String} (h : builtRecords calls database table = some records) :
    ∀ record ∈ records, Lined record := by
  induction calls using List.reverseRecOn generalizing records with
  | nil => cases h
  | append_singleton calls c ih =>
    have hold := fun records => @ih (fun c hc => hfits c (List.mem_append_left _ hc)) records
    have hnew := hfits c (List.mem_append_right _ List.mem_cons_self)
    cases hof : c.isOf database table with
    | false =>
      rw [builtRecords_of_not_isOf calls c hof] at h
      exact hold records h
    | true =>
      rw [builtRecords_of_isOf calls c hof] at h
      exact Edit.forall_recordsAfter hold hnew h

/-! ### What stands in the data folder -/

/-- A data folder after calls: in the folder of each database there are the files of its definitions and of
its records, with the texts that the calls make of them, and no others. -/
structure Shelved (d : Directory) (base : Place) (databases : List String) (calls : List Call) : Prop where
  stocked : d.Stocked base databases
  schema : ∀ database ∈ databases, d.Roomy database → ∀ table, Definition.nameAllowed table = true →
    d.tree.node? (placeOf base database ++ [fileName table schemaExtension]) =
      (lastDocument calls database table).map (.file ·)
  records : ∀ database ∈ databases, d.Roomy database → ∀ table, Definition.nameAllowed table = true →
    d.tree.node? (placeOf base database ++ [fileName table recordExtension]) =
      (builtRecords calls database table).map fun records => .file (recordText records)
  others : ∀ database ∈ databases, d.Roomy database → ∀ name,
    d.tree.node? (placeOf base database ++ [name]) ≠ none →
      ∃ table extension, Definition.nameAllowed table = true ∧ name = fileName table extension ∧
        (extension = schemaExtension ∨ extension = recordExtension)

/-- Nothing in the folder of a database is one of the folders that always exist. -/
theorem node?_inFolder {t : FileTree} (hallowed : Definition.nameAllowed database = true) (name : String) :
    t.node? (placeOf base database ++ [name]) = t.nodes.get? (placeOf base database ++ [name]) := by
  obtain ⟨-, -, -, hup, -⟩ := folderName_ne hallowed
  have habove : FileTree.isAbove (placeOf base database ++ [name]) = false := by
    simp [FileTree.isAbove, hup]
  have htop : placeOf base database ++ [name] ≠ FileTree.topmost := by
    intro heq
    have hlen := congrArg List.length heq
    simp [FileTree.topmost] at hlen
  rw [FileTree.node?, if_neg]
  simpa only [habove, Bool.false_or, decide_eq_true_eq] using htop

/-- Places in the folders of databases are apart. -/
theorem placeOf_inj {a b name name' : String} :
    placeOf base a ++ [name] = placeOf base b ++ [name'] ↔ a = b ∧ name = name' := by
  rw [List.append_assoc, List.append_assoc, List.append_cancel_left_eq]
  simp

/-- Databases that were made in an empty data folder are empty. -/
theorem Vacant.shelved (h : d.Vacant base) (databases : List String) :
    (d.withDatabases databases).Shelved base databases [] := by
  obtain ⟨hroot, hstocked, hothers⟩ := h.stocked databases
  have hempty : ∀ database, (d.withDatabases databases).Roomy database → ∀ name,
      (d.withDatabases databases).tree.node? (placeOf base database ++ [name]) = none := by
    intro database hroomy name
    rw [hothers, node?_inFolder hroomy.allowed, List.append_assoc]
    · exact h.nothing _ (List.cons_ne_nil _ _)
    · intro other heq
      have hlen := congrArg List.length heq
      simp at hlen
  exact ⟨hstocked, fun _ _ hroomy _ _ => hempty _ hroomy _, fun _ _ hroomy _ _ => hempty _ hroomy _,
    fun _ _ hroomy name hnode => absurd (hempty _ hroomy name) hnode⟩

namespace Shelved

/-- No temporary file is left. -/
theorem temporary (h : d.Shelved base databases calls) (hmem : database ∈ databases)
    (hroomy : d.Roomy database) (table : String) :
    d.tree.node? (placeOf base database ++ [fileName table temporaryExtension]) = none := by
  by_contra hnode
  obtain ⟨other, extension, -, hname, hext⟩ := h.others _ hmem hroomy _ hnode
  have hmem' : extension ∈ extensions := by rcases hext with rfl | rfl <;> decide
  have hsame := ((fileName_inj (by decide) hmem').mp hname).2
  rcases hext with rfl | rfl <;> exact absurd hsame (by decide)

/-! ### One call -/

/-- It is enough to look at the table that a call is about, if no files but its own are touched. -/
theorem of_table (h : d.Shelved base databases calls) {c : Call} {tree : FileTree}
    (hallowed : Definition.nameAllowed c.edit.table = true) (hkeep : d.tree.KeepsFolders tree)
    (hothers : ∀ place, (∀ extension ∈ extensions,
      place ≠ placeOf base c.database ++ [fileName c.edit.table extension]) →
        tree.node? place = d.tree.node? place)
    (hschema : tree.node? (placeOf base c.database ++ [fileName c.edit.table schemaExtension]) =
      (c.edit.schemaAfter (lastDocument calls c.database c.edit.table)).map (.file ·))
    (hrecords : tree.node? (placeOf base c.database ++ [fileName c.edit.table recordExtension]) =
      (c.edit.recordsAfter (builtRecords calls c.database c.edit.table)).map
        fun records => .file (recordText records))
    (htemporary : tree.node? (placeOf base c.database ++
      [fileName c.edit.table temporaryExtension]) = none) :
    ({ d with tree } : Directory).Shelved base databases (calls ++ [c]) := by
  have hroomy' : ∀ {database}, ({ d with tree } : Directory).Roomy database → d.Roomy database :=
    fun h => h.of_root rfl
  -- The files of another table are those that they were.
  have hapart : ∀ database table, c.isOf database table = false → ∀ extension ∈ extensions,
      tree.node? (placeOf base database ++ [fileName table extension]) =
        d.tree.node? (placeOf base database ++ [fileName table extension]) := by
    intro database table hof extension he
    refine hothers _ fun extension' he' heq => ?_
    obtain ⟨hdatabase, hname⟩ := placeOf_inj.mp heq
    have htable := ((fileName_inj he he').mp hname).1
    simp [Call.isOf, hdatabase, htable] at hof
  refine ⟨?stocked, fun database hmem' hr table ht => ?schema, fun database hmem' hr table ht => ?records,
    fun database hmem' hr name hname => ?others⟩
  case stocked =>
    have hfolders : ∀ database, tree.node? (placeOf base database) = d.tree.node? (placeOf base database) := by
      intro database
      refine hothers _ fun extension _ heq => ?_
      have hlen := congrArg List.length heq
      simp at hlen
    exact ⟨hkeep.locate h.stocked.located, hkeep _ h.stocked.folder,
      fun database hr hmem' => (hfolders database).trans (h.stocked.made _ (hroomy' hr) hmem'),
      fun database hr hmem' => (hfolders database).trans (h.stocked.missing _ (hroomy' hr) hmem')⟩
  case schema =>
    cases hof : c.isOf database table with
    | true =>
      obtain ⟨rfl, rfl⟩ : c.database = database ∧ c.edit.table = table := by simpa [Call.isOf] using hof
      rw [lastDocument_of_isOf calls c hof]
      exact hschema
    | false =>
      rw [lastDocument_of_not_isOf calls c hof, ← h.schema database hmem' (hroomy' hr) table ht]
      exact hapart database table hof _ (by decide)
  case records =>
    cases hof : c.isOf database table with
    | true =>
      obtain ⟨rfl, rfl⟩ : c.database = database ∧ c.edit.table = table := by simpa [Call.isOf] using hof
      rw [builtRecords_of_isOf calls c hof]
      exact hrecords
    | false =>
      rw [builtRecords_of_not_isOf calls c hof, ← h.records database hmem' (hroomy' hr) table ht]
      exact hapart database table hof _ (by decide)
  case others =>
    by_cases htouched : ∃ extension ∈ extensions,
        placeOf base database ++ [name] = placeOf base c.database ++ [fileName c.edit.table extension]
    · obtain ⟨extension, he, heq⟩ := htouched
      obtain ⟨rfl, rfl⟩ := placeOf_inj.mp heq
      refine ⟨c.edit.table, extension, hallowed, rfl, ?_⟩
      have hcases : ∀ e ∈ extensions, e = schemaExtension ∨ e = recordExtension ∨ e = temporaryExtension := by
        decide
      rcases hcases _ he with rfl | rfl | rfl
      · exact .inl rfl
      · exact .inr rfl
      · exact absurd htemporary hname
    · refine h.others database hmem' (hroomy' hr) name ?_
      rw [← hothers _ fun extension he heq => htouched ⟨extension, he, heq⟩]
      exact hname

/-- A call that is refused leaves all as it was. -/
theorem refused (h : d.Shelved base databases calls) {c : Call}
    (hrefused : d.checkTable c.database c.edit.table ≠ .ok ()) :
    (∃ fault, d.edit c.database c.edit = (.error fault, d)) ∧ d.Shelved base databases (calls ++ [c]) := by
  have hother : ∀ database ∈ databases, d.Roomy database → ∀ table, Definition.nameAllowed table = true →
      c.isOf database table = false := by
    intro database hmem hroomy table ht
    by_contra hof
    obtain ⟨rfl, rfl⟩ : c.database = database ∧ c.edit.table = table := by simpa [Call.isOf] using hof
    exact hrefused ((h.stocked.at_made hroomy hmem).checkTable ht)
  refine ⟨?_, h.stocked, fun database hmem hroomy table ht => ?_, fun database hmem hroomy table ht => ?_,
    h.others⟩
  · cases hcheck : d.checkTable c.database c.edit.table with
    | ok u => exact absurd hcheck hrefused
    | error fault => exact ⟨fault, by rw [edit, hcheck]⟩
  · rw [lastDocument_of_not_isOf calls c (hother database hmem hroomy table ht)]
    exact h.schema database hmem hroomy table ht
  · rw [builtRecords_of_not_isOf calls c (hother database hmem hroomy table ht)]
    exact h.records database hmem hroomy table ht

/-! ### Edits that are carried out -/

section
variable (h : d.Shelved base databases calls) (hroomy : d.Roomy database) (hmem : database ∈ databases)
  (hn : d.Nameable database table)
include h hroomy hmem hn

theorem define (document : String) :
    (d.edit database (.define table document)).1 = .ok () ∧
      (d.edit database (.define table document)).2.Shelved base databases
        (calls ++ [⟨database, .define table document⟩]) := by
  obtain ⟨tree, hedit, hkeep, hnodes⟩ := (h.stocked.at_made hroomy hmem).edit_define hn document
    (by rw [FileTree.barrier?, h.temporary hmem hroomy]; rfl) (by rw [h.schema _ hmem hroomy _ hn.allowed]; simp)
  rw [hedit]
  refine ⟨rfl, h.of_table hn.allowed hkeep (fun p hp => ?_) ?_ ?_ ?_⟩
  · rw [hnodes]
    exact (if_neg (hp _ (by decide))).trans (if_neg (hp _ (by decide)))
  · rw [hnodes]
    exact if_pos rfl
  · rw [hnodes]
    refine (if_neg (place_ne (by decide) (by decide) (by decide))).trans
      ((if_neg (place_ne (by decide) (by decide) (by decide))).trans ?_)
    exact h.records _ hmem hroomy _ hn.allowed
  · rw [hnodes]
    exact (if_neg (place_ne (by decide) (by decide) (by decide))).trans (if_pos rfl)

theorem provision :
    (d.edit database (.provision table)).1 = .ok () ∧
      (d.edit database (.provision table)).2.Shelved base databases
        (calls ++ [⟨database, .provision table⟩]) := by
  have hrecords := h.records _ hmem hroomy _ hn.allowed
  obtain ⟨tree, hedit, hkeep, hnodes⟩ := (h.stocked.at_made hroomy hmem).edit_provision hn
    (by rw [FileTree.barrier?, hrecords]; cases builtRecords calls database table <;> rfl)
  rw [hedit]
  refine ⟨rfl, h.of_table hn.allowed hkeep (fun p hp => ?_) ?_ ?_ ?_⟩
  · rw [hnodes]
    exact if_neg (hp _ (by decide))
  · rw [hnodes]
    exact (if_neg (place_ne (by decide) (by decide) (by decide))).trans
      (h.schema _ hmem hroomy _ hn.allowed)
  · rw [hnodes]
    refine (if_pos rfl).trans ?_
    show some ((d.tree.node? (placeOf base database ++ [fileName table recordExtension])).getD (.file "")) =
      (some ((builtRecords calls database table).getD [])).map fun records => .file (recordText records)
    rw [hrecords]
    cases builtRecords calls database table <;> rfl
  · rw [hnodes]
    exact (if_neg (place_ne (by decide) (by decide) (by decide))).trans (h.temporary hmem hroomy _)

theorem append {records : List String} {record : String}
    (hbuilt : builtRecords calls database table = some records) (hall : ∀ r ∈ records, Lined r)
    (hrecord : Lined record) :
    (d.edit database (.append table record)).1 = .ok () ∧
      (d.edit database (.append table record)).2.Shelved base databases
        (calls ++ [⟨database, .append table record⟩]) := by
  have hrecords := h.records _ hmem hroomy _ hn.allowed
  rw [hbuilt] at hrecords
  obtain ⟨tree, hedit, hkeep, hnodes⟩ := (h.stocked.at_made hroomy hmem).edit_append hn record hrecords
  rw [hedit]
  refine ⟨rfl, h.of_table hn.allowed hkeep (fun p hp => ?_) ?_ ?_ ?_⟩
  · rw [hnodes]
    exact if_neg (hp _ (by decide))
  · rw [hnodes]
    exact (if_neg (place_ne (by decide) (by decide) (by decide))).trans
      (h.schema _ hmem hroomy _ hn.allowed)
  · rw [hnodes]
    refine (if_pos rfl).trans ?_
    show _ = ((builtRecords calls database table).map (· ++ [record])).map
      fun records => Node.file (recordText records)
    rw [hbuilt, Option.map_some, Option.map_some, recordText_concat hall hrecord]
  · rw [hnodes]
    exact (if_neg (place_ne (by decide) (by decide) (by decide))).trans (h.temporary hmem hroomy _)

/-- Nothing is added where no records are. -/
theorem append_missing {record : String} (hbuilt : builtRecords calls database table = none) :
    (d.edit database (.append table record)).1 = .error (.notFound (.records table)) ∧
      (d.edit database (.append table record)).2.Shelved base databases
        (calls ++ [⟨database, .append table record⟩]) := by
  have hhere := h.stocked.at_made hroomy hmem
  have hrecords := h.records _ hmem hroomy _ hn.allowed
  rw [hbuilt] at hrecords
  have hfiles : d.editFiles database (.append table record) = (.error .notFound, d.tree) := by
    rw [editFiles, FileTree.append, hhere.resolve_file hn (by decide)]
    dsimp only
    rw [hrecords]
    rfl
  have hcheck : d.checkTable database (Edit.append table record).table = .ok () :=
    hhere.checkTable hn.allowed
  rw [edit_of_checked hcheck, hfiles]
  refine ⟨rfl, h.of_table hn.allowed (.refl d.tree) (fun p hp => rfl) ?_ ?_ ?_⟩
  · exact h.schema _ hmem hroomy _ hn.allowed
  · show _ = ((builtRecords calls database table).map (· ++ [record])).map
      fun records => Node.file (recordText records)
    rw [hbuilt]
    exact hrecords
  · exact h.temporary hmem hroomy _

theorem replace (records : List String) :
    (d.edit database (.replace table records)).1 = .ok () ∧
      (d.edit database (.replace table records)).2.Shelved base databases
        (calls ++ [⟨database, .replace table records⟩]) := by
  obtain ⟨tree, hedit, hkeep, hnodes⟩ := (h.stocked.at_made hroomy hmem).edit_replace hn records
    (by rw [FileTree.barrier?, h.temporary hmem hroomy]; rfl) (by rw [h.records _ hmem hroomy _ hn.allowed]; simp)
  rw [hedit]
  refine ⟨rfl, h.of_table hn.allowed hkeep (fun p hp => ?_) ?_ ?_ ?_⟩
  · rw [hnodes]
    exact (if_neg (hp _ (by decide))).trans (if_neg (hp _ (by decide)))
  · rw [hnodes]
    refine (if_neg (place_ne (by decide) (by decide) (by decide))).trans
      ((if_neg (place_ne (by decide) (by decide) (by decide))).trans ?_)
    exact h.schema _ hmem hroomy _ hn.allowed
  · rw [hnodes]
    exact if_pos rfl
  · rw [hnodes]
    exact (if_neg (place_ne (by decide) (by decide) (by decide))).trans (if_pos rfl)

end

/-- A call that is accepted does to the files what its edit does to the definition and the records. -/
theorem accepted (h : d.Shelved base databases calls) {c : Call} (hcheck : d.check c.database = .ok ())
    (hn : d.Nameable c.database c.edit.table) (hwritten : ∀ record ∈ c.edit.written, Lined record)
    (hlined : ∀ records, builtRecords calls c.database c.edit.table = some records →
      ∀ record ∈ records, Lined record) :
    (d.edit c.database c.edit).1 = c.answer calls ∧
      (d.edit c.database c.edit).2.Shelved base databases (calls ++ [c]) := by
  obtain ⟨hroomy, hmem⟩ := h.stocked.check_iff.mp hcheck
  obtain ⟨database, edit⟩ := c
  cases edit with
  | define table document => exact h.define hroomy hmem hn document
  | provision table => exact h.provision hroomy hmem hn
  | append table record =>
    have hrecord : Lined record := hwritten record List.mem_cons_self
    cases hbuilt : builtRecords calls database table with
    | none =>
      rw [show Call.answer ⟨database, .append table record⟩ calls = .error (.notFound (.records table)) by
        simp [Call.answer, Edit.table, hbuilt]]
      exact h.append_missing hroomy hmem hn hbuilt
    | some records =>
      rw [show Call.answer ⟨database, .append table record⟩ calls = .ok () by
        simp [Call.answer, Edit.table, hbuilt]]
      exact h.append hroomy hmem hn hbuilt (hlined records hbuilt) hrecord
  | replace table records => exact h.replace hroomy hmem hn records

/-- A call is carried out or refused, and either way the files are what the calls make of them. -/
theorem step (h : d.Shelved base databases calls) {c : Call} (hfits : d.Fits c)
    (hwritten : ∀ c ∈ calls, ∀ record ∈ c.edit.written, Lined record) :
    (d.edit c.database c.edit).2.Shelved base databases (calls ++ [c]) := by
  by_cases hcheck : d.checkTable c.database c.edit.table = .ok ()
  · obtain ⟨hdatabase, htable⟩ := checkTable_eq_ok.mp hcheck
    exact (h.accepted hdatabase (hfits.name hdatabase htable) hfits.records
      fun records => lined_builtRecords hwritten).2
  · obtain ⟨⟨fault, hedit⟩, hshelved⟩ := h.refused hcheck
    rw [hedit]
    exact hshelved

end Shelved

/-! ### Runs -/

/-- A data folder holds what calls make of its databases. -/
structure Mapped (d : Directory) (databases : List String) (calls : List Call) : Prop where
  /-- The databases are those that were made. -/
  databases : ∀ database, d.check database = .ok () ↔ d.Roomy database ∧ database ∈ databases
  /-- A table has the definition that was stored for it last. -/
  schema : ∀ database table, d.check database = .ok () → d.Nameable database table →
    d.readSchema database table = .ok (lastDocument calls database table)
  /-- A table has the records that were built for it, once it is provisioned. -/
  records : ∀ database table, d.check database = .ok () → d.Nameable database table →
    d.readRecords database table =
      match builtRecords calls database table with
      | some records => .ok records
      | none => .error (.notFound (.records table))
  /-- The tables of a database are those with a definition, in order. -/
  tables : ∀ database, d.check database = .ok () → ∃ names, d.tables database = .ok names ∧
    names.Pairwise (· < ·) ∧ ∀ table, table ∈ names ↔
      Definition.nameAllowed table = true ∧ (lastDocument calls database table).isSome
  /-- All else that is in the folder of a database is records. No temporary file is left. -/
  files : ∀ database, d.check database = .ok () →
    ∃ entries, d.tree.list (d.folder database) = .ok entries ∧ ∀ name ∈ entries.map (·.1), ∃ table,
      name = fileName table schemaExtension ∨ name = fileName table recordExtension
  /-- A call for a name that is not allowed, or for a database that is not there, fails and changes
  nothing. -/
  refused : ∀ c : Call, d.check c.database ≠ .ok () ∨ Definition.nameAllowed c.edit.table = false →
    ∃ fault, d.edit c.database c.edit = (.error fault, d)
  /-- So does one that only reads. -/
  unread : ∀ database table, d.check database ≠ .ok () ∨ Definition.nameAllowed table = false →
    ∃ fault, d.readSchema database table = .error fault ∧ d.readRecords database table = .error fault
  unlisted : ∀ database, d.check database ≠ .ok () → ∃ fault, d.tables database = .error fault
  /-- All other calls succeed, but for those that add a record where there are none. -/
  answer : ∀ c : Call, d.check c.database = .ok () → Definition.nameAllowed c.edit.table = true →
    d.Fits c → (d.edit c.database c.edit).1 = c.answer calls

namespace Shelved

/-- Files that are what calls make of them read so. -/
theorem mapped (h : d.Shelved base databases calls)
    (hwritten : ∀ c ∈ calls, ∀ record ∈ c.edit.written, Lined record) : d.Mapped databases calls := by
  have hat : ∀ {database}, d.check database = .ok () →
      d.Roomy database ∧ database ∈ databases ∧ d.At database (placeOf base database) := fun hcheck => by
    obtain ⟨hroomy, hmem⟩ := h.stocked.check_iff.mp hcheck
    exact ⟨hroomy, hmem, h.stocked.at_made hroomy hmem⟩
  have hchecked : ∀ {database table},
      d.check database ≠ .ok () ∨ Definition.nameAllowed table = false →
        d.checkTable database table ≠ .ok () := by
    rintro database table hor hcheck
    obtain ⟨hdatabase, htable⟩ := checkTable_eq_ok.mp hcheck
    rcases hor with hor | hor
    · exact hor hdatabase
    · exact absurd htable (by rw [hor]; decide)
  refine ⟨fun _ => h.stocked.check_iff, fun database table hcheck hn => ?schema,
    fun database table hcheck hn => ?records, fun database hcheck => ?tables,
    fun database hcheck => ?files, fun c hor => (h.refused (hchecked hor)).1,
    fun database table hor => ?unread, fun database hcheck => ?unlisted,
    fun c hcheck hallowed hfits => (h.accepted hcheck (hfits.name hcheck hallowed) hfits.records
      fun records => lined_builtRecords hwritten).1⟩
  case schema =>
    obtain ⟨hroomy, hmem, hhere⟩ := hat hcheck
    have hnode := h.schema database hmem hroomy table hn.allowed
    cases hlast : lastDocument calls database table with
    | none => exact hhere.readSchema_of_none hn (by rw [hnode, hlast]; rfl)
    | some document => exact hhere.readSchema_of_file hn (by rw [hnode, hlast]; rfl)
  case records =>
    obtain ⟨hroomy, hmem, hhere⟩ := hat hcheck
    have hnode := h.records database hmem hroomy table hn.allowed
    cases hbuilt : builtRecords calls database table with
    | none => exact hhere.readRecords_of_none hn (by rw [hnode, hbuilt]; rfl)
    | some records =>
      have hlined := lined_builtRecords hwritten hbuilt
      rw [hhere.readRecords_of_file hn (by rw [hnode, hbuilt]; rfl),
        lines_recordText fun r hr => (hlined r hr).line]
      rintro rfl
      cases (hlined "" List.mem_cons_self).filled
  case tables =>
    obtain ⟨hroomy, hmem, hhere⟩ := hat hcheck
    obtain ⟨listed, htables, hlisted⟩ := hhere.tables
    refine ⟨listed.names, htables, listed.sorted, fun table => (hlisted table).trans ?_⟩
    constructor
    · rintro ⟨-, hsome⟩
      obtain ⟨node, hnode⟩ := Option.isSome_iff_exists.mp hsome
      obtain ⟨other, extension, hallowed, hname, hext⟩ := h.others _ hmem hroomy _ (by rw [hnode]; simp)
      have hext' : extension ∈ extensions := by rcases hext with rfl | rfl <;> decide
      obtain ⟨rfl, -⟩ := (fileName_inj (by decide) hext').mp hname
      rw [h.schema _ hmem hroomy _ hallowed, Option.isSome_map] at hsome
      exact ⟨hallowed, hsome⟩
    · rintro ⟨hallowed, hsome⟩
      refine ⟨?_, by rw [h.schema _ hmem hroomy _ hallowed, Option.isSome_map]; exact hsome⟩
      rintro rfl
      exact absurd hallowed (by decide)
  case files =>
    obtain ⟨hroomy, hmem, hhere⟩ := hat hcheck
    obtain ⟨entries, hlist, hentries⟩ := FileTree.list_eq hhere.resolve hhere.folder
    refine ⟨entries, hlist, fun name hname => ?_⟩
    have hnode := (hentries name).mp hname
    rw [← node?_inFolder hhere.allowed, Option.isSome_iff_ne_none] at hnode
    obtain ⟨table, extension, -, rfl, hext⟩ := h.others _ hmem hroomy _ hnode
    exact ⟨table, hext.imp (by rintro rfl; rfl) (by rintro rfl; rfl)⟩
  case unread =>
    cases hcheck : d.checkTable database table with
    | ok u => exact absurd hcheck (hchecked hor)
    | error fault => exact ⟨fault, by rw [readSchema, hcheck], by rw [readRecords, hcheck]⟩
  case unlisted =>
    cases hfault : d.check database with
    | ok u => exact absurd hfault hcheck
    | error fault => exact ⟨fault, by rw [tables, hfault]⟩

end Shelved

theorem edit_root (d : Directory) (database : String) (e : Edit) : (d.edit database e).2.root = d.root := by
  unfold edit
  split <;> rfl

/-- What fits a data folder fits it after other calls. -/
theorem Fits.of_stocked {d' : Directory} {c : Call} (hfits : d.Fits c) (h : d.Stocked base databases)
    (h' : d'.Stocked base databases) (hroot : d'.root = d.root) : d'.Fits c := by
  refine ⟨fun hcheck hallowed => ?_, hfits.records⟩
  obtain ⟨hroomy, hmem⟩ := h'.check_iff.mp hcheck
  have hbefore : d.check c.database = .ok () := h.check_iff.mpr ⟨hroomy.of_root hroot.symm, hmem⟩
  exact (hfits.name hbefore hallowed).of_root hroot

theorem Shelved.perform {start : Directory} (h : start.Shelved base databases []) (calls : List Call)
    (hfits : ∀ c ∈ calls, start.Fits c) :
    (start.perform calls).root = start.root ∧ (start.perform calls).Shelved base databases calls := by
  induction calls using List.reverseRecOn with
  | nil => exact ⟨rfl, h⟩
  | append_singleton calls c ih =>
    have hbefore := fun c hc => hfits c (List.mem_append_left _ hc)
    obtain ⟨hroot, hnow⟩ := ih hbefore
    have hc := (hfits c (List.mem_append_right _ List.mem_cons_self)).of_stocked h.stocked hnow.stocked hroot
    have hlast : start.perform (calls ++ [c]) = ((start.perform calls).edit c.database c.edit).2 :=
      List.foldl_concat ..
    rw [hlast]
    exact ⟨(edit_root ..).trans hroot, hnow.step hc fun c hc => (hbefore c hc).records⟩

/-- **A data folder is a map of texts and of lists.** Where databases were made in an empty folder, the
files hold after any calls what the calls make of them (`Mapped`). -/
theorem files_hold_maps (hvacant : d.Vacant base) (databases : List String) (calls : List Call)
    (hfits : ∀ c ∈ calls, (d.withDatabases databases).Fits c) :
    ((d.withDatabases databases).perform calls).Mapped databases calls :=
  ((hvacant.shelved databases).perform calls hfits).2.mapped fun c hc => (hfits c hc).records

/-- A new data folder. -/
def granary : Directory := (openAt FileTree.empty ⟨"data"⟩).2

theorem vacant_granary : granary.Vacant ["data"] := by
  refine ⟨by decide +kernel, by decide +kernel, fun names hnames => ?_⟩
  have hnodes : granary.tree.nodes.entries = [(["data"], .folder)] := by decide +kernel
  obtain ⟨name, more, rfl⟩ := List.exists_cons_of_ne_nil hnames
  rw [Keyed.get?, hnodes]
  rfl

/-- Calls for a table of the same name in two databases, one for a database that was never made, and one
for a table in another folder. -/
def deliveries : List Call :=
  [⟨"kantor", .define "t" "id:INT"⟩, ⟨"kantor", .provision "t"⟩, ⟨"kantor", .append "t" "1"⟩,
    ⟨"gudang", .append "t" "2"⟩, ⟨"gudang", .replace "t" ["3", "4"]⟩, ⟨"gudang", .append "t" "5"⟩,
    ⟨"sawah", .provision "t"⟩, ⟨"kantor", .define "../db_gudang/t" "id:INT"⟩]

theorem files_hold_maps_granary :
    granary.Vacant ["data"] ∧
      (∀ c ∈ deliveries, (granary.withDatabases ["kantor", "gudang"]).Fits c) ∧
      ((granary.withDatabases ["kantor", "gudang"]).perform deliveries).Mapped ["kantor", "gudang"]
        deliveries := by
  have hfits : ∀ c ∈ deliveries, (granary.withDatabases ["kantor", "gudang"]).Fits c := by
    have hname : ∀ c ∈ deliveries, Definition.nameAllowed c.edit.table = true → c.edit.table = "t" := by
      decide +kernel
    have hpath : ∀ c ∈ deliveries, ((granary.withDatabases ["kantor", "gudang"]).file c.database "t"
        schemaExtension).text.utf8ByteSize ≤ Path.longest := by
      decide +kernel
    have hlined : ∀ c ∈ deliveries, ∀ record ∈ c.edit.written, ('\n' ∉ record.toList ∧
        record.toList.getLast? ≠ some '\r') ∧ Text.allBlank record = false := by
      decide +kernel
    refine fun c hc => ⟨fun _ hallowed => ⟨hallowed, ?_, ?_⟩, fun record hrecord => ?_⟩
    · rw [hname c hc hallowed]
      decide +kernel
    · rw [hname c hc hallowed]
      exact hpath c hc
    · obtain ⟨⟨hwhole, hlast⟩, hfilled⟩ := hlined c hc record hrecord
      exact ⟨⟨hwhole, hlast⟩, hfilled⟩
  exact ⟨vacant_granary, hfits, files_hold_maps vacant_granary ["kantor", "gudang"] deliveries hfits⟩

end Directory

end Leuit
