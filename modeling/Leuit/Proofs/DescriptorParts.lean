import Leuit.Proofs.StrictDescriptors

/-! What a descriptor that is accepted is made of. Its colons outside parentheses part it into a name, a type
and constraints, and the type has a base name, a list between its first opening and its last closing
parenthesis, and what follows that (`DescriptorParts.MakeUp`); a text has these parts in one way only
(`DescriptorParts.MakeUp.unique`). All parts but the last are accounted for by the column
(`DescriptorParts.Describe`). What follows the list of a type is looked at by nobody, so a text is understood as
a whole exactly if nothing follows it and the list is one (`Column.accepted_understood_iff`). -/
namespace Leuit
open Outcome

/-! ### Blanks around a text -/

namespace Text

/-- A text is its trimmed text with blanks around it. -/
theorem toList_eq_blanks_trim (s : String) :
    ∃ before after, s.toList = before ++ ((trim s).toList ++ after) ∧
      (∀ c ∈ before, isBlank c = true) ∧ ∀ c ∈ after, isBlank c = true := by
  have hstart := List.takeWhile_append_dropWhile (p := isBlank) (l := s.toList)
  have hend := List.takeWhile_append_dropWhile (p := isBlank) (l := (s.toList.dropWhile isBlank).reverse)
  refine ⟨s.toList.takeWhile isBlank, ((s.toList.dropWhile isBlank).reverse.takeWhile isBlank).reverse, ?_,
    fun c hc => List.mem_takeWhile_imp hc, fun c hc => List.mem_takeWhile_imp (List.mem_reverse.mp hc)⟩
  rw [toList_trim, dropEnds, ← List.reverse_append, hend, List.reverse_reverse, hstart]

theorem trim_blanks_append {before cs : List Char} (h : ∀ c ∈ before, isBlank c = true) :
    trim (String.ofList (before ++ cs)) = trim (String.ofList cs) := by
  rw [trim, trim, String.toList_ofList, String.toList_ofList, dropEnds, List.dropWhile_append_of_pos h]
  rfl

/-- Every parenthesis is closed after it was opened. -/
def Balanced (cs : List Char) : Prop :=
  (∀ front ∈ cs.inits, 0 ≤ depthAfter 0 front) ∧ depthAfter 0 cs = 0

end Text

/-! ### Types -/

/-- A type as it is written. -/
inductive TypeParts where
  | bare (base : String)
  /-- What stands between the first opening and the last closing parenthesis, and what follows. -/
  | bracketed (base list trailing : String)

namespace TypeParts

def text : TypeParts → String
  | bare base => base
  | bracketed base list trailing => base ++ "(" ++ list ++ ")" ++ trailing

def base : TypeParts → String
  | bare base | bracketed base _ _ => base

def arguments : TypeParts → List String
  | bare _ => []
  | bracketed _ list _ => (Text.split ',' list).map Text.trim

/-- The parentheses are the first and the last of the text. -/
def Cut : TypeParts → Prop
  | bare base => '(' ∉ base.toList
  | bracketed base _ trailing => '(' ∉ base.toList ∧ ')' ∉ trailing.toList

theorem toList_bracketed (base list trailing : String) :
    (bracketed base list trailing).text.toList =
      base.toList ++ '(' :: (list.toList ++ ')' :: trailing.toList) := by
  simp [text]

/-- A base name that may be followed by one list in parentheses, and by nothing else. -/
def Whole : TypeParts → Prop
  | bare _ => True
  | bracketed _ list trailing => Text.Balanced list.toList ∧ Text.allBlank trailing = true

/-- A type is cut in one way. -/
theorem Cut.unique {p q : TypeParts} (hp : p.Cut) (hq : q.Cut) (h : p.text = q.text) : p = q := by
  cases p with
  | bare base =>
    cases q with
    | bare => exact congrArg bare h
    | bracketed base' list' trailing' =>
      have hlist : base.toList = _ := (congrArg String.toList h).trans (toList_bracketed base' list' trailing')
      refine absurd (?_ : '(' ∈ base.toList) hp
      simp [hlist]
  | bracketed base list trailing =>
    have hlist := toList_bracketed base list trailing
    cases q with
    | bare base' =>
      have hlist' : base'.toList = _ := (congrArg String.toList h.symm).trans hlist
      refine absurd (?_ : '(' ∈ base'.toList) hq
      simp [hlist']
    | bracketed base' list' trailing' =>
      rw [h, toList_bracketed] at hlist
      have hbase : base'.toList = base.toList := by
        rw [← Text.takeWhile_ne_append hq.1, hlist, Text.takeWhile_ne_append hp.1]
      rw [hbase, List.append_cancel_left_eq, List.cons.injEq] at hlist
      have hinner : list'.toList = list.toList := Option.some.inj <|
        (Text.beforeLast?_eq_some.mpr ⟨trailing'.toList, rfl, hq.2⟩).symm.trans
          (Text.beforeLast?_eq_some.mpr ⟨trailing.toList, hlist.2, hp.2⟩)
      have htrailing : trailing'.toList = trailing.toList := by simpa [hinner] using hlist.2
      rw [String.toList_inj.mp hbase, String.toList_inj.mp hinner, String.toList_inj.mp htrailing]

end TypeParts

namespace ColumnType
variable {t : ColumnType} {base s : String} {arguments : List String}

/-- The type that a base name in upper case and arguments stand for. Types without arguments look at none. -/
def StandsFor (base : String) (arguments : List String) (t : ColumnType) : Prop :=
  Text.upper base = t.baseName ∧
    match t with
    | char limit => ∃ first rest, arguments = first :: rest ∧ Decimal.count? first = some limit
    | enum values => values = arguments.filter (· ≠ "") ∧ values ≠ []
    | _ => True

theorem standsFor_of_ofParts (htrim : arguments.map Text.trim = arguments)
    (h : ofParts base arguments = .ok t) : StandsFor base arguments t := by
  unfold ofParts at h
  rw [htrim] at h
  split at h
  case h_7 hbase =>
    split at h
    · next limit hlimit =>
      cases h
      obtain ⟨first, hfirst, hcount⟩ := Option.bind_eq_some_iff.mp hlimit
      obtain ⟨rest, rfl⟩ := List.head?_eq_some_iff.mp hfirst
      rw [List.map_cons, List.cons.injEq] at htrim
      exact ⟨hbase, first, rest, rfl, htrim.1 ▸ hcount⟩
    · cases h
  case h_8 hbase =>
    split at h
    · cases h
    · next values hne =>
      cases h
      exact ⟨hbase, rfl, hne⟩
  case h_9 => cases h
  all_goals
    cases h
    exact ⟨by assumption, trivial⟩

/-- A type that is read, cut at its parentheses. -/
theorem exists_parts_of_ofText (h : ofText (Text.trim s) = .ok t) :
    ∃ p : TypeParts, p.text = s ∧ p.Cut ∧ StandsFor (Text.trim p.base) p.arguments t := by
  obtain ⟨before, after, hs, hbefore, hafter⟩ := Text.toList_eq_blanks_trim s
  have hbracket : ∀ c, Text.isBlank c = false → c ∉ before ∧ c ∉ after := fun c hc =>
    ⟨fun hmem => by simp [hbefore c hmem] at hc, fun hmem => by simp [hafter c hmem] at hc⟩
  obtain ⟨hopen, hopen'⟩ := hbracket '(' (by decide)
  obtain ⟨-, hclose⟩ := hbracket ')' (by decide)
  rcases ofText_cases h with ⟨hnone, hparts⟩ | ⟨base, list, trailing, htrim, hbase, htrailing, hparts⟩
  · refine ⟨.bare s, rfl, ?_, standsFor_of_ofParts rfl hparts⟩
    show '(' ∉ s.toList
    rw [hs]
    simp only [List.mem_append, not_or]
    exact ⟨hopen, hnone, hopen'⟩
  · refine ⟨.bracketed (String.ofList (before ++ base)) (String.ofList list) (String.ofList (trailing ++ after)),
      ?_, ?_, ?_⟩
    · rw [← String.toList_inj, TypeParts.toList_bracketed, hs, htrim]
      simp
    · simp [TypeParts.Cut, hopen, hbase, htrailing, hclose]
    · have harguments : ((Text.split ',' (String.ofList list)).map Text.trim).map Text.trim =
          (Text.split ',' (String.ofList list)).map Text.trim := by
        simp
      have hname : Text.trim (String.ofList (before ++ base)) = Text.trim (String.ofList base) :=
        Text.trim_blanks_append hbefore
      show StandsFor (Text.trim (String.ofList (before ++ base))) _ t
      rw [hname]
      exact standsFor_of_ofParts harguments hparts

end ColumnType

/-! ### Constraints -/

/-- The foreign key that a constraint asks for. -/
def Constraint.key? : Constraint → Option ForeignKey
  | .references key => some key
  | _ => none

/-- A text without its blanks, in upper case. -/
def Text.squeezed (s : String) : String := String.ofList (upperList (s.toList.filter (!isBlank ·)))

namespace Constraint
variable {text : String} {k : Constraint}

/-- How constraints are written. -/
inductive SpelledBy : String → Constraint → Prop
  | nothing {text : String} (h : Text.squeezed text = "") : SpelledBy text .nothing
  | primary {text : String} (h : Text.squeezed text ∈ ["PK", "PRIMARY", "PRIMARYKEY"]) : SpelledBy text .primary
  | unique {text : String} (h : Text.squeezed text = "UNIQUE") : SpelledBy text .unique
  | notNull {text : String} (h : Text.squeezed text = "NOTNULL") : SpelledBy text .notNull
  | references {text word inner table column : String} (hword : Text.squeezed word = "FK")
    (htext : Text.trim text = word ++ "(" ++ inner ++ ")") (hinner : Text.trim inner = table ++ "." ++ column)
    (hpoint : '.' ∉ table.toList) (htable : table ≠ "") (hcolumn : column ≠ "") :
    SpelledBy text (.references ⟨Text.trim table, Text.trim column⟩)

/-- In front of the bracket of a reference stands its key word. -/
theorem squeezed_of_reference {word rest : List Char} (hword : '(' ∉ word)
    (h : "FK(".toList.isPrefixOf (Text.upperList ((word ++ '(' :: rest).filter (!Text.isBlank ·))) = true) :
    Text.squeezed (String.ofList word) = "FK" := by
  obtain ⟨more, hmore⟩ := List.isPrefixOf_iff_prefix.mp h
  have hbracket : '(' ∉ Text.upperList (word.filter (!Text.isBlank ·)) := by
    intro hmem
    obtain ⟨c, hc, hupper⟩ := List.mem_flatMap.mp hmem
    exact hword (Text.eq_of_bracket_mem_upperChar (.inl rfl) hupper ▸ (List.mem_filter.mp hc).1)
  have hlist : Text.upperList ((word ++ '(' :: rest).filter (!Text.isBlank ·)) =
      Text.upperList (word.filter (!Text.isBlank ·)) ++
        '(' :: Text.upperList (rest.filter (!Text.isBlank ·)) := by
    have hopen : Text.isBlank '(' = false := by decide
    have hupper : Text.upperChar '(' = ['('] := by decide
    simp [Text.upperList, List.filter_append, hopen, hupper]
  have hfront := Text.takeWhile_ne_append (b := Text.upperList (rest.filter (!Text.isBlank ·))) hbracket
  rw [← hlist, ← hmore] at hfront
  rw [Text.squeezed, String.toList_ofList, ← hfront]
  rfl

theorem spelledBy_of_ofText? (h : ofText? text = some (.ok k)) : SpelledBy text k := by
  unfold ofText? at h
  have hsqueezed : ∀ word : String, Text.upperList (text.toList.filter (!Text.isBlank ·)) = word.toList →
      Text.squeezed text = word := fun word hword => by
    rw [Text.squeezed, hword, String.ofList_toList]
  dsimp only at h
  split at h
  · next hword =>
    cases h
    refine .primary ?_
    rcases hword with hword | hword | hword <;> rw [hsqueezed _ hword] <;> decide
  split at h
  · next hword =>
    cases h
    exact .unique (hsqueezed _ hword)
  split at h
  · next hword =>
    cases h
    exact .notNull (hsqueezed _ hword)
  split at h
  · next hword =>
    cases h
    exact .nothing (hsqueezed "" hword)
  split at h
  · next hreference =>
    rw [Option.some.injEq, map_eq_ok] at h
    obtain ⟨key, hkey, rfl⟩ := h
    obtain ⟨word, inner, htrim, hword⟩ := around_reference hreference.1 hreference.2
    have hinner : ((((Text.trim text).toList.dropWhile (· ≠ '(')).drop 1).dropLast) = inner := by
      rw [htrim, Text.dropWhile_ne_append hword]
      simp
    rw [hinner] at hkey
    obtain ⟨table, column, hcut, htable, hcolumn, rfl⟩ := ForeignKey.ofText_eq_ok.mp hkey
    obtain ⟨hpoint, hnone⟩ := Text.cut?_eq_some.mp hcut
    have hfirst := hreference.1
    rw [← Text.filter_trim, htrim] at hfirst
    have htext : Text.trim text = String.ofList word ++ "(" ++ String.ofList inner ++ ")" := by
      rw [← String.toList_inj, htrim]
      simp
    have hparts : Text.trim (String.ofList inner) = table ++ "." ++ column := by
      rw [← String.toList_inj, hpoint]
      simp
    exact .references (squeezed_of_reference hword hfirst) htext hparts hnone htable hcolumn
  · cases h

end Constraint

namespace Column
variable {c c' : Column} {ks : List Constraint} {s : String} {texts : List String}

/-- A column has what the constraints say and no more; of several foreign keys it has the last. -/
structure Carries (c : Column) (ks : List Constraint) : Prop where
  primary : c.isPrimary = true ↔ .primary ∈ ks
  unique : c.isUnique = true ↔ .primary ∈ ks ∨ .unique ∈ ks
  notNull : c.isNotNull = true ↔ .primary ∈ ks ∨ .notNull ∈ ks
  key : c.foreignKey = (ks.filterMap Constraint.key?).getLast?

theorem carries_plain (name : String) (type : ColumnType) : (plain name type).Carries [] := by
  constructor <;> simp [plain]

/-- One more constraint. -/
theorem Carries.constrain (h : c.Carries ks) (k : Constraint) : (c.constrain k).Carries (ks ++ [k]) := by
  obtain ⟨hprimary, hunique, hnotNull, hkey⟩ := h
  cases k <;> constructor <;>
    simp [Column.constrain, Column.primary, Column.unique, Column.notNull, Constraint.key?, hprimary, hunique,
      hnotNull, hkey]

/-- All constraints of a descriptor, after those that were there. -/
theorem Carries.constrainAll (h : c.Carries ks) (hc : c.constrainAll texts = .ok c') :
    ∃ more, List.Forall₂ Constraint.SpelledBy texts more ∧ c'.Carries (ks ++ more) := by
  induction texts generalizing c ks with
  | nil =>
    cases hc
    exact ⟨[], .nil, by rwa [List.append_nil]⟩
  | cons text texts ih =>
    obtain ⟨k, htext, hrest⟩ := constrainAll_cons_eq_ok.mp hc
    obtain ⟨more, hmore, hcarries⟩ := ih (h.constrain k) hrest
    exact ⟨k :: more, .cons (Constraint.spelledBy_of_ofText? htext) hmore, by simpa using hcarries⟩

end Column

/-! ### Descriptors -/

structure DescriptorParts where
  name : String
  type : TypeParts
  constraints : List String

namespace DescriptorParts
variable {p q : DescriptorParts} {s : String} {c : Column}

def pieces (p : DescriptorParts) : List String := p.name :: p.type.text :: p.constraints

/-- The parts of a text: it has colons between them, and all of its colons outside parentheses. -/
structure MakeUp (p : DescriptorParts) (s : String) : Prop where
  text : (Text.trim s).toList = [':'].intercalate (p.pieces.map String.toList)
  parted : Text.Parted ':' 0 (p.pieces.map String.toList)
  cut : p.type.Cut

theorem makeUp_iff :
    p.MakeUp s ↔
      Text.splitOutside ':' 0 (Text.trim s).toList = p.pieces.map String.toList ∧ p.type.Cut := by
  rw [Text.splitOutside_eq_iff]
  exact ⟨fun h => ⟨⟨h.text, h.parted⟩, h.cut⟩, fun h => ⟨h.1.1, h.1.2, h.2⟩⟩

/-- A text has one name, one type and one list of constraints. -/
theorem MakeUp.unique (hp : p.MakeUp s) (hq : q.MakeUp s) : p = q := by
  have hpieces : p.pieces.map String.toList = q.pieces.map String.toList :=
    (makeUp_iff.mp hp).1.symm.trans (makeUp_iff.mp hq).1
  have hsame : p.pieces = q.pieces := List.map_injective_iff.mpr (fun _ _ => String.toList_inj.mp) hpieces
  obtain ⟨name, type, constraints⟩ := p
  obtain ⟨name', type', constraints'⟩ := q
  simp only [pieces, List.cons.injEq] at hsame
  obtain ⟨rfl, htype, rfl⟩ := hsame
  obtain rfl : type = type' := hp.cut.unique hq.cut htype
  rfl

/-- The column that the parts of a descriptor describe. -/
structure Describe (p : DescriptorParts) (c : Column) : Prop where
  name : c.name = Text.trim p.name
  nameAllowed : Column.nameAllowed c.name = true
  type : ColumnType.StandsFor (Text.trim p.type.base) p.type.arguments c.type
  constraints : ∃ ks, List.Forall₂ Constraint.SpelledBy p.constraints ks ∧ c.Carries ks

/-- What is accepted has parts, and they describe the column. -/
theorem exists_of_ofText (h : Column.ofText s = .ok c) : ∃ p : DescriptorParts, p.MakeUp s ∧ p.Describe c := by
  obtain ⟨name, type, constraints, t, hsplit, hname, ht, hc⟩ := Column.ofText_eq_ok.mp h
  obtain ⟨type, rfl, hcut, htype⟩ := ColumnType.exists_parts_of_ofText ht
  obtain ⟨hcname, hctype⟩ := Column.constrainAll_keeps hc
  obtain ⟨ks, hks, hcarries⟩ := (Column.carries_plain (Text.trim name) t).constrainAll hc
  have hpieces : Text.splitOutside ':' 0 (Text.trim s).toList =
      (name :: type.text :: constraints).map String.toList := by
    rw [← hsplit, List.map_map]
    simp [Function.comp_def]
  exact ⟨⟨name, type, constraints⟩, makeUp_iff.mpr ⟨hpieces, hcut⟩,
    ⟨hcname, hcname ▸ hname, hctype ▸ htype, ks, hks, by simpa using hcarries⟩⟩

end DescriptorParts

namespace Column
variable {s : String} {c : Column}

/-- All of a text is accounted for by a column: the parts describe it, and nothing follows the list of the
type. -/
def Understood (s : String) (c : Column) : Prop :=
  ∃ p : DescriptorParts, p.MakeUp s ∧ p.Describe c ∧ p.type.Whole

/-- **An accepted descriptor is understood, but for what follows the list of its type.** It is a name, a
type and constraints with colons between them, and the column has the name, the type and exactly the
constraints that these say; all of the text is accounted for exactly if the type is a base name with at most
one list after it, and nothing after that. -/
theorem accepted_understood_iff (h : Column.ofText s = .ok c) :
    ∃ p : DescriptorParts, p.MakeUp s ∧ p.Describe c ∧ (Understood s c ↔ p.type.Whole) := by
  obtain ⟨p, hmakeUp, hdescribe⟩ := DescriptorParts.exists_of_ofText h
  refine ⟨p, hmakeUp, hdescribe, ?_, fun hwhole => ⟨p, hmakeUp, hdescribe, hwhole⟩⟩
  rintro ⟨q, hq, -, hwhole⟩
  rwa [hmakeUp.unique hq]

/-- A key with a reference, in an odd spelling. -/
theorem accepted_understood_iff_key :
    Understood " nis: char ( 3 ) : primary key: : fk ( p . k )"
      ((plain "nis" (.char 3)).primary.references "p" "k") := by
  let parts : DescriptorParts :=
    ⟨"nis", .bracketed " char " " 3 " " ", [" primary key", " ", " fk ( p . k )"]⟩
  have hmakeUp : parts.MakeUp " nis: char ( 3 ) : primary key: : fk ( p . k )" :=
    DescriptorParts.makeUp_iff.mpr ⟨by decide +kernel, by decide, by decide⟩
  have hread : Column.ofText " nis: char ( 3 ) : primary key: : fk ( p . k )" =
      .ok ((plain "nis" (.char 3)).primary.references "p" "k") := by
    decide +kernel
  obtain ⟨p, hp, -, hunderstood⟩ := accepted_understood_iff hread
  refine hunderstood.mpr ?_
  rw [hp.unique hmakeUp]
  exact ⟨⟨by decide, by decide⟩, by decide⟩

/-- **A constraint that is glued to a list is accepted and lost.** -/
theorem glued_constraint_ignored :
    Column.ofText "a:CHAR(3)NOT NULL" = .ok (plain "a" (.char 3)) ∧
      ¬Understood "a:CHAR(3)NOT NULL" (plain "a" (.char 3)) := by
  refine ⟨by decide +kernel, ?_⟩
  rintro ⟨p, hp, -, hwhole⟩
  let parts : DescriptorParts := ⟨"a", .bracketed "CHAR" "3" "NOT NULL", []⟩
  have hmakeUp : parts.MakeUp "a:CHAR(3)NOT NULL" :=
    DescriptorParts.makeUp_iff.mpr ⟨by decide +kernel, by decide, by decide⟩
  rw [hp.unique hmakeUp] at hwhole
  exact absurd hwhole.2 (by decide)

end Column

end Leuit
