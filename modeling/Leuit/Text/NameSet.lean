/-! Finite sets of names, kept as strictly increasing lists: two sets with the same members are equal,
and the members are listed in order. Roles are granted as such sets, and listings of tables and
databases are in the same order. -/
namespace Leuit

/-- Puts a name into an increasing list, unless it is there already. -/
def insertName (name : String) : List String → List String
  | [] => [name]
  | other :: rest =>
    if name < other then name :: other :: rest
    else if other < name then other :: insertName name rest
    else other :: rest

theorem mem_insertName {name x : String} {names : List String} :
    x ∈ insertName name names ↔ x = name ∨ x ∈ names := by
  induction names with
  | nil => simp [insertName]
  | cons other rest ih =>
    unfold insertName
    split
    · simp
    · split
      · simp only [List.mem_cons, ih]
        constructor <;> rintro (h | h | h) <;> simp [h]
      · next h₁ h₂ =>
        have : name = other := String.le_antisymm (String.not_lt.mp h₂) (String.not_lt.mp h₁)
        simp [this]

theorem insertName_sorted {name : String} {names : List String}
    (h : names.Pairwise (· < ·)) : (insertName name names).Pairwise (· < ·) := by
  induction names with
  | nil => simp [insertName]
  | cons other rest ih =>
    obtain ⟨hfirst, hrest⟩ := List.pairwise_cons.mp h
    unfold insertName
    split
    · next hlt =>
      refine List.pairwise_cons.mpr ⟨fun x hx => ?_, h⟩
      rcases List.mem_cons.mp hx with rfl | hx
      · exact hlt
      · exact String.lt_trans hlt (hfirst x hx)
    · split
      · next hlt =>
        refine List.pairwise_cons.mpr ⟨fun x hx => ?_, ih hrest⟩
        rcases mem_insertName.mp hx with rfl | hx
        · exact hlt
        · exact hfirst x hx
      · exact h

structure NameSet where
  names : List String
  sorted : names.Pairwise (· < ·)
deriving DecidableEq

namespace NameSet

def empty : NameSet := ⟨[], .nil⟩

instance : EmptyCollection NameSet := ⟨empty⟩
instance : Inhabited NameSet := ⟨empty⟩

def insert (s : NameSet) (name : String) : NameSet :=
  ⟨insertName name s.names, insertName_sorted s.sorted⟩

instance : Membership String NameSet := ⟨fun s name => name ∈ s.names⟩

instance (name : String) (s : NameSet) : Decidable (name ∈ s) :=
  inferInstanceAs (Decidable (name ∈ s.names))

def isEmpty (s : NameSet) : Bool := s.names.isEmpty

/-- The set with all names of a list added. -/
def insertAll (s : NameSet) (names : List String) : NameSet := names.foldl insert s

def ofList (names : List String) : NameSet := empty.insertAll names

def union (s t : NameSet) : NameSet := s.insertAll t.names

/-! ### Members -/

theorem mem_names {s : NameSet} {x : String} : x ∈ s.names ↔ x ∈ s := Iff.rfl

@[simp] theorem not_mem_empty (x : String) : x ∉ (∅ : NameSet) := List.not_mem_nil

theorem mem_insert {s : NameSet} {name x : String} : x ∈ s.insert name ↔ x = name ∨ x ∈ s :=
  mem_insertName

theorem mem_insertAll {s : NameSet} {names : List String} {x : String} :
    x ∈ s.insertAll names ↔ x ∈ names ∨ x ∈ s := by
  induction names generalizing s with
  | nil => simp [insertAll]
  | cons name rest ih =>
    show x ∈ (s.insert name).insertAll rest ↔ _
    rw [ih, mem_insert, List.mem_cons, or_left_comm, or_assoc]

theorem mem_ofList {names : List String} {x : String} : x ∈ ofList names ↔ x ∈ names := by
  show x ∈ (∅ : NameSet).insertAll names ↔ _
  simp [mem_insertAll]

theorem mem_union {s t : NameSet} {x : String} : x ∈ s.union t ↔ x ∈ s ∨ x ∈ t :=
  mem_insertAll.trans Or.comm

/-- Two increasing lists with the same members are one list, so sets are known by their members. -/
theorem ext_mem {s t : NameSet} (h : ∀ x, x ∈ s ↔ x ∈ t) : s = t := by
  obtain ⟨as, ha⟩ := s
  obtain ⟨bs, hb⟩ := t
  have hnodup : ∀ {l : List String}, l.Pairwise (· < ·) → l.Nodup := fun hl =>
    List.nodup_iff_pairwise_ne.mpr (hl.imp fun {x y} (hlt : x < y) (heq : x = y) =>
      String.lt_irrefl y (heq ▸ hlt))
  have hnames : as = bs :=
    List.Perm.eq_of_pairwise (fun _ _ _ _ hxy hyx => absurd (String.lt_trans hxy hyx) (String.lt_irrefl _))
      ha hb ((List.perm_ext_iff_of_nodup (hnodup ha) (hnodup hb)).mpr h)
  subst hnames
  rfl

end NameSet

end Leuit
