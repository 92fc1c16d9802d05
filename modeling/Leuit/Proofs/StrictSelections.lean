import Leuit.Proofs.RelationShapes
import Leuit.Proofs.StrictDescriptors

/-! Selections by position. Columns are found in a header once, and their positions are then used on the rows
of every later stage: to join, to test a condition, to sort, to fold and to project. Here each of these reads
is one that may fail; joining keeps a list of marks, one for each row of the right side, sorting reads the key
of every row, and a page is a slice of the rows. To combine numbers by a count is held to be impossible. On
rectangular relations no read fails, whatever the query and the header are, and each stage gives what it gives
without positions (`SelectRows.resultStrict_eq`). What may fail is sorting, as it may without positions. -/
namespace Leuit

/-! ### Chains of conditions -/

namespace Condition

/-- The neighbours in a list, as lists of two. -/
def pairs (conditions : List Condition) : List (List Condition) :=
  conditions.zipWith (fun c next => [c, next]) conditions.tail

/-- Goes through the neighbours up to a condition without link. -/
def continueStrict (check : Condition → Option Bool) (result : Bool) : List (List Condition) → Option Bool
  | [] => some result
  | pair :: rest => do
    let c ← pair[0]?
    match c.link with
    | none => return result
    | some connective =>
      let next ← pair[1]?
      let holds ← check next
      continueStrict check (connective.apply result holds) rest

def holdsAllStrict (check : Condition → Option Bool) (conditions : List Condition) : Option Bool :=
  match conditions.head? with
  | none => some true
  | some c => do
    let result ← check c
    continueStrict check result (pairs conditions)

variable {check : Condition → Option Bool} {p : Condition → Bool}

theorem pairs_cons_cons (c next : Condition) (rest : List Condition) :
    pairs (c :: next :: rest) = [c, next] :: pairs (next :: rest) := rfl

theorem continueStrict_eq {c : Condition} {rest : List Condition}
    (h : ∀ next ∈ rest, check next = some (p next)) (result : Bool) :
    continueStrict check result (pairs (c :: rest)) = some (continueChain p result c.link rest) := by
  induction rest generalizing c result with
  | nil => cases c.link <;> rfl
  | cons next rest ih =>
    rw [pairs_cons_cons, continueStrict]
    simp only [List.getElem?_cons_zero, List.getElem?_cons_succ, Option.bind_eq_bind, Option.bind_some]
    cases c.link with
    | none => rfl
    | some connective =>
      dsimp only
      rw [h next List.mem_cons_self, Option.bind_some, ih fun c hc => h c (List.mem_cons_of_mem next hc)]
      rfl

theorem holdsAllStrict_eq {conditions : List Condition} (h : ∀ c ∈ conditions, check c = some (p c)) :
    holdsAllStrict check conditions = some (holdsAll p conditions) := by
  cases conditions with
  | nil => rfl
  | cons c rest =>
    unfold holdsAllStrict
    rw [List.head?_cons]
    dsimp only
    rw [h c List.mem_cons_self, Option.bind_eq_bind, Option.bind_some,
      continueStrict_eq fun next hnext => h next (List.mem_cons_of_mem c hnext)]
    rfl

end Condition

/-! ### Cells -/

theorem Row.getElem?_eq_cell {row : Row} {i : Nat} (h : i < row.length) : row[i]? = some (row.cell i) := by
  rw [Row.cell, List.getElem?_eq_getElem h]
  rfl

namespace Relation

/-- A condition tested on the cell and the column that its field names. -/
def satisfiesStrict (header : List HeaderColumn) (row : Row) (c : Condition) : Option Bool :=
  match last? header c.field with
  | none => some false
  | some i => do
    let value ← row[i]?
    let column ← header[i]?
    return value.meets c.operator c.literal column.type

theorem satisfiesStrict_eq {header : List HeaderColumn} {row : Row} (h : row.length = header.length)
    (c : Condition) : satisfiesStrict header row c = some (satisfies header row c) := by
  unfold satisfiesStrict satisfies
  cases hfield : last? header c.field with
  | none => rfl
  | some i =>
    have hlt := last?_lt hfield
    simp only [Row.getElem?_eq_cell (h ▸ hlt), List.getElem?_eq_getElem hlt]
    rfl

def filterStrict (r : Relation) (conditions : List Condition) : Option Relation := do
  let passes (row : Row) := Condition.holdsAllStrict (satisfiesStrict r.header row) conditions
  let rows ← Strict.select passes r.rows
  return ⟨r.header, rows⟩

theorem filterStrict_eq {r : Relation} (h : r.Rectangular) (conditions : List Condition) :
    r.filterStrict conditions = some (r.filter conditions) := by
  unfold filterStrict
  dsimp only
  rw [Strict.select_some fun row hrow =>
    Condition.holdsAllStrict_eq fun c _ => satisfiesStrict_eq (h row hrow) c]
  rfl

/-- Whether a row comes before another by their keys. -/
def keyPrecedes (descending : Bool) (a b : Value × Row) : Bool := Value.precedes descending a.1 b.1

/-- The rows in the order of a column, of which the cell is read in every row. Sorting fails if the comparison of
the cells contradicts itself. -/
def sortStrict (r : Relation) (sorting : Option Sorting) : Option Relation :=
  match sorting with
  | none => some r
  | some s =>
    match first? r.header s.column with
    | none => some r
    | some i => do
      let keys ← r.rows.mapM (·[i]?)
      let sorted ← StableSort.sort (keyPrecedes s.descending) (keys.zip r.rows)
      return ⟨r.header, sorted.map (·.2)⟩

/-- No key is missing, so sorting by keys fails where sorting fails. -/
theorem sortStrict_eq {r : Relation} (h : r.Rectangular) (sorting : Option Sorting) :
    r.sortStrict sorting = (r.sort sorting).toOption := by
  unfold sortStrict sort
  cases sorting with
  | none => rfl
  | some s =>
    dsimp only
    cases hcolumn : first? r.header s.column with
    | none => rfl
    | some i =>
      have hkeys : r.rows.mapM (·[i]?) = some (r.rows.map (Row.cell · i)) :=
        Strict.mapM_some fun row hrow => Row.getElem?_eq_cell (h row hrow ▸ first?_lt hcolumn)
      have hsort : StableSort.sort (keyPrecedes s.descending) (r.rows.map fun row => (row.cell i, row)) =
          (StableSort.sort (fun a b => Value.precedes s.descending (a.cell i) (b.cell i)) r.rows).map
            (List.map fun row => (row.cell i, row)) :=
        StableSort.sort_map (fun row : Row => (row.cell i, row)) r.rows
      dsimp only
      rw [hkeys, Option.bind_eq_bind, Option.bind_some, ← List.map_prod_right_eq_zip, hsort]
      cases StableSort.sort (fun a b => Value.precedes s.descending (a.cell i) (b.cell i)) r.rows with
      | none => rfl
      | some rows => simp [Except.toOption, Function.comp_def]

/-- The cells of a row that the fields name. -/
def projectStrict (header : List HeaderColumn) (fields : List Selection) (row : Row) : Option Row :=
  fields.mapM fun f =>
    match last? header f.text with
    | none => some .null
    | some i => row[i]?

theorem projectStrict_eq {header : List HeaderColumn} {row : Row} (h : row.length = header.length)
    (fields : List Selection) : projectStrict header fields row = some (project header fields row) := by
  refine Strict.mapM_some fun f _ => ?_
  cases hfield : last? header f.text with
  | none => rfl
  | some i => exact Row.getElem?_eq_cell (h ▸ last?_lt hfield)

end Relation

/-- A count has no use for the numbers. -/
def Aggregate.combineStrict (f : Aggregate) (numbers : List Float) : Option Float :=
  if f = count then none else some (f.combine numbers)

def Aggregate.computeStrict (f : Aggregate) (entries : List (Option Value)) : Option Value :=
  if entries.isEmpty then some (.int 0)
  else if f = count then some (.int entries.length)
  else
    match entries.filterMap (·.bind Value.number?) with
    | [] => some (if f = sum then .float 0.0 else .int 0)
    | numbers => (f.combineStrict numbers).map .float

theorem Aggregate.computeStrict_eq (f : Aggregate) (entries : List (Option Value)) :
    f.computeStrict entries = some (f.compute entries) := by
  unfold computeStrict compute
  split
  · rfl
  split
  · rfl
  · next hcount =>
    cases entries.filterMap (·.bind Value.number?) with
    | nil => rfl
    | cons x numbers => simp only [combineStrict, if_neg hcount, Option.map_some]

namespace Relation

/-- The one row of a selection with aggregates; an aggregate reads its column in every row. -/
def aggregateStrict (r : Relation) (fields : List Selection) : Option Row :=
  fields.mapM fun
    | .aggregate f target _ =>
      match last? r.header target with
      | none => f.computeStrict (r.rows.map fun _ => none)
      | some i => do
        let cells ← r.rows.mapM (·[i]?)
        f.computeStrict (cells.map some)
    | .column name =>
      match last? r.header name, r.rows with
      | some i, row :: _ => row[i]?
      | _, _ => some .null

theorem aggregateStrict_eq {r : Relation} (h : r.Rectangular) (fields : List Selection) :
    r.aggregateStrict fields = some (r.aggregate fields) := by
  refine Strict.mapM_some fun f _ => ?_
  cases f with
  | aggregate f target text =>
    dsimp only
    cases hcolumn : last? r.header target with
    | none => exact f.computeStrict_eq _
    | some i =>
      have hcells : r.rows.mapM (·[i]?) = some (r.rows.map (Row.cell · i)) :=
        Strict.mapM_some fun row hrow => Row.getElem?_eq_cell (h row hrow ▸ last?_lt hcolumn)
      dsimp only
      rw [hcells, Option.bind_eq_bind, Option.bind_some, List.map_map]
      exact f.computeStrict_eq _
  | column name =>
    dsimp only
    cases hcolumn : last? r.header name with
    | none => rfl
    | some i =>
      cases hrows : r.rows with
      | nil => rfl
      | cons row rest =>
        exact Row.getElem?_eq_cell (h row (hrows ▸ List.mem_cons_self) ▸ last?_lt hcolumn)

end Relation

/-! ### Joins -/

/-- Whether two rows match, by the cells of the columns that the test names. -/
def JoinTest.matchRowsStrict (t : JoinTest) (header : List HeaderColumn) (left right : Row) : Option Bool :=
  match t.left with
  | none => some false
  | some i => do
    let value ← left[i]?
    if value.isNull then return false
    else
      match t.right with
      | some j =>
        let other ← right[j]?
        return !other.isNull && value.joins t.operator other
      | none =>
        let column ← header[i]?
        return value.meets t.operator t.literal column.type

theorem JoinTest.matchRowsStrict_of {left right : Relation} (on : Condition) {a b : Row}
    (ha : a.length = left.width) (hb : b.length = right.width) :
    (JoinTest.of left right on).matchRowsStrict left.header a b =
      some ((JoinTest.of left right on).matchRows left.header a b) := by
  unfold matchRowsStrict matchRows
  cases hfirst : (JoinTest.of left right on).left with
  | none => rfl
  | some i =>
    have hi : i < left.header.length := Relation.first?_lt hfirst
    simp only [Row.getElem?_eq_cell (Nat.lt_of_lt_of_eq hi ha.symm), Option.bind_eq_bind, Option.bind_some]
    cases (a.cell i).isNull with
    | true => rfl
    | false =>
      cases hsecond : (JoinTest.of left right on).right with
      | some j =>
        have hj : j < right.header.length := Relation.first?_lt hsecond
        simp only [Row.getElem?_eq_cell (Nat.lt_of_lt_of_eq hj hb.symm)]
        rfl
      | none =>
        simp only [List.getElem?_eq_getElem hi]
        rfl

namespace Relation

/-- Goes through the rows of the right side from position `i` on, joins those that match a row of the left
side to it, and marks them. -/
def scanPartners (test : Row → Option Bool) (row : Row) (i : Nat) (marks : List Bool) :
    List Row → Option (List Bool × List Row)
  | [] => some (marks, [])
  | other :: rest => do
    if ← test other then
      let marks ← put? marks i true
      let (marks, partners) ← scanPartners test row (i + 1) marks rest
      return (marks, (row ++ other) :: partners)
    else scanPartners test row (i + 1) marks rest

/-- Goes through the rows of the left side. -/
def scanRows (kind : JoinKind) (test : Row → Row → Option Bool) (right : Relation) (marks : List Bool) :
    List Row → Option (List Bool × List Row)
  | [] => some (marks, [])
  | row :: rest => do
    let (marks, partners) ← scanPartners (test row) row 0 marks right.rows
    let (marks, others) ← scanRows kind test right marks rest
    let joined := if partners.isEmpty && kind.keepsLeft then [row ++ blankRow right.width] else partners
    return (marks, joined ++ others)

def joinStrict (left : Relation) (kind : JoinKind) (right : Relation) (on : Condition) : Option Relation := do
  let test := (JoinTest.of left right on).matchRowsStrict left.header
  let (marks, rows) ← scanRows kind test right (List.replicate right.rows.length false) left.rows
  let strays := ((right.rows.zip marks).filter (!·.2)).map (blankRow left.width ++ ·.1)
  return ⟨left.header ++ right.header, rows ++ if kind.keepsRight then strays else []⟩

section
variable {test : Row → Option Bool} {p : Row → Bool}

theorem scanPartners_eq {others : List Row} (h : ∀ other ∈ others, test other = some (p other)) (row : Row)
    (done marks : List Bool) (hlen : marks.length = others.length) :
    scanPartners test row done.length (done ++ marks) others =
      some (done ++ List.zipWith (fun mark other => mark || p other) marks others,
        (others.filter p).map (row ++ ·)) := by
  induction others generalizing done marks with
  | nil =>
    rw [List.length_eq_zero_iff.mp hlen]
    rfl
  | cons other rest ih =>
    obtain ⟨mark, marks, rfl⟩ := List.exists_cons_of_length_eq_add_one hlen
    have hnext (b : Bool) := ih (fun o ho => h o (List.mem_cons_of_mem other ho)) (done ++ [b]) marks
      (by simpa using hlen)
    simp only [List.length_append, List.length_singleton, List.append_assoc, List.singleton_append] at hnext
    have hmark := put?_append done marks mark true
    rw [scanPartners, h other List.mem_cons_self]
    simp only [Option.bind_eq_bind, Option.bind_some]
    cases hp : p other with
    | true => simp [hmark, hnext true, hp]
    | false => simp [hnext mark, hp]

end

/-- Two passes over the marks are one. -/
theorem zipWith_zipWith {α β : Type} (f g : β → α → β) (marks : List β) (others : List α) :
    List.zipWith f (List.zipWith g marks others) others =
      List.zipWith (fun mark other => f (g mark other) other) marks others := by
  induction others generalizing marks with
  | nil => simp
  | cons other rest ih => cases marks <;> simp [ih]

theorem scanRows_eq {test : Row → Row → Option Bool} {p : Row → Row → Bool} {right : Relation}
    {rows : List Row} (h : ∀ row ∈ rows, ∀ other ∈ right.rows, test row other = some (p row other))
    (kind : JoinKind) {marks : List Bool} (hlen : marks.length = right.rows.length) :
    scanRows kind test right marks rows =
      some (List.zipWith (fun mark other => mark || rows.any (p · other)) marks right.rows,
        rows.flatMap fun row => joinRow kind (p row) right row) := by
  induction rows generalizing marks with
  | nil =>
    have hmarks : List.zipWith (fun mark _ => mark) marks right.rows = marks :=
      List.ext_getElem (by simp [hlen]) (by simp)
    simpa [scanRows] using hmarks.symm
  | cons row rest ih =>
    have hscan := scanPartners_eq (h row List.mem_cons_self) row [] marks hlen
    rw [List.length_nil, List.nil_append, List.nil_append] at hscan
    have hlen' : (List.zipWith (fun mark other => mark || p row other) marks right.rows).length =
        right.rows.length := by simp [hlen]
    rw [scanRows, hscan]
    simp only [Option.bind_eq_bind, Option.bind_some]
    rw [ih (fun r hr => h r (List.mem_cons_of_mem row hr)) hlen', zipWith_zipWith, Option.bind_some,
      List.flatMap_cons, joinRow]
    cases right.rows.filter (p row) <;> simp [Bool.or_assoc]

theorem joinStrict_eq {left right : Relation} (hleft : left.Rectangular) (hright : right.Rectangular)
    (kind : JoinKind) (on : Condition) : left.joinStrict kind right on = some (left.join kind right on) := by
  have hscan := scanRows_eq (fun row hrow other hother =>
    JoinTest.matchRowsStrict_of on (hleft row hrow) (hright other hother)) kind
    (List.length_replicate (a := false))
  have hmarks (q : Row → Bool) : List.zipWith (fun mark other => mark || q other)
      (List.replicate right.rows.length false) right.rows = right.rows.map q :=
    List.ext_getElem (by simp) (by simp)
  unfold joinStrict
  dsimp only
  rw [hscan, Option.bind_eq_bind, Option.bind_some, hmarks, ← List.map_prod_left_eq_zip, List.filter_map,
    List.map_map]
  rfl

end Relation

/-! ### Results -/

namespace SelectRows

/-- Whether the first field asks for all columns. -/
def selectsAllStrict (q : SelectRows) : Option Bool :=
  if q.fields.isEmpty then some true
  else do
    let field ← q.fields[0]?
    return field == "*"

theorem selectsAllStrict_eq (q : SelectRows) : q.selectsAllStrict = some q.selectsAll := by
  unfold selectsAllStrict selectsAll
  cases q.fields <;> rfl

def selectionsStrict (q : SelectRows) : Option (List Selection) := do
  if ← q.selectsAllStrict then return [] else q.fields.mapM Selection.ofTextStrict

theorem selectionsStrict_eq (q : SelectRows) : q.selectionsStrict = some q.selections := by
  unfold selectionsStrict selections
  rw [selectsAllStrict_eq, Strict.mapM_some fun field _ => Selection.ofTextStrict_eq field, Option.bind_eq_bind,
    Option.bind_some]
  split <;> rfl

/-- The rows that the offset and the limit leave, as a slice. -/
def pageStrict (q : SelectRows) (rows : List Row) : Option (List Row) :=
  let start := min q.offset rows.length
  match q.limit with
  | none => slice? rows start rows.length
  | some count => slice? rows start (min (start + count) rows.length)

theorem pageStrict_eq (q : SelectRows) (rows : List Row) : q.pageStrict rows = some (q.page rows) := by
  have hdrop : rows.drop (min q.offset rows.length) = rows.drop q.offset := by
    rcases Nat.le_total q.offset rows.length with h | h
    · rw [Nat.min_eq_left h]
    · rw [Nat.min_eq_right h, List.drop_length, List.drop_of_length_le h]
  unfold pageStrict page
  dsimp only
  cases q.limit with
  | none => rw [slice?_length (Nat.min_le_right ..), hdrop]
  | some count =>
    dsimp only
    rw [slice?, if_pos (by omega), List.drop_take, hdrop]
    exact congrArg some (List.take_eq_take_iff.mpr (by rw [List.length_drop]; omega))

/-- The result over the joined rows. -/
def resultStrict (q : SelectRows) (joined : Relation) : Option ResultSet := do
  let fields ← q.selectionsStrict
  let filtered ← joined.filterStrict q.conditions
  if fields.any Selection.isAggregate then
    let row ← filtered.aggregateStrict fields
    return ⟨fields.map Selection.text, [row]⟩
  else
    let sorted ← filtered.sortStrict q.sorting
    let paged ← q.pageStrict sorted.rows
    if ← q.selectsAllStrict then return ⟨joined.header.map HeaderColumn.qualified, paged⟩
    else
      let rows ← paged.mapM (Relation.projectStrict joined.header fields)
      return ⟨fields.map Selection.text, rows⟩

/-- The result is missing where sorting fails, and only there. -/
theorem resultStrict_eq (q : SelectRows) {joined : Relation} (h : joined.Rectangular) :
    q.resultStrict joined = (q.result joined).toOption := by
  unfold resultStrict result
  simp only [selectionsStrict_eq, Relation.filterStrict_eq h, Relation.aggregateStrict_eq (h.filter _),
    Relation.sortStrict_eq (h.filter _), pageStrict_eq, selectsAllStrict_eq, Option.bind_eq_bind,
    Option.bind_some, heading]
  split
  · rfl
  cases hsort : (joined.filter q.conditions).sort q.sorting with
  | error e => rfl
  | ok sorted =>
    have hsorted := (h.filter q.conditions).of_sort hsort
    have hproject : (q.page sorted.rows).mapM (Relation.projectStrict joined.header q.selections) =
        some ((q.page sorted.rows).map (Relation.project joined.header q.selections)) :=
      Strict.mapM_some fun row hrow => Relation.projectStrict_eq
        ((hsorted row (mem_of_mem_page hrow)).trans (by rw [Relation.width, (Relation.of_sort hsort).1]; rfl)) _
    simp only [Except.toOption, Except.map, Option.bind_some, hproject]
    split <;> rfl

end SelectRows

end Leuit
