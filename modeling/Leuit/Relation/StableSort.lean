/-! Stable sorting by a comparison that may be no order. A short list is sorted by insertion. A longer one is
cut into runs: a part that is in order as it stands is one, and so is a part of a certain length, which is
sorted by partition around pivots as soon as it has to be. Runs are merged in pairs, near ones first. Parts of up
to `shortest` elements are sorted in two halves that are merged from both of their ends at once; if the
comparison contradicts itself, these merges may meet in the wrong place, and then sorting fails. The result of
a total preorder is the one stable sorting there is; another comparison leaves the elements in an order that
depends on all the steps here. -/
namespace Leuit.StableSort
variable {α : Type} (less : α → α → Bool)

/-! ### Short lists -/

/-- Puts an element into a list, given from its end, behind the last one that it is not less than. -/
def insertBack (x : α) : List α → List α
  | [] => [x]
  | y :: rest => if less x y then y :: insertBack x rest else x :: y :: rest

/-- Inserts elements one after the other into a sorted list. -/
def insertAll (sorted xs : List α) : List α :=
  (xs.foldl (fun back x => insertBack less x back) sorted.reverse).reverse

/-- Two elements, the second first if it is less. -/
def inOrder (a b : α) : α × α := if less b a then (b, a) else (a, b)

/-- Merges two sorted pairs with three comparisons. -/
def mergePairs : α × α → α × α → List α
  | (low₁, high₁), (low₂, high₂) =>
    let second := less low₂ low₁
    let first := less high₂ high₁
    let low := if second then low₂ else low₁
    let high := if first then high₁ else high₂
    -- Of the two others, this is the one that must stay on the left if they are level.
    let left := if second then low₁ else if first then low₂ else high₁
    let right := if first then high₂ else if second then high₁ else low₂
    if less right left then [low, right, left, high] else [low, left, right, high]

/-- Sorts four elements. -/
def sortFour (a b c d : α) : List α := mergePairs less (inOrder less a b) (inOrder less c d)

/-- Sorts one half of a part. -/
def sortHalf (byFour : Bool) (xs : List α) : List α :=
  match byFour, xs with
  | true, a :: b :: c :: d :: rest => insertAll less (sortFour less a b c d) rest
  | _, xs => insertAll less [] xs

/-- Takes elements from the starts of two lists, as many as asked for unless one list ends: those taken, and
what is left of both. -/
def takeMerged (takesLeft : α → α → Bool) : Nat → List α → List α → List α × List α × List α
  | n + 1, l :: left, r :: right =>
    if takesLeft l r then
      let (taken, left, right) := takeMerged takesLeft n left (r :: right)
      (l :: taken, left, right)
    else
      let (taken, left, right) := takeMerged takesLeft n (l :: left) right
      (r :: taken, left, right)
  | _, left, right => ([], left, right)

/-- Merges two halves, the right one with at most one element more, from both ends at once. Every element must
be taken exactly once, so what is taken from the start of a half must not reach into what is taken from its end.
Between the two there is at most one element of one half. -/
def mergeHalves (left right : List α) : Option (List α) :=
  let (low, left₁, right₁) := takeMerged (fun l r => !less r l) left.length left right
  let (high, left₂, right₂) := takeMerged (fun l r => less r l) left.length left.reverse right.reverse
  if left.length ≤ left₁.length + left₂.length ∧ right.length ≤ right₁.length + right₂.length then
    some (low ++ left₁.take (left₁.length + left₂.length - left.length) ++
      right₁.take (right₁.length + right₂.length - right.length) ++ high.reverse)
  else none

/-- The most elements that are sorted in two halves. -/
def shortest : Nat := 32

def sortShort (xs : List α) : Option (List α) :=
  if xs.length < 2 then some xs
  else
    let byFour := 8 ≤ xs.length
    mergeHalves less (sortHalf less byFour (xs.take (xs.length / 2)))
      (sortHalf less byFour (xs.drop (xs.length / 2)))

/-! ### Partition -/

/-- Whether the element at a position is less than the one at another. -/
def lessAt (xs : List α) (i j : Nat) : Bool :=
  match xs[i]?, xs[j]? with
  | some a, some b => less a b
  | _, _ => false

/-- The position of the median of the elements at three positions. -/
def median (xs : List α) (a b c : Nat) : Nat :=
  let x := lessAt less xs a b
  if x = lessAt less xs a c then
    if lessAt less xs b c = x then b else c
  else a

/-- The position of the median of three elements, each of which is taken for the medians of the elements
behind it as long as there are many. -/
def medianOf (xs : List α) (n a b c : Nat) : Nat :=
  if 64 ≤ n * 8 then
    let near (a : Nat) := medianOf xs (n / 8) a (a + n / 8 * 4) (a + n / 8 * 7)
    median less xs (near a) (near b) (near c)
  else median less xs a b c
termination_by n

def pivot (xs : List α) : Nat :=
  let n := xs.length / 8
  if xs.length < 64 then median less xs 0 (n * 4) (n * 7) else medianOf less xs n 0 (n * 4) (n * 7)

/-- Sorts a list by partition, around no more pivots than the limit; what is then left is sorted otherwise.
The ancestor is the pivot that the elements were not less than: elements level with it are in place. -/
def sortParts (otherwise : List α → Option (List α)) : Nat → Option α → List α → Option (List α)
  | limit, ancestor, xs =>
    if xs.length ≤ shortest then sortShort less xs
    else
      match limit with
      | 0 => otherwise xs
      | limit + 1 =>
        let (before, rest) := xs.splitAt (pivot less xs)
        match rest with
        | [] => none
        | p :: after =>
          let below := before.filter (less · p) ++ after.filter (less · p)
          if ancestor.any (!less · p) || below.isEmpty then
            let level := before.filter (!less p ·) ++ p :: after.filter (!less p ·)
            let above := before.filter (less p) ++ after.filter (less p)
            (sortParts otherwise limit none above).map (level ++ ·)
          else do
            let high ← sortParts otherwise limit (some p) (before.filter (!less · p) ++ p ::
              after.filter (!less · p))
            let low ← sortParts otherwise limit ancestor below
            return low ++ high

/-! ### Runs -/

/-- A part of a list, which may be sorted already. -/
structure Run (α : Type) where
  items : List α
  isSorted : Bool

/-- How many elements go on falling, or not falling, after one. -/
def goesOn (falling : Bool) (last : α) : List α → Nat
  | [] => 0
  | x :: rest => if less x last = falling then goesOn falling x rest + 1 else 0

/-- How many elements at the start of a list are in order or fall all the way, and whether they fall. -/
def orderedStart : List α → Nat × Bool
  | a :: b :: rest => (goesOn less (less b a) b rest + 2, less b a)
  | xs => (xs.length, false)

/-- The first run of a list, and what follows it. Without many elements in order, it has as many as are sorted
in two halves if it is to be sorted at once, and else `good` ones. -/
def firstRun (eager : Bool) (good : Nat) (xs : List α) : Option (Run α × List α) :=
  let (n, falling) := orderedStart less xs
  if good ≤ n then
    some (⟨if falling then (xs.take n).reverse else xs.take n, true⟩, xs.drop n)
  else if eager then
    (sortShort less (xs.take shortest)).map fun items => (⟨items, true⟩, xs.drop shortest)
  else some (⟨xs.take good, false⟩, xs.drop good)

/-- The runs of a list, no more than a number that has to suffice. -/
def runs (eager : Bool) (good : Nat) : Nat → List α → Option (List (Run α))
  | _, [] => some []
  | 0, _ => none
  | n + 1, xs => do
    let (run, rest) ← firstRun less eager good xs
    return run :: (← runs eager good n rest)

/-- The length that makes a run in order worth keeping: about the root of the length of the list. -/
def goodLength (length : Nat) : Nat :=
  if length ≤ 64 * 64 then min (length - length / 2) 64
  else
    let shift := (1 + length.log2) / 2
    ((1 <<< shift) + (length >>> shift)) / 2

/-! ### Merging runs -/

/-- Merges two sorted lists, from the end if the right one is shorter. -/
def merge (left right : List α) : List α :=
  if left.length ≤ right.length then left.merge right fun l r => !less r l
  else (right.reverse.merge left.reverse fun r l => !less r l).reverse

section
variable (capacity : Nat) (sortAll : List α → Option (List α))

def Run.settle (r : Run α) : Option (List α) := if r.isSorted then some r.items else sortAll r.items

/-- Joins two runs that follow each other. Two that are not sorted stay so if they can be sorted together. -/
def Run.join (left right : Run α) : Option (Run α) :=
  if left.items.length + right.items.length ≤ capacity && !left.isSorted && !right.isSorted then
    some ⟨left.items ++ right.items, false⟩
  else do
    return ⟨merge less (← left.settle sortAll) (← right.settle sortAll), true⟩

/-- Joins a run with those before it, the last one first, as long as they are at the given depth or deeper. -/
def collapse (depth : Nat) : List (Run α × Nat) → Run α → Option (Run α × List (Run α × Nat))
  | (left, d) :: waiting, run =>
    if depth ≤ d then do collapse depth waiting (← left.join less capacity sortAll run)
    else some (run, (left, d) :: waiting)
  | [], run => some (run, [])

/-- How deep in the tree of merges two neighbours are merged, by where they start and end in a list of a
length: the deeper the nearer the list's middle parts they are. -/
def depthOf (length start middle stop : Nat) : Nat :=
  let scale := ((1 <<< 62) + length - 1) / length
  let apart := (scale * (start + middle)) ^^^ (scale * (middle + stop))
  if apart = 0 then 64 else 63 - apart.log2

/-- Joins runs to one. Those that wait are followed by the run in hand, which starts at the given place, and
that by the others. -/
def joinAll (length start : Nat) (waiting : List (Run α × Nat)) (run : Run α) :
    List (Run α) → Option (Run α)
  | [] => (collapse less capacity sortAll 0 waiting run).map (·.1)
  | next :: others => do
    let middle := start + run.items.length
    let depth := depthOf length start middle (middle + next.items.length)
    let (joined, waiting) ← collapse less capacity sortAll depth waiting run
    joinAll length middle ((joined, depth) :: waiting) next others

/-- Sorts a list by its runs. -/
def sortRuns (eager : Bool) (xs : List α) : Option (List α) := do
  match ← runs less eager (goodLength xs.length) xs.length xs with
  | [] => return []
  | first :: others => (← joinAll less capacity sortAll xs.length 0 [] first others).settle sortAll

end

/-! ### Whole lists -/

/-- Sorts an unsorted run. Where too many pivots were bad, the rest is sorted by runs that are sorted at once, of
which none is left unsorted. -/
def sortUnsorted (xs : List α) : Option (List α) :=
  sortParts less (sortRuns less 0 some true) (2 * (max xs.length 1).log2) none xs

/-- The most elements that are sorted by insertion. -/
def insertable : Nat := 20

/-- The most elements that unsorted runs may be joined to: what there is place for beside the list, which is
half of a very long one. -/
def capacityFor (length : Nat) : Nat := max (length - length / 2) (max (min length 333333) 48)

/-- Sorts a list; none if the comparison is found to contradict itself. -/
def sort (xs : List α) : Option (List α) :=
  if xs.length ≤ insertable then some (insertAll less [] xs)
  else sortRuns less (capacityFor xs.length) (sortUnsorted less) (xs.length ≤ 2 * shortest) xs

end Leuit.StableSort
