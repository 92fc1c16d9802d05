import Leuit.Text.Case
import Leuit.Text.ClusterTable

/-! Clusters: the characters that a reader sees, each made of one code point or several. A mark belongs
to the letter before it, the parts of a syllable block belong together, and so do joined pictographs, the
two halves of a flag and the consonants of a conjunct. Whether a character goes on with the cluster before
it depends on its class and on a bounded memory of what came before. -/
namespace Leuit.Text

inductive ClusterClass where
  | carriageReturn
  | lineFeed
  | control
  | extend
  | joiner
  | spacing
  | prepended
  | regional
  | leading
  | vowel
  | trailing
  /-- A whole syllable without a trailing consonant. -/
  | openSyllable
  /-- A whole syllable with a trailing consonant. -/
  | closedSyllable
  | pictograph
  | consonant
  | other
deriving DecidableEq, Repr

/-! ### Classes -/

/-- The class of a part of a syllable block, or of a whole one. -/
def syllableClass? (n : Nat) : Option ClusterClass :=
  if inSyllables 0x1100 0x115F || inSyllables 0xA960 0xA97C then some .leading
  else if inSyllables 0x1160 0x11A7 || inSyllables 0xD7B0 0xD7C6 || inSyllables 0x16D63 0x16D63 ||
    inSyllables 0x16D67 0x16D6A then some .vowel
  else if inSyllables 0x11A8 0x11FF || inSyllables 0xD7CB 0xD7FB then some .trailing
  else if inSyllables 0xAC00 0xD7A3 then
    some (if (n - 0xAC00) % 28 = 0 then .openSyllable else .closedSyllable)
  else none
where
  inSyllables (first last : Nat) : Bool := first ≤ n && n ≤ last

def clusterClass (c : Char) : ClusterClass :=
  if c = '\r' then .carriageReturn
  else if c = '\n' then .lineFeed
  else if c.toNat = 0x200D then .joiner
  else if inRanges controlRanges c then .control
  else if c.toNat < 128 then .other
  else if inRanges extendRanges c then .extend
  else if inRanges spacingRanges c then .spacing
  else if inRanges prependedRanges c then .prepended
  else if 0x1F1E6 ≤ c.toNat ∧ c.toNat ≤ 0x1F1FF then .regional
  else if inRanges pictographRanges c then .pictograph
  else if inRanges consonantRanges c then .consonant
  else (syllableClass? c.toNat).getD .other

/-! ### Memory -/

/-- How far a sequence that a pictograph may go on with has come. -/
inductive PictographState where
  | none
  /-- A pictograph, with marks or not. -/
  | started
  /-- A pictograph and a joiner. -/
  | joined
deriving DecidableEq, Repr

/-- How far a conjunct has come. -/
inductive ConjunctState where
  | none
  | started
  /-- A linker came after the last consonant. -/
  | linked
deriving DecidableEq, Repr

/-- What matters of the characters so far. -/
structure ClusterState where
  last : ClusterClass
  pictograph : PictographState
  conjunct : ConjunctState
  /-- An odd number of halves of flags stands at the end. -/
  halfFlag : Bool

namespace ClusterState

/-- The memory of nothing, after which a cluster begins. -/
def initial : ClusterState := ⟨.control, .none, .none, false⟩

def next (s : ClusterState) (c : Char) : ClusterState where
  last := clusterClass c
  pictograph := match clusterClass c, s.pictograph with
    | .pictograph, _ => .started
    | .extend, .started => .started
    | .joiner, .started => .joined
    | _, _ => .none
  conjunct := match clusterClass c, s.conjunct with
    | .consonant, _ => .started
    | .extend, .none => .none
    | .extend, state =>
      if inRanges linkerRanges c then .linked else if c.toNat = 0x200C then .none else state
    | .joiner, state => state
    | _, _ => .none
  halfFlag := clusterClass c = .regional && !s.halfFlag

/-- Whether a character of the class goes on with the cluster before it. -/
def goesOn (s : ClusterState) (next : ClusterClass) : Bool :=
  match s.last, next with
  | .carriageReturn, .lineFeed => true
  | .carriageReturn, _ | .lineFeed, _ | .control, _ => false
  | _, .carriageReturn | _, .lineFeed | _, .control => false
  | .leading, .leading | .leading, .vowel | .leading, .openSyllable | .leading, .closedSyllable => true
  | .openSyllable, .vowel | .openSyllable, .trailing | .vowel, .vowel | .vowel, .trailing => true
  | .closedSyllable, .trailing | .trailing, .trailing => true
  | _, .extend | _, .joiner | _, .spacing => true
  | .prepended, _ => true
  | _, .consonant => s.conjunct = .linked
  | .joiner, .pictograph => s.pictograph = .joined
  | .regional, .regional => s.halfFlag
  | _, _ => false

end ClusterState

/-! ### Clusters -/

/-- The clusters of a row of characters after others, of which `current` holds those of the cluster that
is not complete, the nearest first. -/
def clustersAfter (s : ClusterState) (current : List Char) : List Char → List (List Char)
  | [] => if current.isEmpty then [] else [current.reverse]
  | c :: rest =>
    if s.goesOn (clusterClass c) then clustersAfter (s.next c) (c :: current) rest
    else
      let more := clustersAfter (s.next c) [c] rest
      if current.isEmpty then more else current.reverse :: more

def clusters (cs : List Char) : List (List Char) := clustersAfter .initial [] cs

/-- Nothing is lost between clusters. -/
theorem flatten_clustersAfter (s : ClusterState) (current cs : List Char) :
    (clustersAfter s current cs).flatten = current.reverse ++ cs := by
  induction cs generalizing s current with
  | nil => cases current <;> simp [clustersAfter]
  | cons c rest ih =>
    unfold clustersAfter
    split
    · simp [ih]
    · cases current <;> simp [ih]

theorem flatten_clusters (cs : List Char) : (clusters cs).flatten = cs :=
  flatten_clustersAfter .initial [] cs

end Leuit.Text
