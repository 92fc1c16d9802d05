import Leuit.Proofs.Slices

/-! The word at the cursor. A line is what ends in its last separator and the word behind that
(`Console.LastWord`). Completion takes this word to start one byte behind the start of the separator, which is
right if the separator takes one byte and inside the separator if it takes more
(`Console.LastWord.wordStart_of_reachable`, `Console.LastWord.cutAt_of_not_reachable`). So where the last
separator takes one byte, or there is none, the word is completed by exactly the entries that start like it, and
the suggestion is what the first one that goes on has after it; and no word is found behind a wider separator
(`Console.last_word_served`). -/
namespace Leuit.Console
open Text (byteCount_append byteCount_cons byteCount_nil cutAt_append slice?_of_append)
variable {line head word front rest : List Char} {c : Char}

/-! ### The last word -/

/-- A line and the word at its end, which is all of it or stands behind a separator. -/
structure LastWord (line head word : List Char) : Prop where
  append : head ++ word = line
  plain : ∀ c ∈ word, isSeparator c = false
  behind : ∀ c ∈ head.getLast?, isSeparator c = true

theorem exists_lastWord (line : List Char) : ∃ head word, LastWord line head word := by
  refine ⟨(line.reverse.dropWhile (!isSeparator ·)).reverse,
    (line.reverse.takeWhile (!isSeparator ·)).reverse, ?_, fun c hc => ?_, fun c hc => ?_⟩
  · rw [← List.reverse_append, List.takeWhile_append_dropWhile, List.reverse_reverse]
  · simpa using List.mem_takeWhile_imp (List.mem_reverse.mp hc)
  · rw [List.getLast?_reverse] at hc
    have hhead := List.head?_dropWhile_not (!isSeparator ·) line.reverse
    rw [Option.mem_def.mp hc] at hhead
    simpa using hhead

/-- The separator in front of the word, if any, takes one byte. -/
def Reachable (head : List Char) : Prop := ∀ c ∈ head.getLast?, c.utf8Size = 1

theorem byteCount_reverse (cs : List Char) : byteCount cs.reverse = byteCount cs := by
  induction cs with
  | nil => rfl
  | cons c cs ih =>
    rw [List.reverse_cons, byteCount_append, ih, byteCount_cons, byteCount_cons, byteCount_nil]
    omega

/-- The word starts at the start of the line, or one byte behind the start of the separator. -/
theorem LastWord.wordStart_eq (h : LastWord line head word) :
    head = [] ∧ wordStart line = 0 ∨
      ∃ front c, head = front ++ [c] ∧ wordStart line = byteCount front + 1 := by
  have hdrop : ∀ rest, (word.reverse ++ rest).dropWhile (!isSeparator ·) =
      rest.dropWhile (!isSeparator ·) := by
    intro rest
    refine List.dropWhile_append_of_pos fun c hc => ?_
    rw [h.plain c (List.mem_reverse.mp hc)]
    rfl
  obtain ⟨rfl, -, hbehind⟩ := h
  rw [wordStart, List.reverse_append, hdrop]
  rcases List.eq_nil_or_concat head with rfl | ⟨front, c, rfl⟩
  · exact .inl ⟨rfl, rfl⟩
  · have hseparator : isSeparator c = true := hbehind c (by simp)
    refine .inr ⟨front, c, by simp, ?_⟩
    simp [hseparator, byteCount_reverse]

theorem LastWord.wordStart_of_reachable (h : LastWord line head word) (hreach : Reachable head) :
    wordStart line = byteCount head := by
  rcases h.wordStart_eq with ⟨rfl, hstart⟩ | ⟨front, c, rfl, hstart⟩
  · exact hstart
  · have hone : c.utf8Size = 1 := hreach c (by simp)
    rw [hstart, byteCount_append, byteCount_cons, hone, byteCount_nil]

theorem cutAt_cons (c : Char) (rest : List Char) {position : Nat} (hpos : 0 < position) :
    cutAt (c :: rest) position =
      if c.utf8Size ≤ position then
        (cutAt rest (position - c.utf8Size)).map fun (before, after) => (c :: before, after)
      else .error .offBoundary := by
  cases position with
  | zero => cases hpos
  | succ n => rfl

/-- There is no position inside a character. -/
theorem cutAt_inside (front rest : List Char) {k : Nat} (hpos : 0 < k) (hlt : k < c.utf8Size) :
    cutAt (front ++ c :: rest) (byteCount front + k) = .error .offBoundary := by
  induction front with
  | nil => rw [List.nil_append, byteCount_nil, Nat.zero_add, cutAt_cons c rest hpos, if_neg (by omega)]
  | cons x front ih =>
    have hrest : byteCount (x :: front) + k - x.utf8Size = byteCount front + k := by
      rw [byteCount_cons]
      omega
    rw [List.cons_append, cutAt_cons x _ (by omega), if_pos (by rw [byteCount_cons]; omega), hrest, ih]
    rfl

theorem LastWord.cutAt_of_not_reachable (h : LastWord line head word) (hreach : ¬Reachable head) :
    cutAt line (wordStart line) = .error .offBoundary := by
  rcases h.wordStart_eq with ⟨rfl, -⟩ | ⟨front, c, rfl, hstart⟩
  · exact absurd (fun c hc => by cases hc) hreach
  · have hwide : 1 < c.utf8Size := by
      have hpos := c.utf8Size_pos
      have hne : c.utf8Size ≠ 1 := fun hone => hreach fun c' hc' => by simp_all
      omega
    rw [hstart, ← h.append, List.append_assoc]
    exact cutAt_inside front word Nat.one_pos hwide

/-! ### Completion -/

/-- The entries that complete the word before a position, and where it starts. -/
structure Completed (line : List Char) (position start : Nat) (entries : List String) (word : List Char) :
    Prop where
  start_le : start ≤ position
  /-- Both positions are between characters, and the word stands between them. -/
  slice : Text.slice? line start position = some word
  plain : ∀ c ∈ word, isSeparator c = false
  behind : start = 0 ∨ ∃ front c rest, line = front ++ c :: rest ∧ isSeparator c = true ∧
    start = byteCount front + c.utf8Size
  /-- In the order of the table. -/
  entries_eq : entries = completions.filter fun entry =>
    decide (word ≠ [] ∧ Text.upperList word <+: Text.upperList entry.toList)

theorem candidates_eq (word : List Char) :
    candidates word = completions.filter fun entry =>
      decide (word ≠ [] ∧ Text.upperList word <+: Text.upperList entry.toList) := by
  unfold candidates
  cases word with
  | nil => simp
  | cons c word =>
    refine List.filter_congr fun entry _ => ?_
    rw [Bool.eq_iff_iff, List.isPrefixOf_iff_prefix, decide_eq_true_eq]
    exact (and_iff_right (List.cons_ne_nil c word)).symm

theorem LastWord.complete_of_reachable {before after : List Char} (h : LastWord before head word)
    (hreach : Reachable head) :
    complete (before ++ after) (byteCount before) = .ok (byteCount head, candidates word) := by
  rw [complete, cutAt_append]
  simp only [h.wordStart_of_reachable hreach]
  rw [← h.append, cutAt_append]

theorem LastWord.completed {before : List Char} (h : LastWord before head word) (after : List Char) :
    Completed (before ++ after) (byteCount before) (byteCount head) (candidates word) word where
  start_le := by
    rw [← h.append, byteCount_append]
    omega
  slice := slice?_of_append (by rw [← h.append, List.append_assoc]) rfl (by rw [← h.append, byteCount_append])
  plain := h.plain
  behind := by
    rcases List.eq_nil_or_concat head with rfl | ⟨front, c, rfl⟩
    · exact .inl rfl
    · refine .inr ⟨front, c, word ++ after, ?_, h.behind c (by simp), ?_⟩
      · simp [← h.append]
      · simp
  entries_eq := candidates_eq word

theorem LastWord.complete_of_not_reachable {before : List Char} (h : LastWord before head word)
    (hreach : ¬Reachable head) (after : List Char) :
    complete (before ++ after) (byteCount before) = .error .offBoundary := by
  rw [complete, cutAt_append]
  simp only [h.cutAt_of_not_reachable hreach]

/-! ### Suggestions -/

/-- The entry goes on where the word ends. -/
def Extends (word : List Char) (entry : String) : Prop :=
  ∃ text, text ≠ "" ∧ entry = String.ofList word ++ text

/-- The word, and the text that the first entry which extends it has after it. -/
inductive Suggests (word : List Char) : Option String → Prop
  | nothing (h : word = [] ∨ ∀ entry ∈ completions, ¬Extends word entry) : Suggests word none
  | rest {front back : List String} {text : String} (hword : word ≠ []) (htext : text ≠ "")
    (hentry : completions = front ++ (String.ofList word ++ text) :: back)
    (hfront : ∀ other ∈ front, ¬Extends word other) : Suggests word (some text)

theorem extends_iff {entry : String} :
    (word.isPrefixOf entry.toList && decide (word.length < entry.length)) = true ↔ Extends word entry := by
  rw [Bool.and_eq_true, List.isPrefixOf_iff_prefix, decide_eq_true_eq]
  constructor
  · rintro ⟨⟨rest, hrest⟩, hlt⟩
    refine ⟨String.ofList rest, ?_, ?_⟩
    · intro hempty
      rw [← String.length_toList, ← hrest] at hlt
      simp_all
    · rw [← String.toList_inj, String.toList_append, String.toList_ofList, String.toList_ofList, hrest]
  · rintro ⟨text, htext, rfl⟩
    rw [String.toList_append, String.toList_ofList, String.length_append, String.length_ofList]
    refine ⟨List.prefix_append .., ?_⟩
    have : text.length ≠ 0 := by simpa using htext
    omega

theorem suggests_extension? (word : List Char) : Suggests word (extension? word) := by
  unfold extension?
  split
  · next hempty => exact .nothing (.inl (List.isEmpty_iff.mp hempty))
  · next hempty =>
    have hword : word ≠ [] := fun h => hempty (List.isEmpty_iff.mpr h)
    cases hfind : completions.find? fun entry => word.isPrefixOf entry.toList && word.length < entry.length with
    | none =>
      refine .nothing (.inr fun entry hentry hextends => ?_)
      exact List.find?_eq_none.mp hfind entry hentry (extends_iff.mpr hextends)
    | some entry =>
      obtain ⟨hentry, front, back, hsplit, hfront⟩ := List.find?_eq_some_iff_append.mp hfind
      obtain ⟨text, htext, rfl⟩ := extends_iff.mp hentry
      rw [Option.map_some, String.toList_append, String.toList_ofList, List.drop_left, String.ofList_toList]
      refine .rest hword htext hsplit fun other hother hextends => ?_
      have hnot := hfront other hother
      rw [extends_iff.mpr hextends] at hnot
      cases hnot

theorem LastWord.hint_of_reachable (h : LastWord line head word) (hreach : Reachable head) (beyond : Nat) :
    hint line (byteCount line + beyond) = .ok (extension? word) := by
  rw [hint, if_neg (by omega), h.wordStart_of_reachable hreach]
  rw [← h.append, cutAt_append]
  rfl

theorem LastWord.hint_of_not_reachable (h : LastWord line head word) (hreach : ¬Reachable head) (beyond : Nat) :
    hint line (byteCount line + beyond) = .error .offBoundary := by
  rw [hint, if_neg (by omega), h.cutAt_of_not_reachable hreach]
  rfl

/-! ### Both -/

/-- What becomes of the last word of a line, which stands at the cursor, with text behind it or not. -/
structure WordServed (before after : List Char) (beyond : Nat) (head word : List Char) : Prop where
  last : LastWord before head word
  completed : Reachable head → ∃ entries,
    complete (before ++ after) (byteCount before) = .ok (byteCount head, entries) ∧
      Completed (before ++ after) (byteCount before) (byteCount head) entries word
  hinted : Reachable head → ∃ suggestion, hint before (byteCount before + beyond) = .ok suggestion ∧
    Suggests word suggestion
  /-- Behind a separator of several bytes there is no completion and no suggestion. -/
  lost : ¬Reachable head → complete (before ++ after) (byteCount before) = .error .offBoundary ∧
    hint before (byteCount before + beyond) = .error .offBoundary

/-- **The last word is completed** unless the separator in front of it takes several bytes: where it starts, by
the entries that start like it in any letter case; and at the end of a line it is suggested to go on as the first
entry that does. -/
theorem last_word_served (before after : List Char) (beyond : Nat) :
    ∃ head word, WordServed before after beyond head word := by
  obtain ⟨head, word, h⟩ := exists_lastWord before
  refine ⟨head, word, h, fun hreach => ?_, fun hreach => ?_, fun hreach => ?_⟩
  · exact ⟨_, h.complete_of_reachable hreach, h.completed after⟩
  · exact ⟨_, h.hint_of_reachable hreach beyond, suggests_extension? word⟩
  · exact ⟨h.complete_of_not_reachable hreach after, h.hint_of_not_reachable hreach beyond⟩

/-- Letters are completed in any case, and suggestions only continue what is typed. -/
example : complete "SELECT a fr, t".toList 11 = .ok (9, ["FROM"]) ∧
    hint "(TENDE".toList 6 = .ok (some "UN") := by
  decide +kernel

/-- **Behind a wide blank no word is completed.** The blank takes two bytes, so the word starts at the third. -/
theorem word_behind_wide_blank_lost :
    let line := ['\u00a0', 't', 'e']
    cutAt line (byteCount line) = .ok (line, []) ∧ LastWord line ['\u00a0'] ['t', 'e'] ∧
      candidates ['t', 'e'] = ["TENDEUN", "TENJO"] ∧ complete line (byteCount line) = .error .offBoundary ∧
      hint line (byteCount line) = .error .offBoundary := by
  intro line
  have hword : LastWord line ['\u00a0'] ['t', 'e'] := by
    refine ⟨rfl, List.forall_mem_cons.mpr ⟨by decide, fun c hc => ?_⟩, fun c hc => ?_⟩
    · rw [List.mem_singleton.mp hc]
      decide
    · cases hc
      decide
  exact ⟨by decide +kernel, hword, by decide +kernel, by decide +kernel, by decide +kernel⟩

end Leuit.Console
