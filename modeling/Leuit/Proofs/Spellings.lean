import Leuit.Proofs.CreatedGrants
import Leuit.Proofs.Dates

/-! What queries are spelled with. A keyword or an operator has one of its spellings, in any case of ASCII
letters (`Keyword.SpelledAs`, `Operator.SpelledAs`). A name is a word that spells no keyword (`Identifier`),
and a literal stands in quotes, so it spells none either (`Text.quoted`). A text of such pieces falls apart
into them again (`queryWords_intercalate`). -/
namespace Leuit

/-! ### The case of letters -/

namespace Text
variable {a b : String}

theorem toLower_of_not_ascii {c : Char} (h : ¬c.toNat < 128) : c.toLower = c := by
  unfold Char.toLower
  split
  · next hupper =>
    have : c.toNat ≤ 90 := UInt32.le_iff_toNat_le.mp hupper.2
    omega
  · rfl

/-- What holds of the ASCII letters one by one, and of all other characters because they are their own
lower case. -/
theorem forall_char_toLower {α : Type} {f : Char → α}
    (hascii : ∀ n < 128, f (Char.ofNat n).toLower = f (Char.ofNat n)) (c : Char) : f c.toLower = f c := by
  by_cases hc : c.toNat < 128
  · have := hascii c.toNat hc
    rwa [Char.ofNat_toNat] at this
  · rw [toLower_of_not_ascii hc]

theorem upperChar_toLower (c : Char) : upperChar c.toLower = upperChar c :=
  forall_char_toLower (by decide +kernel) c

theorem isBlank_toLower (c : Char) : isBlank c.toLower = isBlank c :=
  forall_char_toLower (by decide +kernel) c

theorem upper_of_sameIgnoringCase (h : sameIgnoringCase a b = true) : upper a = upper b := by
  have hmap : ∀ cs : List Char, upperList (cs.map Char.toLower) = upperList cs := fun cs => by
    simp only [upperList, List.flatMap_map, upperChar_toLower]
  rw [upper, upper, ← hmap a.toList, ← hmap b.toList, beq_iff_eq.mp h]

/-! ### Words -/

/-- A text that is one word. -/
structure Word (s : String) : Prop where
  nonempty : s ≠ ""
  bare : Bare s.toList

instance (s : String) : Decidable (Word s) :=
  decidable_of_iff (s ≠ "" ∧ Bare s.toList)
    ⟨fun ⟨hne, hbare⟩ => ⟨hne, hbare⟩, fun ⟨hne, hbare⟩ => ⟨hne, hbare⟩⟩

theorem Word.of_sameIgnoringCase (hb : Word b) (h : sameIgnoringCase a b = true) : Word a := by
  have hmap := beq_iff_eq.mp h
  constructor
  · rintro rfl
    exact hb.nonempty (String.toList_eq_nil_iff.mp (List.map_eq_nil_iff.mp hmap.symm))
  · intro c hc
    have hmem : c.toLower ∈ b.toList.map Char.toLower := hmap ▸ List.mem_map_of_mem hc
    obtain ⟨d, hd, heq⟩ := List.mem_map.mp hmem
    rw [← isBlank_toLower, ← heq, isBlank_toLower]
    exact hb.bare d hd

theorem Word.words (h : Word a) : words a = [a] := by
  have hne : a.toList ≠ [] := mt String.toList_eq_nil_iff.mp h.nonempty
  simp [Text.words, List.splitOnP_eq_singleton h.bare, hne]

theorem flatMap_words {pieces : List String} (h : ∀ w ∈ pieces, Word w) : pieces.flatMap words = pieces := by
  rw [List.flatMap_congr fun w hw => (h w hw).words]
  simp

theorem words_append (a b : String) : words (a ++ " " ++ b) = words a ++ words b := by
  have hlist : (a ++ " " ++ b).toList = a.toList ++ ' ' :: b.toList := by simp
  simp only [words, hlist, List.splitOnP_append_cons _ _ (show isBlank ' ' = true by decide),
    List.filter_append, List.map_append]

theorem words_intercalate (pieces : List String) : words (" ".intercalate pieces) = pieces.flatMap words := by
  induction pieces with
  | nil => rfl
  | cons first rest ih =>
    match rest with
    | [] => simp
    | second :: rest =>
      rw [String.intercalate_cons_cons, words_append, ih]
      rfl

end Text

/-- The words of a text that ends with a semicolon. -/
theorem queryWords_intercalate {first : String} {rest : List String} (hfirst : Text.Word first) :
    queryWords (" ".intercalate (first :: rest) ++ ";") = .ok (first :: rest.flatMap Text.words) := by
  obtain ⟨more, hmore⟩ : ∃ more, (" ".intercalate (first :: rest)).toList = first.toList ++ more := by
    match rest with
    | [] => exact ⟨[], by simp⟩
    | second :: rest =>
      exact ⟨_, by rw [String.intercalate_cons_cons, String.append_assoc, String.toList_append]⟩
  have hlist : (" ".intercalate (first :: rest) ++ ";").toList = first.toList ++ (more ++ [';']) := by
    rw [String.toList_append, hmore, List.append_assoc]
    rfl
  have hends : Text.BareEnds (" ".intercalate (first :: rest) ++ ";").toList := by
    obtain ⟨c, hc, hblank⟩ := (hfirst.bare.bareEnds (mt String.toList_eq_nil_iff.mp hfirst.nonempty)).head
    refine ⟨⟨c, ?_, hblank⟩, ';', ?_, by decide⟩
    · rw [hlist, List.head?_append, hc]
      rfl
    · rw [hlist, ← List.append_assoc, List.getLast?_concat]
  have hwords : Text.words (String.ofList (first.toList ++ more)) = first :: rest.flatMap Text.words := by
    rw [← hmore, String.ofList_toList, Text.words_intercalate, List.flatMap_cons, hfirst.words]
    rfl
  rw [← List.append_assoc] at hlist
  unfold queryWords
  dsimp only
  rw [hends.trim, hlist, List.getLast?_concat, if_pos rfl, List.dropLast_concat, hwords]

/-! ### Keywords and operators -/

/-- One of some spellings, in any case of ASCII letters. -/
def Text.SpelledAs (word : String) (spellings : List String) : Prop :=
  ∃ spelling ∈ spellings, sameIgnoringCase word spelling = true

instance (word : String) (spellings : List String) : Decidable (Text.SpelledAs word spellings) :=
  inferInstanceAs (Decidable (∃ spelling ∈ spellings, Text.sameIgnoringCase word spelling = true))

namespace Keyword
variable {k : Keyword} {word : String}

def SpelledAs (k : Keyword) (word : String) : Prop := Text.SpelledAs word k.spellings

instance (k : Keyword) (word : String) : Decidable (k.SpelledAs word) :=
  inferInstanceAs (Decidable (Text.SpelledAs _ _))

theorem ofWord?_congr {other : String} (h : Text.sameIgnoringCase word other = true) :
    ofWord? word = ofWord? other := by
  rw [ofWord?, ofWord?, Text.upper_of_sameIgnoringCase h]

theorem of_mem_table : ∀ entry ∈ table, ofWord? entry.1 = some entry.2 ∧ Text.Word entry.1 := by
  decide +kernel

theorem SpelledAs.mem_table (h : k.SpelledAs word) :
    ∃ spelling, (spelling, k) ∈ table ∧ Text.sameIgnoringCase word spelling = true := by
  obtain ⟨spelling, hmem, hsame⟩ := h
  obtain ⟨⟨other, k'⟩, hentry, rfl⟩ := List.mem_map.mp hmem
  obtain ⟨htable, hk⟩ := List.mem_filter.mp hentry
  obtain rfl : k' = k := of_decide_eq_true hk
  exact ⟨other, htable, hsame⟩

theorem SpelledAs.ofWord? (h : k.SpelledAs word) : ofWord? word = some k := by
  obtain ⟨spelling, htable, hsame⟩ := h.mem_table
  rw [ofWord?_congr hsame]
  exact (of_mem_table _ htable).1

theorem SpelledAs.isSpelled (h : k.SpelledAs word) : k.isSpelled word = true :=
  decide_eq_true h.ofWord?

theorem SpelledAs.isWord (h : k.SpelledAs word) : Text.Word word := by
  obtain ⟨spelling, htable, hsame⟩ := h.mem_table
  exact (of_mem_table _ htable).2.of_sameIgnoringCase hsame

theorem ofWord?_of_mem {c : Char} (hc : Text.upperChar c = [c])
    (hspelling : ∀ entry ∈ table, c ∉ entry.1.toList) (h : c ∈ word.toList) :
    Keyword.ofWord? word = none := by
  cases hk : Keyword.ofWord? word with
  | none => rfl
  | some k => exact absurd h (not_mem_of_ofWord? hc hspelling hk)

theorem isSpelled_of_ofWord? {other : Keyword} (h : ofWord? word = some other) (hne : other ≠ k) :
    k.isSpelled word = false := by
  rw [isSpelled, h]
  simpa using hne

theorem isSpelled_of_none (h : ofWord? word = none) : k.isSpelled word = false := by
  rw [isSpelled, h]
  rfl

end Keyword

namespace Operator
variable {operator : Operator} {word : String}

def spellings : Operator → List String
  | eq => ["=", "=="]
  | ne => ["!=", "<>"]
  | gt => [">"]
  | lt => ["<"]
  | ge => [">="]
  | le => ["<="]
  | like => ["JIGA", "LIKE"]

def SpelledAs (operator : Operator) (word : String) : Prop := Text.SpelledAs word operator.spellings

instance (operator : Operator) (word : String) : Decidable (operator.SpelledAs word) :=
  inferInstanceAs (Decidable (Text.SpelledAs _ _))

theorem of_mem_spellings (operator : Operator) : ∀ spelling ∈ operator.spellings,
    ofText spelling = .ok operator ∧ Text.Word spelling ∧ Keyword.ofWord? spelling = none := by
  cases operator <;> decide +kernel

theorem SpelledAs.ofText (h : operator.SpelledAs word) : ofText word = .ok operator := by
  obtain ⟨spelling, hmem, hsame⟩ := h
  rw [← (of_mem_spellings operator spelling hmem).1]
  unfold Operator.ofText
  rw [Text.upper_of_sameIgnoringCase hsame]

theorem SpelledAs.isWord (h : operator.SpelledAs word) : Text.Word word := by
  obtain ⟨spelling, hmem, hsame⟩ := h
  exact (of_mem_spellings operator spelling hmem).2.1.of_sameIgnoringCase hsame

theorem SpelledAs.ofWord? (h : operator.SpelledAs word) : Keyword.ofWord? word = none := by
  obtain ⟨spelling, hmem, hsame⟩ := h
  rw [Keyword.ofWord?_congr hsame]
  exact (of_mem_spellings operator spelling hmem).2.2

end Operator

/-! ### Names and literals -/

/-- A name of a table, a column, a field or a role: a word without commas that is no keyword. -/
structure Identifier (s : String) : Prop where
  isWord : Text.Word s
  unmarked : ',' ∉ s.toList
  free : Keyword.ofWord? s = none

instance (s : String) : Decidable (Identifier s) :=
  decidable_of_iff (Text.Word s ∧ ',' ∉ s.toList ∧ Keyword.ofWord? s = none)
    ⟨fun ⟨hword, hcomma, hfree⟩ => ⟨hword, hcomma, hfree⟩,
      fun ⟨hword, hcomma, hfree⟩ => ⟨hword, hcomma, hfree⟩⟩

/-- A text that can stand in quotes: no blanks, and no quotes of its own at the ends. -/
structure Literal (s : String) : Prop where
  bare : Text.Bare s.toList
  unquoted : Text.stripQuotes s = s

instance (s : String) : Decidable (Literal s) :=
  decidable_of_iff (Text.Bare s.toList ∧ Text.stripQuotes s = s)
    ⟨fun ⟨hbare, hquotes⟩ => ⟨hbare, hquotes⟩, fun ⟨hbare, hquotes⟩ => ⟨hbare, hquotes⟩⟩

namespace Text
variable {s : String}

/-- The text in single quotes. -/
def quoted (s : String) : String := "'" ++ s ++ "'"

theorem dropEnds_enclosed {p : Char → Bool} {first last : Char} (hfirst : p first = true)
    (hlast : p last = true) (cs : List Char) : dropEnds p (first :: (cs ++ [last])) = dropEnds p cs := by
  rw [dropEnds, List.dropWhile_cons_of_pos hfirst, List.dropWhile_append]
  split
  · next hempty =>
    rw [List.isEmpty_iff] at hempty
    rw [List.dropWhile_cons_of_pos hlast, dropEnds, hempty]
    rfl
  · rw [List.reverse_append, List.reverse_singleton, List.singleton_append,
      List.dropWhile_cons_of_pos hlast, dropEnds]

theorem toList_quoted (s : String) : (quoted s).toList = '\x27' :: (s.toList ++ ['\x27']) := by
  simp [quoted]

theorem stripQuotes_quoted (h : Literal s) : stripQuotes (quoted s) = s := by
  rw [stripQuotes, toList_quoted, dropEnds_enclosed (by decide) (by decide)]
  exact h.unquoted

theorem bare_quoted (h : Literal s) : Bare (quoted s).toList := by
  rw [toList_quoted]
  intro c hc
  rcases List.mem_cons.mp hc with rfl | hc
  · decide
  · rcases List.mem_append.mp hc with hc | hc
    · exact h.bare c hc
    · rw [List.mem_singleton.mp hc]
      decide

theorem word_quoted (h : Literal s) : Word (quoted s) := by
  refine ⟨fun hempty => ?_, bare_quoted h⟩
  rw [← String.toList_eq_nil_iff, toList_quoted] at hempty
  cases hempty

theorem ofWord?_quoted (s : String) : Keyword.ofWord? (quoted s) = none :=
  Keyword.ofWord?_of_mem (c := '\x27') (by decide +kernel) (by decide +kernel)
    (by rw [toList_quoted]; exact List.mem_cons_self)

end Text

/-! ### Words that spell some keywords only -/

/-- A word that spells no keyword but those that are allowed. -/
structure Token (allowed : Keyword → Prop) (word : String) : Prop where
  isWord : Text.Word word
  spells : ∀ k, Keyword.ofWord? word = some k → allowed k

section
variable {allowed : Keyword → Prop} {word : String} {words : List String} {k : Keyword}

theorem Token.mono {more : Keyword → Prop} (h : Token allowed word) (himp : ∀ k, allowed k → more k) :
    Token more word :=
  ⟨h.isWord, fun k hk => himp k (h.spells k hk)⟩

theorem Token.of_none (hword : Text.Word word) (h : Keyword.ofWord? word = none) : Token allowed word :=
  ⟨hword, fun k hk => by rw [h] at hk; cases hk⟩

theorem Token.isSpelled (h : Token allowed word) (hk : ¬allowed k) : k.isSpelled word = false := by
  rw [Keyword.isSpelled, decide_eq_false_iff_not]
  exact fun hspells => hk (h.spells k hspells)

theorem Identifier.token (h : Identifier word) : Token allowed word := .of_none h.isWord h.free

theorem Keyword.SpelledAs.token (h : k.SpelledAs word) (hk : allowed k) : Token allowed word :=
  ⟨h.isWord, fun other hother => by cases h.ofWord?.symm.trans hother; exact hk⟩

theorem Operator.SpelledAs.token {operator : Operator} (h : operator.SpelledAs word) : Token allowed word :=
  .of_none h.isWord h.ofWord?

theorem Literal.token {s : String} (h : Literal s) : Token allowed (Text.quoted s) :=
  .of_none (Text.word_quoted h) (Text.ofWord?_quoted s)

theorem token_toString (n : Nat) : Token allowed (toString n) := by
  have htoDigits : (toString n).toList = Nat.toDigits 10 n := by simp
  have hdigit : ∀ c ∈ (toString n).toList, c.isDigit = true := fun c hc =>
    Nat.isDigit_of_mem_toDigits (by decide) (by decide) (htoDigits ▸ hc)
  have hne : (toString n).toList ≠ [] := htoDigits ▸ Nat.toDigits_ne_nil
  refine .of_none ⟨mt String.toList_eq_nil_iff.mpr hne, fun c hc => Date.isBlank_of_isDigit (hdigit c hc)⟩ ?_
  have hplain : ∀ n < 58, 48 ≤ n → Text.upperChar (Char.ofNat n) = [Char.ofNat n] ∧
      ∀ entry ∈ Keyword.table, Char.ofNat n ∉ entry.1.toList := by
    decide +kernel
  obtain ⟨c, hc⟩ := List.exists_mem_of_ne_nil _ hne
  obtain ⟨hge, hle⟩ := Char.isDigit_iff_toNat.mp (hdigit c hc)
  obtain ⟨hupper, htable⟩ := hplain c.toNat (Nat.lt_succ_of_le hle) hge
  rw [Char.ofNat_toNat] at hupper htable
  exact Keyword.ofWord?_of_mem hupper htable hc

/-- Words with commas between them are one word, and it spells no keyword. -/
theorem Token.commas {words : List String} (hne : words ≠ [])
    (h : ∀ word ∈ words, Token (fun _ => False) word) :
    Token allowed (",".intercalate words) := by
  match words with
  | [word] =>
    rw [String.intercalate_singleton]
    exact (h word List.mem_cons_self).mono fun _ => False.elim
  | first :: second :: rest =>
    have hcomma : ',' ∈ (",".intercalate (first :: second :: rest)).toList := by
      simp [String.intercalate_cons_cons]
    refine .of_none ⟨fun hempty => ?_, fun c hc => ?_⟩
      (Keyword.ofWord?_of_mem (by decide +kernel) (by decide +kernel) hcomma)
    · rw [hempty] at hcomma
      cases hcomma
    · rw [String.toList_intercalate] at hc
      rcases Text.mem_intercalate hc with rfl | ⟨piece, hpiece, hmem⟩
      · decide
      · obtain ⟨word, hword, rfl⟩ := List.mem_map.mp hpiece
        exact (h word hword).isWord.bare c hmem

/-- Names are found again between the commas. -/
theorem commaList_intercalate {names : List String} (h : ∀ name ∈ names, Identifier name) :
    commaList (",".intercalate names) = names := by
  by_cases hne : names = []
  · subst hne
    decide
  · have hsplit : Text.split ',' (",".intercalate names) = names :=
      Text.split_of_intercalate (by simp [String.toList_intercalate]) hne fun name hname => (h name hname).unmarked
    have htrim : names.map Text.trim = names.map id :=
      List.map_congr_left fun name hname => (h name hname).isWord.bare.trim
    rw [commaList, hsplit, htrim, List.map_id, List.filter_eq_self]
    exact fun name hname => decide_eq_true (h name hname).isWord.nonempty

end

end Leuit
