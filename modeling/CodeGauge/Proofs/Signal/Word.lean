import CodeGauge.Proofs.Pattern.Reach

/-!
This module contains words at a position of a text: the places at which a text can be cut behind
them, the borders of words, parentheses that open behind them, and the patterns that are made of
these.
-/

namespace CodeGauge.Signal

open Pattern Text

variable {words : List String} {s word : String} {last : Cursor}
  {past rest gap u v w : List Char} {c : Char}


/--
The parts of a text at which it is cut behind one of the given words, in any letter case, if it
starts with that word.
-/
def wordsAt (words : List String) (cs : List Char) : List (List Char × List Char) :=
  words.filterMap fun word =>
    let (u, v) := cs.splitAt word.length
    if u.map fold = word.toList then some (u, v) else none

/--
Whether exactly one of the characters between which two texts meet is a word character.
-/
def isBorder (past rest : List Char) : Bool :=
  past.getLast?.any isWord != rest.head?.any isWord

/--
Whether a text starts, behind any blanks, with an opening parenthesis.
-/
def isCalled (rest : List Char) : Bool :=
  (rest.dropWhile isBlank).head? == some '('

theorem mem_wordsAt {parts : List Char × List Char} :
    parts ∈ wordsAt words rest
      ↔
    rest = parts.1 ++ parts.2 ∧ ∃ word ∈ words, parts.1.map fold = word.toList := by
  obtain ⟨u, v⟩ := parts
  simp only [wordsAt, List.mem_filterMap, List.splitAt_eq]
  constructor
  . rintro ⟨word, hword, h⟩
    split at h
    . next hspelled =>
      cases h
      exact ⟨(List.take_append_drop _ _).symm, word, hword, hspelled⟩
    . cases h
  . rintro ⟨rfl, word, hword, hspelled⟩
    have hlength : word.length = u.length := by
      rw [← String.length_toList, ← hspelled, List.length_map]
    refine ⟨word, hword, ?_⟩
    simp [hlength, hspelled]

theorem any_wordsAt {f : List Char × List Char → Bool} :
    (wordsAt words rest).any f
      ↔
    ∃ u v, rest = u ++ v ∧ (∃ word ∈ words, u.map fold = word.toList) ∧ f (u, v) := by
  simp only [List.any_eq_true, mem_wordsAt, Prod.exists, and_assoc]

theorem isCalled_iff :
    isCalled rest ↔ ∃ blanks tail, rest = blanks ++ '(' :: tail ∧ ∀ c ∈ blanks, isBlank c := by
  unfold isCalled
  rw [beq_iff_eq, List.head?_eq_some_iff]
  constructor
  . rintro ⟨tail, htail⟩
    refine ⟨rest.takeWhile isBlank, tail, ?_, fun c hc => List.mem_takeWhile_imp hc⟩
    rw [← htail, List.takeWhile_append_dropWhile]
  . rintro ⟨blanks, tail, rfl, hblanks⟩
    exact ⟨tail, by rw [List.dropWhile_append_of_pos hblanks]; rfl⟩

theorem atBoundary_between : (Cursor.between past rest).atBoundary = isBorder past rest := by
  simp [Cursor.atBoundary, Cursor.between, isBorder]

theorem isBorder_append (past : List Char) (hu : u ≠ []) :
    isBorder (past ++ u) rest = isBorder u rest := by
  unfold isBorder
  rw [List.getLast?_append_of_ne_nil _ hu]

theorem isBorder_append_right (past more : List Char) (h : rest ≠ []) :
    isBorder past (rest ++ more) = isBorder past rest := by
  unfold isBorder
  rw [List.head?_append_of_ne_nil _ h]

theorem isBorder_of_starts (hpast : ∀ c ∈ past.getLast?, isWord c = false)
    (hrest : rest.head?.any isWord) : isBorder past rest := by
  have hlast : past.getLast?.any isWord = false := by
    rw [Option.any_eq_false]
    simpa using hpast
  rw [isBorder, hlast, hrest]
  rfl

theorem isBorder_of_ends (hpast : past.getLast?.any isWord)
    (hrest : ∀ c ∈ rest.head?, isWord c = false) : isBorder past rest := by
  have hfirst : rest.head?.any isWord = false := by
    rw [Option.any_eq_false]
    simpa using hrest
  rw [isBorder, hpast, hfirst]
  rfl

theorem any_getLast?_isWord (past : List Char) (hu : u ≠ []) (hword : ∀ c ∈ u, isWord c) :
    (past ++ u).getLast?.any isWord := by
  rw [List.getLast?_append_of_ne_nil _ hu, List.getLast?_eq_some_getLast hu]
  exact hword _ (List.getLast_mem hu)

theorem any_head?_isWord (rest : List Char) (hu : u ≠ []) (hword : ∀ c ∈ u, isWord c) :
    (u ++ rest).head?.any isWord := by
  rw [List.head?_append_of_ne_nil _ hu, List.head?_eq_some_head hu]
  exact hword _ (List.head_mem hu)

theorem isWord_before_of_isBorder (hu : u ≠ []) (hword : ∀ c ∈ u, isWord c)
    (h : isBorder past (u ++ rest)) : ∀ c ∈ past.getLast?, isWord c = false := by
  rw [isBorder, any_head?_isWord rest hu hword, bne_iff_ne, ne_eq, Bool.not_eq_true,
    Option.any_eq_false] at h
  simpa using h

theorem isWord_behind_of_isBorder (hu : u ≠ []) (hword : ∀ c ∈ u, isWord c)
    (h : isBorder (past ++ u) rest) : ∀ c ∈ rest.head?, isWord c = false := by
  rw [isBorder, any_getLast?_isWord past hu hword, bne_iff_ne, ne_comm, ne_eq, Bool.not_eq_true,
    Option.any_eq_false] at h
  simpa using h

theorem any_isWord_gap (hgap : ∀ c ∈ gap, isBlank c) (hc : isWord c = false) :
    (gap ++ c :: rest).head?.any isWord = false := by
  cases gap with
  | nil => exact hc
  | cons d gap => exact isWord_of_isBlank (hgap d List.mem_cons_self)

theorem isBorder_called (hu : u.getLast?.any isWord) (hw : ∀ c ∈ w, isBlank c) :
    isBorder u (w ++ '(' :: v) := by
  rw [isBorder, hu, any_isWord_gap hw (by decide)]
  rfl

theorem isWord_of_mem_called (hw : ∀ c ∈ w, isBlank c) : ∀ c ∈ w ++ ['('], isWord c = false := by
  intro c hc
  rw [List.mem_append, List.mem_singleton] at hc
  rcases hc with hblank | rfl
  . exact isWord_of_isBlank (hw c hblank)
  . rfl

theorem ne_nil_of_spelled (h : u.map fold = s.toList) (hs : s.toList ≠ []) : u ≠ [] := by
  rintro rfl
  exact hs h.symm

theorem mem_ends_opening :
    last ∈ (chain [blanks, char '(']).ends (.between past rest)
      ↔
    ∃ w v, rest = w ++ '(' :: v ∧ (∀ c ∈ w, isBlank c)
      ∧ last = .between (past ++ (w ++ ['('])) v := by
  simp only [mem_ends_chain_cons, mem_ends_blanks, mem_ends_char]
  constructor
  . rintro ⟨_, ⟨w, _, hrest, hw, rfl⟩, _, ⟨v, rfl, rfl⟩, hlast⟩
    cases List.mem_singleton.1 hlast
    refine ⟨w, v, hrest, hw, ?_⟩
    rw [Cursor.advance_advance, Cursor.between_advance]
  . rintro ⟨w, v, hrest, hw, rfl⟩
    refine ⟨_, ⟨w, '(' :: v, hrest, hw, rfl⟩, _, ⟨v, rfl, rfl⟩, List.mem_singleton.2 ?_⟩
    rw [Cursor.advance_advance, Cursor.between_advance]

theorem mem_ends_called (h : ∀ letter ∈ s.toList, letter.toNat < 128) :
    last ∈ (chain [text s, blanks, char '(']).ends (.between past rest)
      ↔
    ∃ u w v, rest = u ++ (w ++ '(' :: v) ∧ u.map fold = s.toList ∧ (∀ c ∈ w, isBlank c)
      ∧ last = .between (past ++ (u ++ (w ++ ['(']))) v := by
  rw [mem_ends_chain_cons]
  constructor
  . rintro ⟨mid, hmid, hlast⟩
    obtain ⟨u, rest', hrest, hspelled, rfl⟩ := (mem_ends_text h).1 hmid
    rw [Cursor.between_advance] at hlast
    obtain ⟨w, v, rfl, hw, rfl⟩ := mem_ends_opening.1 hlast
    exact ⟨u, w, v, hrest, hspelled, hw, by rw [List.append_assoc]⟩
  . rintro ⟨u, w, v, hrest, hspelled, hw, rfl⟩
    refine ⟨_, (mem_ends_text h).2 ⟨u, w ++ '(' :: v, hrest, hspelled, rfl⟩, ?_⟩
    rw [Cursor.between_advance]
    exact mem_ends_opening.2 ⟨w, v, rfl, hw, by rw [List.append_assoc]⟩

theorem mem_ends_wholeWord (h : ∀ word ∈ words, ∀ letter ∈ word.toList, letter.toNat < 128) :
    last ∈ (wholeWord (oneOf (words.map text))).ends (.between past rest)
      ↔
    isBorder past rest ∧ ∃ u v, rest = u ++ v ∧ (∃ word ∈ words, u.map fold = word.toList)
      ∧ isBorder (past ++ u) v ∧ last = .between (past ++ u) v := by
  simp only [wholeWord, chain, mem_ends_seq, mem_ends_boundary, atBoundary_between]
  constructor
  . rintro ⟨_, ⟨hfirst, rfl⟩, mid, hmid, hlast, rfl⟩
    obtain ⟨u, v, hrest, hspelled, rfl⟩ := (mem_ends_words words h).1 hmid
    rw [Cursor.between_advance, atBoundary_between] at hlast
    exact ⟨hfirst, u, v, hrest, hspelled, hlast, Cursor.between_advance ..⟩
  . rintro ⟨hfirst, u, v, hrest, hspelled, hlast, rfl⟩
    refine ⟨_, ⟨hfirst, rfl⟩, _, (mem_ends_words words h).2 ⟨u, v, hrest, hspelled, rfl⟩, ?_⟩
    rw [Cursor.between_advance, atBoundary_between]
    exact ⟨hlast, rfl⟩

theorem mem_ends_name (h : ∀ letter ∈ word.toList, letter.toNat < 128) :
    last ∈ (chain [text word, boundary]).ends (.between past rest)
      ↔
    ∃ u v, rest = u ++ v ∧ u.map fold = word.toList ∧ isBorder (past ++ u) v
      ∧ last = .between (past ++ u) v := by
  simp only [chain, mem_ends_seq, mem_ends_text h, mem_ends_boundary]
  constructor
  . rintro ⟨_, ⟨u, v, hrest, hspelled, rfl⟩, hlast, rfl⟩
    rw [Cursor.between_advance, atBoundary_between] at hlast
    exact ⟨u, v, hrest, hspelled, hlast, Cursor.between_advance ..⟩
  . rintro ⟨u, v, hrest, hspelled, hlast, rfl⟩
    refine ⟨_, ⟨u, v, hrest, hspelled, rfl⟩, ?_, ?_⟩
    . rw [Cursor.between_advance, atBoundary_between]
      exact hlast
    . rw [Cursor.between_advance]

end CodeGauge.Signal
