import CodeGauge.Features
import CodeGauge.Proofs.Pattern.Position
import CodeGauge.Proofs.Signal.Word

/-!
This module contains the counts of loops, of maps and sets, and of calls of a logarithm as numbers
of positions. Each is found by the words at the position alone, whatever longer names hold them and
whatever match the scan has seen before.
-/

namespace CodeGauge

namespace Signal

open Pattern Text

variable {cur last : Cursor} {past rest u v w : List Char} {word name : String}
  {names : List String}


/--
The words of loops.
-/
def loopWords : List String :=
  ["for", "while", "foreach"]

/--
Whether the word of a loop stands at a position: as a whole word, or, unless it is `for`, in front
of an opening parenthesis.
-/
def isLoop (past rest : List Char) : Bool :=
  (isBorder past rest && (wordsAt loopWords rest).any fun (word, tail) => isBorder word tail)
    || (wordsAt ["while", "foreach"] rest).any fun (_, tail) => isCalled tail

/--
Whether a name stands at a position, and ends a word there.
-/
def isTypeName (name : String) (_past rest : List Char) : Bool :=
  (wordsAt [name] rest).any fun (word, tail) => isBorder word tail

/--
Whether a logarithm that is not one of the console, or a binary search, is called at a position.
-/
def isLogCall (past rest : List Char) : Bool :=
  isBorder past rest
    && ((!"console.".toList.isSuffixOf (past.map fold)
        && (wordsAt ["log", "log2"] rest).any fun (_, tail) => isCalled tail)
      || (wordsAt ["binarysearch"] rest).any fun (_, tail) => isCalled tail)

theorem isLoop_iff :
    isLoop past rest
      ↔
    (isBorder past rest ∧ ∃ u v, rest = u ++ v ∧ (∃ word ∈ loopWords, u.map fold = word.toList)
        ∧ isBorder u v)
      ∨ ∃ u v, rest = u ++ v ∧ (∃ word ∈ ["while", "foreach"], u.map fold = word.toList)
        ∧ isCalled v := by
  unfold isLoop
  rw [Bool.or_eq_true, Bool.and_eq_true, any_wordsAt, any_wordsAt]

theorem isLoop_of_called (hword : word ∈ ["while", "foreach"])
    (hspelled : u.map fold = word.toList) (hw : ∀ c ∈ w, isBlank c) :
    isLoop past (u ++ (w ++ '(' :: v)) :=
  isLoop_iff.2 (.inr ⟨u, _, rfl, ⟨word, hword, hspelled⟩, isCalled_iff.2 ⟨w, v, rfl, hw⟩⟩)

theorem isLoop_of_wholeWord (hfirst : isBorder past (u ++ v)) (hword : word ∈ loopWords)
    (hspelled : u.map fold = word.toList) (hlast : isBorder u v) : isLoop past (u ++ v) :=
  isLoop_iff.2 (.inl ⟨hfirst, u, v, rfl, ⟨word, hword, hspelled⟩, hlast⟩)

/--
In front of a blank or a parenthesis, `for` is a whole word.
-/
theorem isLoop_of_for (hfirst : isBorder past (u ++ (w ++ '(' :: v)))
    (hspelled : u.map fold = "for".toList) (hw : ∀ c ∈ w, isBlank c) :
    isLoop past (u ++ (w ++ '(' :: v)) := by
  have hr : u.getLast?.any isWord = isWord 'r' :=
    any_isWord_of_fold (by rw [← List.getLast?_map, hspelled]; rfl) (by decide)
  exact isLoop_of_wholeWord hfirst (by decide) hspelled (isBorder_called hr hw)

theorem needsOneOf_isLoop : NeedsOneOf loopWords isLoop where
  inWord := by decide
  needs past rest h := by
    rcases isLoop_iff.1 h with ⟨_, u, v, rfl, ⟨word, hword, hspelled⟩, _⟩ | ⟨u, v, rfl, hword, _⟩
    . exact ⟨word, hword, by simp [← hspelled]⟩
    . obtain ⟨word, hword, hspelled⟩ := hword
      exact ⟨word, List.mem_cons_of_mem _ hword, by simp [← hspelled]⟩

theorem mem_ends_loop :
    last ∈ loop.ends cur
      ↔
    last ∈ (wholeWord (oneOf (loopWords.map text))).ends cur
      ∨ last ∈ (seq boundary (chain [text "for", blanks, char '('])).ends cur
      ∨ last ∈ (chain [text "while", blanks, char '(']).ends cur
      ∨ last ∈ (chain [text "foreach", blanks, char '(']).ends cur := by
  unfold loop
  rw [mem_ends_oneOf]
  simp only [List.mem_cons, List.not_mem_nil, or_false, exists_eq_or_imp, exists_eq_left]
  rfl

theorem ne_nil_of_loopWord (hword : word ∈ loopWords) (hspelled : u.map fold = word.toList) :
    u ≠ [] :=
  ne_nil_of_spelled hspelled (ne_nil_of_startsInWord (needsOneOf_isLoop.inWord word hword))

theorem ends_loop_ne_nil (h : isLoop past rest) : loop.ends (.between past rest) ≠ [] := by
  obtain ⟨last, hlast⟩ : ∃ last, last ∈ loop.ends (.between past rest) := by
    simp only [mem_ends_loop]
    rcases isLoop_iff.1 h with ⟨hfirst, u, v, rfl, ⟨word, hword, hspelled⟩, hlast⟩ | hcalled
    . rw [← isBorder_append past (ne_nil_of_loopWord hword hspelled)] at hlast
      exact ⟨_, .inl ((mem_ends_wholeWord (by decide)).2
        ⟨hfirst, u, v, rfl, ⟨word, hword, hspelled⟩, hlast, rfl⟩)⟩
    . obtain ⟨u, v, rfl, ⟨word, hword, hspelled⟩, hcalled⟩ := hcalled
      obtain ⟨w, tail, rfl, hw⟩ := isCalled_iff.1 hcalled
      rw [List.mem_cons, List.mem_singleton] at hword
      rcases hword with rfl | rfl
      . exact ⟨_, .inr (.inr (.inl ((mem_ends_called (by decide)).2
          ⟨u, w, tail, rfl, hspelled, hw, rfl⟩)))⟩
      . exact ⟨_, .inr (.inr (.inr ((mem_ends_called (by decide)).2
          ⟨u, w, tail, rfl, hspelled, hw, rfl⟩)))⟩
  exact List.ne_nil_of_mem hlast

theorem holdsOne_loopWord (past v : List Char) (hword : word ∈ loopWords)
    (hspelled : u.map fold = word.toList) (hw : ∀ c ∈ w, isWord c = false)
    (htest : isLoop past (u ++ (w ++ v))) :
    HoldsOne isLoop past (u ++ (w ++ v)) (.between (past ++ (u ++ w)) v) := by
  have halone : ∀ word ∈ loopWords, ∀ key ∈ loopWords, StartsOnlyAt 0 word.toList key := by
    decide
  have hholds := needsOneOf_isLoop.holdsOne (u := []) past v (halone word hword) hspelled
    (ne_nil_of_loopWord hword hspelled) hw
  rw [List.append_nil] at hholds
  exact hholds htest

theorem holdsOne_calledLoop (hword : word ∈ loopWords)
    (h : last ∈ (chain [text word, blanks, char '(']).ends (.between past rest))
    (htest : ∀ u w v, rest = u ++ (w ++ '(' :: v) → u.map fold = word.toList
      → (∀ c ∈ w, isBlank c) → isLoop past rest) :
    HoldsOne isLoop past rest last := by
  have hascii : ∀ word ∈ loopWords, ∀ letter ∈ word.toList, letter.toNat < 128 := by decide
  obtain ⟨u, w, v, rfl, hspelled, hw, rfl⟩ := (mem_ends_called (hascii word hword)).1 h
  have hholds := holdsOne_loopWord past v hword hspelled (isWord_of_mem_called hw)
  simp only [List.append_assoc, List.singleton_append] at hholds
  exact hholds (htest u w v rfl hspelled hw)

theorem holdsOne_isLoop (h : last ∈ loop.ends (.between past rest)) :
    HoldsOne isLoop past rest last := by
  rcases mem_ends_loop.1 h with h | h | h | h
  . obtain ⟨hfirst, u, v, rfl, ⟨word, hword, hspelled⟩, hlast, rfl⟩ :=
      (mem_ends_wholeWord (by decide)).1 h
    rw [isBorder_append past (ne_nil_of_loopWord hword hspelled)] at hlast
    have hholds := holdsOne_loopWord (w := []) past v hword hspelled (by simp)
    rw [List.append_nil, List.nil_append] at hholds
    exact hholds (isLoop_of_wholeWord hfirst hword hspelled hlast)
  . simp only [mem_ends_seq, mem_ends_boundary, atBoundary_between] at h
    obtain ⟨_, ⟨hfirst, rfl⟩, h⟩ := h
    apply holdsOne_calledLoop (by decide) h
    rintro u w v rfl hspelled hw
    exact isLoop_of_for hfirst hspelled hw
  . apply holdsOne_calledLoop (by decide) h
    rintro u w v rfl hspelled hw
    exact isLoop_of_called (by decide) hspelled hw
  . apply holdsOne_calledLoop (by decide) h
    rintro u w v rfl hspelled hw
    exact isLoop_of_called (by decide) hspelled hw

theorem counts_loop : loop.Counts isLoop where
  least := by decide
  of_none past rest h := by
    rw [Bool.eq_false_iff]
    exact fun hloop => ends_loop_ne_nil hloop h
  of_end _ _ _ h := holdsOne_isLoop h

theorem isTypeName_iff :
    isTypeName name past rest ↔ ∃ u v, rest = u ++ v ∧ u.map fold = name.toList ∧ isBorder u v := by
  unfold isTypeName
  rw [any_wordsAt]
  simp only [List.mem_singleton, exists_eq_left]

theorem needsOneOf_isTypeName (h : startsInWord name) : NeedsOneOf [name] (isTypeName name) where
  inWord := by simpa using h
  needs past rest htest := by
    obtain ⟨u, v, rfl, hspelled, _⟩ := isTypeName_iff.1 htest
    exact ⟨name, by simp, by simp [← hspelled]⟩

/--
A word that ends in a name, and has it nowhere else.
-/
def EndsInName (name word : String) : Prop :=
  name.toList <:+ word.toList
    ∧ StartsOnlyAt (word.toList.length - name.toList.length) word.toList name

instance (name word : String) : Decidable (EndsInName name word) :=
  inferInstanceAs (Decidable (_ ∧ _))

theorem holdsOne_isTypeName (hname : startsInWord name) (hword : EndsInName name word)
    (hspelled : u.map fold = word.toList) (hlast : isBorder (past ++ u) v) :
    HoldsOne (isTypeName name) past (u ++ v) (.between (past ++ u) v) := by
  obtain ⟨⟨letters, hletters⟩, halone⟩ := hword
  have hparts := hspelled
  rw [← hletters, List.map_eq_append_iff] at hparts
  obtain ⟨front, back, rfl, hfront, hback⟩ := hparts
  have hlength : word.toList.length - name.toList.length = front.length := by
    simp [← hletters, ← hfront]
  have hne := ne_nil_of_spelled hback (ne_nil_of_startsInWord hname)
  rw [hlength] at halone
  rw [← List.append_assoc, isBorder_append _ hne] at hlast
  have hholds := (needsOneOf_isTypeName hname).holdsOne (w := []) past v (by simpa using halone)
    hspelled hne (by simp) (isTypeName_iff.2 ⟨back, v, rfl, hback, hlast⟩)
  simpa using hholds

/--
Of words that all end in one name, which is one of them, each match holds the name once.
-/
theorem counts_names (names : List String)
    (hascii : ∀ word ∈ names, ∀ letter ∈ word.toList, letter.toNat < 128)
    (hmem : name ∈ names) (hname : startsInWord name)
    (hends : ∀ word ∈ names, EndsInName name word)
    (hleast : 0 < (oneOf (names.map fun word => chain [text word, boundary])).least) :
    (oneOf (names.map fun word => chain [text word, boundary])).Counts (isTypeName name) where
  least := hleast
  of_none past rest hnil := by
    rw [Bool.eq_false_iff]
    intro h
    obtain ⟨u, v, rfl, hspelled, hlast⟩ := isTypeName_iff.1 h
    rw [← isBorder_append past (ne_nil_of_spelled hspelled (ne_nil_of_startsInWord hname))] at hlast
    have hend := (mem_ends_name (hascii name hmem)).2 ⟨u, v, rfl, hspelled, hlast, rfl⟩
    exact List.ne_nil_of_mem (mem_ends_oneOf.2 ⟨_, List.mem_map_of_mem hmem, hend⟩) hnil
  of_end past rest last h := by
    obtain ⟨_, hp, h⟩ := mem_ends_oneOf.1 h
    obtain ⟨word, hword, rfl⟩ := List.mem_map.1 hp
    obtain ⟨u, v, rfl, hspelled, hlast, rfl⟩ := (mem_ends_name (hascii word hword)).1 h
    exact holdsOne_isTypeName hname (hends word hword) hspelled hlast

theorem counts_map : map.Counts (isTypeName "map") :=
  counts_names ["map", "hashmap", "unordered_map", "std::map"] (by decide) (by decide) (by decide)
    (by decide) (by decide)

theorem counts_set : set.Counts (isTypeName "set") :=
  counts_names ["set", "hashset", "std::set"] (by decide) (by decide) (by decide) (by decide)
    (by decide)

/--
What may be added to the name of a logarithm.
-/
def logSuffixes : List (List Char) :=
  [[], ['2']]

theorem isLogCall_iff :
    isLogCall past rest
      ↔
    isBorder past rest ∧
      ((¬ "console.".toList <:+ past.map fold ∧ ∃ u v, rest = u ++ v
          ∧ (∃ base ∈ logSuffixes, u.map fold = "log".toList ++ base) ∧ isCalled v)
        ∨ ∃ u v, rest = u ++ v ∧ u.map fold = "binarysearch".toList ∧ isCalled v) := by
  unfold isLogCall logSuffixes
  rw [Bool.and_eq_true, Bool.or_eq_true, Bool.and_eq_true, any_wordsAt, any_wordsAt,
    Bool.not_eq_true', Bool.eq_false_iff, ne_eq, List.isSuffixOf_iff_suffix]
  simp only [List.mem_cons, List.not_mem_nil, or_false, exists_eq_or_imp, exists_eq_left]
  rfl

theorem needsOneOf_isLogCall : NeedsOneOf ["log", "binarysearch"] isLogCall where
  inWord := by decide
  needs past rest h := by
    rcases (isLogCall_iff.1 h).2 with
      ⟨_, u, v, rfl, ⟨base, _, hspelled⟩, _⟩ | ⟨u, v, rfl, hspelled, _⟩
    . exact ⟨"log", by simp, by simp [hspelled]⟩
    . exact ⟨"binarysearch", by simp, by simp [← hspelled]⟩

theorem follows_console :
    (Cursor.between past rest).follows consoleBehind ↔ "console.".toList <:+ past.map fold := by
  unfold Cursor.follows consoleBehind
  rw [follows_go_letters (by decide), ← List.reverse_suffix]
  simp [Cursor.between]

theorem mem_ends_logarithm (h : ∀ letter ∈ word.toList, letter.toNat < 128) :
    last ∈ (chain [text word, atMostOne (· == '2'), blanks, char '(']).ends (.between past rest)
      ↔
    ∃ u w v, rest = u ++ (w ++ '(' :: v)
      ∧ (∃ base ∈ logSuffixes, u.map fold = word.toList ++ base) ∧ (∀ c ∈ w, isBlank c)
      ∧ last = .between (past ++ (u ++ (w ++ ['(']))) v := by
  have hdigits : ∀ base ∈ logSuffixes, ∀ c ∈ base, c.toNat < 128 ∧ c.isLower = false := by decide
  have hfold : ∀ base ∈ logSuffixes, base.map fold = base := by decide +kernel
  simp only [mem_ends_chain_cons (p := text word), mem_ends_chain_cons (p := atMostOne _),
    mem_ends_text h, mem_ends_atMostOne]
  constructor
  . rintro ⟨_, ⟨u, _, hrest, hspelled, rfl⟩, _, ⟨base, hbase, rest', rfl, rfl⟩, hlast⟩
    rw [Cursor.advance_advance, Cursor.between_advance] at hlast
    obtain ⟨w, v, rfl, hw, rfl⟩ := mem_ends_opening.1 hlast
    refine ⟨u ++ base, w, v, hrest.trans (by simp), ⟨base, hbase, ?_⟩, hw, by simp⟩
    rw [List.map_append, hspelled, hfold base hbase]
  . rintro ⟨u, w, v, rfl, ⟨base, hbase, hspelled⟩, hw, rfl⟩
    rw [List.map_eq_append_iff] at hspelled
    obtain ⟨u, digits, rfl, hspelled, hdigit⟩ := hspelled
    obtain rfl := eq_of_map_fold hdigit (hdigits base hbase)
    refine ⟨_, ⟨u, _, List.append_assoc .., hspelled, rfl⟩, _, ⟨digits, hbase, _, rfl, rfl⟩, ?_⟩
    rw [Cursor.advance_advance, Cursor.between_advance]
    exact mem_ends_opening.2 ⟨w, v, rfl, hw, by simp⟩

theorem mem_ends_logCall :
    last ∈ logCall.ends (.between past rest)
      ↔
    isBorder past rest ∧
      ((¬ "console.".toList <:+ past.map fold
          ∧ last ∈ (chain [text "log", atMostOne (· == '2'), blanks, char '(']).ends
            (.between past rest))
        ∨ last ∈ (chain [text "math.log", atMostOne (· == '2'), blanks, char '(']).ends
          (.between past rest)
        ∨ last ∈ (chain [text "binarysearch", blanks, char '(']).ends (.between past rest)) := by
  unfold logCall
  rw [mem_ends_oneOf]
  simp only [List.mem_cons, List.not_mem_nil, or_false, exists_eq_or_imp, exists_eq_left,
    mem_ends_chain_cons (p := boundary), mem_ends_chain_cons (p := notBehind _),
    mem_ends_notBehind, mem_ends_boundary, follows_console, and_assoc, exists_and_left,
    exists_eq_left, atBoundary_between]
  rw [and_or_left, and_or_left, and_left_comm]

theorem ends_logCall_ne_nil (h : isLogCall past rest) : logCall.ends (.between past rest) ≠ [] := by
  obtain ⟨last, hlast⟩ : ∃ last, last ∈ logCall.ends (.between past rest) := by
    simp only [mem_ends_logCall]
    obtain ⟨hfirst, ⟨hconsole, u, v, rfl, hspelled, hcalled⟩ | ⟨u, v, rfl, hspelled, hcalled⟩⟩ :=
      isLogCall_iff.1 h
    . obtain ⟨w, tail, rfl, hw⟩ := isCalled_iff.1 hcalled
      exact ⟨_, hfirst, .inl ⟨hconsole, (mem_ends_logarithm (by decide)).2
        ⟨u, w, tail, rfl, hspelled, hw, rfl⟩⟩⟩
    . obtain ⟨w, tail, rfl, hw⟩ := isCalled_iff.1 hcalled
      exact ⟨_, hfirst, .inr (.inr ((mem_ends_called (by decide)).2
        ⟨u, w, tail, rfl, hspelled, hw, rfl⟩))⟩
  exact List.ne_nil_of_mem hlast

section

variable {front back base letters : List Char}

theorem holdsOne_logWord (past front v : List Char)
    (halone : ∀ key ∈ ["log", "binarysearch"], StartsOnlyAt front.length letters key)
    (hspelled : (front ++ back).map fold = letters) (hback : back ≠ [])
    (hw : ∀ c ∈ w, isBlank c) (htest : isLogCall (past ++ front) (back ++ (w ++ '(' :: v))) :
    HoldsOne isLogCall past (front ++ (back ++ (w ++ '(' :: v)))
      (.between (past ++ (front ++ (back ++ (w ++ ['('])))) v) := by
  have hholds := needsOneOf_isLogCall.holdsOne past v halone hspelled hback
    (isWord_of_mem_called hw)
  simp only [List.append_assoc, List.singleton_append] at hholds
  exact hholds htest

theorem isBorder_math (hfront : front.map fold = "math.".toList)
    (hback : back.map fold = "log".toList ++ base) : isBorder (past ++ front) (back ++ v) := by
  have hdot : front.getLast?.any isWord = isWord '.' :=
    any_isWord_of_fold (by rw [← List.getLast?_map, hfront]; rfl) (by decide)
  have hl : back.head?.any isWord = isWord 'l' :=
    any_isWord_of_fold (by rw [← List.head?_map, hback]; rfl) (by decide)
  have hhead : (back ++ v).head? = back.head? := by
    cases back with
    | nil => cases hback
    | cons c back => rfl
  rw [isBorder_append past (ne_nil_of_spelled hfront (by decide)), isBorder, hdot, hhead, hl]
  decide

theorem not_console_math (hfront : front.map fold = "math.".toList) :
    ¬ "console.".toList <:+ (past ++ front).map fold := by
  intro hconsole
  rw [List.map_append, hfront] at hconsole
  have hmath := List.suffix_of_suffix_length_le (List.suffix_append (past.map fold) "math.".toList)
    hconsole (by decide)
  revert hmath
  decide

/--
Behind `math.` stands a logarithm on its own, and the match holds no other.
-/
theorem holdsOne_mathLog (hbase : base ∈ logSuffixes)
    (hspelled : u.map fold = "math.log".toList ++ base) (hw : ∀ c ∈ w, isBlank c) :
    HoldsOne isLogCall past (u ++ (w ++ '(' :: v)) (.between (past ++ (u ++ (w ++ ['(']))) v) := by
  have halone : ∀ base ∈ logSuffixes, ∀ key ∈ ["log", "binarysearch"],
      StartsOnlyAt 5 ("math.log".toList ++ base) key := by
    decide
  have hparts : u.map fold = "math.".toList ++ ("log".toList ++ base) := hspelled
  rw [List.map_eq_append_iff] at hparts
  obtain ⟨front, back, rfl, hfront, hback⟩ := hparts
  have hlength : 5 = front.length := by
    rw [← List.length_map (f := fold), hfront]
    rfl
  have hne : back ≠ [] := by
    rintro rfl
    cases hback
  have hholds := holdsOne_logWord past front v (hlength ▸ halone base hbase) hspelled hne hw
  simp only [List.append_assoc] at hholds ⊢
  apply hholds
  refine isLogCall_iff.2 ⟨isBorder_math hfront hback, .inl ⟨not_console_math hfront, ?_⟩⟩
  exact ⟨back, _, rfl, ⟨base, hbase, hback⟩, isCalled_iff.2 ⟨w, v, rfl, hw⟩⟩

end

theorem holdsOne_isLogCall (h : last ∈ logCall.ends (.between past rest)) :
    HoldsOne isLogCall past rest last := by
  obtain ⟨hfirst, ⟨hconsole, h⟩ | h | h⟩ := mem_ends_logCall.1 h
  . obtain ⟨u, w, v, rfl, ⟨base, hbase, hspelled⟩, hw, rfl⟩ :=
      (mem_ends_logarithm (by decide)).1 h
    have halone : ∀ base ∈ logSuffixes, ∀ key ∈ ["log", "binarysearch"],
        StartsOnlyAt 0 ("log".toList ++ base) key := by
      decide
    have hne : u ≠ [] := by
      rintro rfl
      cases hspelled
    apply holdsOne_logWord past [] v (halone base hbase) hspelled hne hw
    rw [List.append_nil]
    refine isLogCall_iff.2 ⟨hfirst, .inl ⟨hconsole, u, _, rfl, ⟨base, hbase, hspelled⟩, ?_⟩⟩
    exact isCalled_iff.2 ⟨w, v, rfl, hw⟩
  . obtain ⟨u, w, v, rfl, ⟨base, hbase, hspelled⟩, hw, rfl⟩ :=
      (mem_ends_logarithm (by decide)).1 h
    exact holdsOne_mathLog hbase hspelled hw
  . obtain ⟨u, w, v, rfl, hspelled, hw, rfl⟩ := (mem_ends_called (by decide)).1 h
    apply holdsOne_logWord past [] v (by decide) hspelled
      (ne_nil_of_spelled hspelled (by decide)) hw
    rw [List.append_nil]
    refine isLogCall_iff.2 ⟨hfirst, .inr ⟨u, _, rfl, hspelled, ?_⟩⟩
    exact isCalled_iff.2 ⟨w, v, rfl, hw⟩

theorem counts_logCall : logCall.Counts isLogCall where
  least := by decide
  of_none past rest h := by
    rw [Bool.eq_false_iff]
    exact fun hlog => ends_logCall_ne_nil hlog h
  of_end _ _ _ h := holdsOne_isLogCall h

end Signal

/--
The counts of loops, of maps and sets, and of calls of a logarithm are numbers of positions. However
the matches lie, none is hidden by another and none is counted twice.
-/
theorem Features.ofText_counts (text : String) :
    (ofText text).loops = positions Signal.isLoop text.toList
      ∧ (ofText text).maps = positions (Signal.isTypeName "map") text.toList
      ∧ (ofText text).sets = positions (Signal.isTypeName "set") text.toList
      ∧ (ofText text).logCalls = positions Signal.isLogCall text.toList :=
  ⟨Signal.counts_loop.count_eq _, Signal.counts_map.count_eq _, Signal.counts_set.count_eq _,
    Signal.counts_logCall.count_eq _⟩

example : positions Signal.isLogCall "console.log(Math.log2 (n))".toList = 1 := by
  decide +kernel

end CodeGauge
