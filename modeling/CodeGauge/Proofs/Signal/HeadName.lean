import CodeGauge.Proofs.Signal.Head

/-!
This module contains the names in the heads of functions and the bodies behind the heads. Each head
has one name, which is a whole word of the text and no control word if nothing but parentheses and a
brace make it a name. The heads stand one behind the other, and so do the bodies.
-/

namespace CodeGauge.Signal

open Pattern Text

variable {past name rest text : List Char} {cur last stop : Cursor} {n : Nat} {head : Match}


/--
The words that start a definition.
-/
def definingWords : List String :=
  ["function", "def", "func", "fn"]

/--
The words of control structures, which look like names in front of parentheses and a brace.
-/
def controlWords : List String :=
  ["for", "foreach", "while", "if", "else", "switch", "catch", "with", "return", "function", "do"]

theorem controlWord_eq :
    controlWord = chain [oneOf (controlWords.map Pattern.text), boundary] := rfl

/--
Whether a text is the word of a control structure in any letter case, be it that each character
stands for a letter of the word or that the whole text is compared in lower case.
-/
def IsControlWord (name : List Char) : Prop :=
  ∃ word ∈ controlWords, name.map fold = word.toList ∨ lowerChars [] name = word.toList

/--
Whether a word goes on neither in the text before it nor in the text behind it.
-/
structure IsWholeWord (past word rest : List Char) : Prop where
  ne_nil : word ≠ []
  isWord : ∀ c ∈ word, isWord c
  before : ∀ c ∈ past.getLast?, Text.isWord c = false
  behind : ∀ c ∈ rest.head?, Text.isWord c = false

/--
Whether a head takes its name from group `n` alone, and the name is a whole word of the text, within
the head.
-/
structure NamedBy (text : List Char) (head : Match) (n : Nat) (name : List Char) : Prop where
  group : ∀ k, head.group? k = if k = n then some name else none
  word : ∃ past rest, text = past ++ (name ++ rest) ∧ IsWholeWord past name rest
    ∧ head.last.groups = [(n, ⟨name ++ rest, name.length⟩)]
    ∧ head.first.offset ≤ past.length ∧ past.length + name.length ≤ head.last.offset

/--
The position behind a name that is kept as group `n`.
-/
def behindName (n : Nat) (past name rest : List Char) : Cursor :=
  (Cursor.between (past ++ name) rest).record n (.between past (name ++ rest))

theorem groups_behindName :
    (behindName n past name rest).groups = [(n, ⟨name ++ rest, name.length⟩)] := by
  simp [behindName, Cursor.record, Cursor.upTo, Cursor.between]

theorem offset_behindName :
    (behindName n past name rest).offset = past.length + name.length := by
  simp [behindName, Cursor.record, Cursor.between]

theorem atBoundary_behindName :
    (behindName n past name rest).atBoundary = isBorder (past ++ name) rest :=
  atBoundary_between

theorem group?_of_groups (h : last.groups = [(n, ⟨name ++ rest, name.length⟩)]) (k : Nat) :
    last.group? k = if k = n then some name else none := by
  unfold Cursor.group?
  rw [h, List.lookup_cons, List.lookup_nil]
  by_cases hk : k = n
  . simp [hk, Span.chars]
  . rw [if_neg hk, beq_false_of_ne hk]
    rfl

/--
What follows the name in a head is no part of the name.
-/
theorem namedBy_behindName {front more rest' : List Char}
    (hword : IsWholeWord (past ++ front) name rest) :
    NamedBy (past ++ (front ++ (name ++ rest)))
      ⟨.between past (front ++ (name ++ rest)),
        (behindName n (past ++ front) name rest).advance more rest'⟩ n name where
  group := group?_of_groups groups_behindName
  word := by
    refine ⟨past ++ front, rest, by simp, hword, groups_behindName, ?_, ?_⟩
    . simp [Cursor.between]
    . simp [offset_behindName]

theorem mem_ends_group_wordChars (h : stop ∈ (group n wordChars).ends (.between past rest)) :
    ∃ name rest', rest = name ++ rest' ∧ name ≠ [] ∧ (∀ c ∈ name, isWord c)
      ∧ stop = behindName n past name rest' := by
  obtain ⟨_, hmid, rfl⟩ := mem_ends_group.1 h
  obtain ⟨name, rest', hrest, hne, hname, rfl⟩ := mem_ends_wordChars.1 hmid
  obtain rfl : rest = name ++ rest' := hrest
  refine ⟨name, rest', rfl, hne, hname, ?_⟩
  rw [behindName, Cursor.between_advance]

/--
The head of a definition by a word in front of the name.
-/
def definedHead : Pattern :=
  chain [boundary, oneOf (definingWords.map Pattern.text), someBlanks, group 1 wordChars, boundary]

/--
The head of a definition by parentheses and a brace behind the name.
-/
def bracedHead : Pattern :=
  chain [boundary, notAhead controlWord, group 2 wordChars, blanks, parens, blanks, char '{']

theorem functionHead_eq : functionHead = alt definedHead bracedHead := rfl

theorem exists_of_mem_ends_definedHead (h : last ∈ definedHead.ends (.between past rest)) :
    ∃ front name rest', rest = front ++ (name ++ rest') ∧ IsWholeWord (past ++ front) name rest'
      ∧ last = (behindName 1 (past ++ front) name rest').advance [] rest' := by
  simp only [definedHead, chain, mem_ends_seq, mem_ends_boundary,
    mem_ends_words definingWords (by decide), mem_ends_someBlanks] at h
  obtain ⟨_, ⟨_, rfl⟩, _, ⟨front, _, hrest, _, rfl⟩, _, ⟨gap, _, rfl, hgap, hblank, rfl⟩, _, hname,
    hborder, rfl⟩ := h
  obtain rfl : rest = front ++ (gap ++ _) := hrest
  rw [Cursor.advance_advance, Cursor.between_advance] at hname
  obtain ⟨name, rest', rfl, hne, hword, rfl⟩ := mem_ends_group_wordChars hname
  rw [atBoundary_behindName] at hborder
  refine ⟨front ++ gap, name, rest', by simp, ⟨hne, hword, ?_, ?_⟩, (Cursor.advance_nil rfl).symm⟩
  . rw [← List.append_assoc, List.getLast?_append_of_ne_nil _ hgap]
    intro c hc
    exact isWord_of_isBlank (hblank c (List.mem_of_getLast? hc))
  . exact isWord_behind_of_isBorder hne hword hborder

/--
Blanks, parentheses and a brace do not go on with the word in front of them.
-/
theorem exists_of_mem_ends_behind
    (h : last ∈ (chain [blanks, parens, blanks, char '{']).ends cur) :
    (∀ c ∈ cur.after.head?, isWord c = false) ∧ ∃ more rest, last = cur.advance more rest := by
  simp only [chain, mem_ends_seq, mem_ends_blanks, mem_ends_parens, mem_ends_char] at h
  obtain ⟨_, ⟨gap, _, hafter, hgap, rfl⟩, _, ⟨span, _, rfl, _, rfl⟩, _, ⟨gap', _, rfl, _, rfl⟩,
    rest, _, rfl⟩ := h
  constructor
  . have hfirst : cur.after.head?.any isWord = false := by
      rw [hafter]
      exact any_isWord_gap hgap (by decide)
    rw [Option.any_eq_false] at hfirst
    simpa using hfirst
  . simp only [Cursor.advance_advance]
    exact ⟨_, rest, rfl⟩

theorem not_isControlWord_of_ends (hword : IsWholeWord past name rest)
    (h : controlWord.ends (.between past (name ++ rest)) = []) : ¬ IsControlWord name := by
  rintro ⟨word, hmem, hspelled⟩
  have hascii : ∀ word ∈ controlWords, ∀ letter ∈ word.toList, letter.toNat < 128 := by
    decide
  have hfold : name.map fold = word.toList := by
    rcases hspelled with hspelled | hspelled
    . exact hspelled
    . rw [← hspelled]
      exact map_fold_of_lowerChars (hspelled ▸ hascii word hmem)
  -- The word ends where the name does, which is where the lookahead asks for a border.
  have hborder : isBorder (past ++ name) rest :=
    isBorder_of_ends (any_getLast?_isWord past hword.ne_nil hword.isWord) hword.behind
  have hend : .between (past ++ name) rest ∈ controlWord.ends (.between past (name ++ rest)) := by
    rw [controlWord_eq, mem_ends_chain_cons]
    refine ⟨_, (mem_ends_words controlWords hascii).2
      ⟨name, rest, rfl, ⟨word, hmem, hfold⟩, rfl⟩, ?_⟩
    rw [Cursor.between_advance]
    exact mem_ends_boundary.2 ⟨atBoundary_between.trans hborder, rfl⟩
  rw [h] at hend
  cases hend

theorem exists_of_mem_ends_bracedHead (h : last ∈ bracedHead.ends (.between past rest)) :
    ∃ name rest', rest = name ++ rest' ∧ IsWholeWord past name rest' ∧ ¬ IsControlWord name
      ∧ ∃ more rest'', last = (behindName 2 past name rest').advance more rest'' := by
  simp only [bracedHead, mem_ends_chain_cons (p := boundary), mem_ends_boundary,
    mem_ends_chain_cons (p := notAhead _), mem_ends_notAhead] at h
  obtain ⟨_, ⟨hborder, rfl⟩, _, ⟨hcontrol, rfl⟩, h⟩ := h
  obtain ⟨_, hname, h⟩ := mem_ends_chain_cons.1 h
  obtain ⟨name, rest', rfl, hne, hword, rfl⟩ := mem_ends_group_wordChars hname
  obtain ⟨hbehind, hlast⟩ := exists_of_mem_ends_behind h
  rw [atBoundary_between] at hborder
  -- A name that is cut short is followed by a word character, and not by what stands behind it.
  have hwhole : IsWholeWord past name rest' :=
    ⟨hne, hword, isWord_before_of_isBorder hne hword hborder, hbehind⟩
  exact ⟨name, rest', rfl, hwhole, not_isControlWord_of_ends hwhole hcontrol, hlast⟩

/--
A head has its name from the word behind a defining word, or from its first word, which is then no
control word.
-/
theorem exists_of_mem_findAll (h : head ∈ functionHead.findAll text) :
    ∃ n name, (n = 1 ∨ n = 2 ∧ ¬ IsControlWord name) ∧ NamedBy text head n name := by
  obtain ⟨past, rest, rfl, hfirst, hlast⟩ := (finds_findAll (by decide) text).of_mem h
  rw [matchAt?_eq] at hlast
  have hend := List.mem_of_mem_head? hlast
  obtain ⟨first, last⟩ := head
  obtain rfl : first = .between past rest := hfirst
  rw [functionHead_eq, mem_ends_alt] at hend
  cases hend with
  | inl hdefined =>
    obtain ⟨front, name, rest, rfl, hword, rfl⟩ := exists_of_mem_ends_definedHead hdefined
    exact ⟨1, name, .inl rfl, namedBy_behindName hword⟩
  | inr hbraced =>
    obtain ⟨name, rest, rfl, hword, hcontrol, more, rest', rfl⟩ :=
      exists_of_mem_ends_bracedHead hbraced
    rw [← List.append_nil past] at hword
    exact ⟨2, name, .inr ⟨rfl, hcontrol⟩, by simpa using namedBy_behindName hword⟩

theorem NamedBy.headName_eq {name : List Char} (h : NamedBy text head n name)
    (hn : n = 1 ∨ n = 2) : headName head = name := by
  unfold headName
  rcases hn with rfl | rfl <;> simp [h.group]

/--
The bodies behind heads. A body ends where the next head starts.
-/
def bodies : List Match → List Cursor
  | [] => []
  | [head] => [head.last.truncate head.last.after.length]
  | head :: next :: heads =>
    head.last.truncate (next.first.offset - head.last.offset) :: bodies (next :: heads)

theorem selfCalls_eq (heads : List Match) :
    selfCalls heads = heads.zipWith callsItself (bodies heads) := by
  induction heads with
  | nil => rfl
  | cons head heads ih =>
    cases heads with
    | nil => rfl
    | cons next heads => rw [selfCalls, ih, bodies, List.zipWith_cons_cons]

variable {heads : List Match}

theorem exists_of_mem_bodies {body : Cursor} (h : body ∈ bodies heads) :
    ∃ head ∈ heads, body.offset = head.last.offset := by
  induction heads with
  | nil => cases h
  | cons head heads ih =>
    cases heads with
    | nil =>
      rw [bodies, List.mem_singleton] at h
      exact ⟨head, List.mem_cons_self, h ▸ rfl⟩
    | cons next heads =>
      rw [bodies, List.mem_cons] at h
      rcases h with rfl | h
      . exact ⟨head, List.mem_cons_self, rfl⟩
      . obtain ⟨head', hmem, hoffset⟩ := ih h
        exact ⟨head', List.mem_cons_of_mem head hmem, hoffset⟩

/--
Where heads stand one behind the other, so do their bodies.
-/
theorem pairwise_bodies (hlt : ∀ head ∈ heads, head.first.offset < head.last.offset)
    (h : heads.Pairwise fun head next => head.last.offset ≤ next.first.offset) :
    (bodies heads).Pairwise fun body next => body.offset + body.after.length ≤ next.offset := by
  induction heads with
  | nil => exact .nil
  | cons head heads ih =>
    cases heads with
    | nil => exact List.pairwise_singleton _ _
    | cons next heads =>
      rw [List.forall_mem_cons] at hlt
      rw [List.pairwise_cons] at h
      refine .cons ?_ (ih hlt.2 h.2)
      intro body hbody
      obtain ⟨head', hmem, hoffset⟩ := exists_of_mem_bodies hbody
      have hnext := h.1 next List.mem_cons_self
      have hle : next.first.offset ≤ head'.last.offset := by
        have hlast := hlt.2 head' hmem
        rcases List.mem_cons.1 hmem with rfl | hmem
        . omega
        . have hnextLast := hlt.2 next List.mem_cons_self
          have := (List.pairwise_cons.1 h.2).1 head' hmem
          omega
      simp only [Cursor.truncate, List.length_take]
      omega

/--
In any text, each head of a function that is found has its name from exactly one of its two groups.
The name is a whole word of the text, and in the second group it is no control word in any letter
case. The heads stand one behind the other and do not overlap, nor do the bodies between them, in
which calls are looked for.
-/
theorem functionHead_named (text : List Char) :
    (∀ head ∈ functionHead.findAll text, ∃ n name,
        (n = 1 ∨ n = 2 ∧ ¬ IsControlWord name) ∧ NamedBy text head n name ∧ headName head = name)
      ∧ (functionHead.findAll text).Pairwise
        (fun head next => head.last.offset ≤ next.first.offset)
      ∧ (bodies (functionHead.findAll text)).Pairwise
        (fun body next => body.offset + body.after.length ≤ next.offset)
      ∧ selfCalls (functionHead.findAll text)
        = (functionHead.findAll text).zipWith callsItself (bodies (functionHead.findAll text)) := by
  have hfinds : Finds functionHead [] text (functionHead.findAll text) :=
    finds_findAll (by decide) text
  refine ⟨?_, hfinds.pairwise_offset, pairwise_bodies ?_ hfinds.pairwise_offset, selfCalls_eq _⟩
  . intro head hmem
    obtain ⟨n, name, hn, hnamed⟩ := exists_of_mem_findAll hmem
    exact ⟨n, name, hn, hnamed, hnamed.headName_eq (hn.imp_right And.left)⟩
  . exact fun head hmem => hfinds.offset_lt_of_mem (by decide) hmem

theorem functionHead_named_behind_if :
    ∃ head ∈ functionHead.findAll "fn for; If (x) \x7b iff (y) \x7b".toList,
      head.group? 2 = some "iff".toList
        ∧ ∃ n name, (n = 1 ∨ n = 2 ∧ ¬ IsControlWord name)
          ∧ NamedBy "fn for; If (x) \x7b iff (y) \x7b".toList head n name
          ∧ headName head = name := by
  have hfound : ∃ head ∈ functionHead.findAll "fn for; If (x) \x7b iff (y) \x7b".toList,
      head.group? 2 = some "iff".toList := by
    decide +kernel
  obtain ⟨head, hmem, hgroup⟩ := hfound
  exact ⟨head, hmem, hgroup, (functionHead_named _).1 head hmem⟩

end CodeGauge.Signal
