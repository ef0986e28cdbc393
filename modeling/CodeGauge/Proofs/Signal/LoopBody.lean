import CodeGauge.Proofs.Pattern.Finds
import CodeGauge.Proofs.Signal.Word
import CodeGauge.Signal.Halving

/-!
This module contains loops with their bodies as the scan finds them. A head ends at the first
opening brace and a body at the first closing one, so at each position there is one way to read a
loop, or none.
-/

namespace CodeGauge.Signal

open Pattern Text

variable {cur stop last : Cursor} {cs head body rest : List Char}


/--
The words of loops that have a body in braces.
-/
def bracedWords : List String :=
  ["for", "while"]

/--
How a text starts with a loop: with a head, which holds the word, up to the first opening brace, and
a body up to the first closing one.
-/
structure StartsLoop (cs head body rest : List Char) : Prop where
  text : cs = head ++ '{' :: (body ++ '}' :: rest)
  word : ∃ u v, head = u ++ v ∧ (∃ word ∈ bracedWords, u.map fold = word.toList) ∧ v.length ≤ 200
  noOpening : '{' ∉ head
  noClosing : '}' ∉ body
  length : body.length ≤ 1000

/--
The position behind a loop, with its body as a group.
-/
def behindLoop (cur : Cursor) (head body rest : List Char) : Cursor :=
  let start := cur.advance (head ++ ['{']) (body ++ '}' :: rest)
  ((start.advance body ('}' :: rest)).record 1 start).advance ['}'] rest

theorem group?_behindLoop : (behindLoop cur head body rest).group? 1 = some body :=
  Cursor.group?_record_advance (Cursor.advance_after ..) 1

theorem offset_behindLoop :
    (behindLoop cur head body rest).offset = cur.offset + (head.length + body.length + 2) := by
  simp only [behindLoop, Cursor.advance_offset, Cursor.record, List.length_append,
    List.length_singleton]
  omega

theorem not_mem_of_bracedWord {c : Char} (hc : c ∈ ['{', '}']) {u : List Char}
    (h : ∃ word ∈ bracedWords, u.map fold = word.toList) : c ∉ u := by
  have hwords : ∀ c ∈ ['{', '}'], ∀ word ∈ bracedWords, fold c ∉ word.toList := by decide +kernel
  obtain ⟨word, hword, hspelled⟩ := h
  intro hmem
  apply hwords c hc word hword
  rw [← hspelled]
  exact List.mem_map_of_mem hmem

/--
In front of the word of a loop a word starts, unless one goes on there.
-/
theorem isBorder_bracedWord {past word : List Char} (hpast : ∀ c ∈ past.getLast?, isWord c = false)
    (hword : ∃ base ∈ bracedWords, word.map fold = base.toList) (more : List Char) :
    isBorder past (word ++ more) := by
  have hletters : ∀ base ∈ bracedWords,
      ∃ letter ∈ base.toList.head?, isWord letter ∧ letter.toNat < 128 := by
    decide
  obtain ⟨base, hbase, hspelled⟩ := hword
  obtain ⟨letter, hhead, hletter, hascii⟩ := hletters base hbase
  have hfirst : word.head?.any isWord = isWord letter := by
    apply any_isWord_of_fold _ hascii
    rw [← List.head?_map, hspelled]
    exact hhead
  have hne : word ≠ [] := by
    rintro rfl
    rw [hletter] at hfirst
    cases hfirst
  rw [isBorder_append_right past more hne]
  exact isBorder_of_starts hpast (hfirst.trans hletter)

theorem mem_ends_loopBody :
    stop ∈ loopBody.ends cur
      ↔
    cur.atBoundary ∧ ∃ head body rest, StartsLoop cur.after head body rest
      ∧ stop = behindLoop cur head body rest := by
  have hwords : [text "for", text "while"] = bracedWords.map text := rfl
  simp only [loopBody, chain, hwords, mem_ends_seq, mem_ends_boundary,
    mem_ends_words bracedWords (by decide), mem_ends_without, mem_ends_char,
    mem_ends_group]
  constructor
  . rintro ⟨_, ⟨hfirst, rfl⟩, _, ⟨u, _, hafter, hword, rfl⟩, _, ⟨v, _, rfl, hv, hlength, rfl⟩, _,
      ⟨_, rfl, rfl⟩, _, ⟨_, ⟨body, tail, rfl, hbody, hlimit, rfl⟩, rfl⟩, rest, hrest, rfl⟩
    obtain rfl : tail = '}' :: rest := hrest
    refine ⟨hfirst, u ++ v, body, rest, ⟨?_, ⟨u, v, rfl, hword, ?_⟩, ?_, ?_, ?_⟩, ?_⟩
    . simpa using hafter
    . simpa using hlength
    . rw [List.mem_append, not_or]
      exact ⟨not_mem_of_bracedWord (by decide) hword, by simpa using hv⟩
    . simpa using hbody
    . simpa using hlimit
    . simp [behindLoop]
  . rintro ⟨hfirst, head, body, rest, hloop, rfl⟩
    obtain ⟨u, v, rfl, hword, hlength⟩ := hloop.word
    have hv : '{' ∉ v := fun hmem => hloop.noOpening (List.mem_append_right u hmem)
    have hafter : cur.after = u ++ (v ++ '{' :: (body ++ '}' :: rest)) := by
      rw [hloop.text, List.append_assoc]
    refine ⟨_, ⟨hfirst, rfl⟩, _, ⟨u, _, hafter, hword, rfl⟩, _,
      ⟨v, _, rfl, by simpa using hv, by simpa using hlength, rfl⟩, _, ⟨_, rfl, rfl⟩, _,
      ⟨_, ⟨body, '}' :: rest, rfl, by simpa using hloop.noClosing, by simpa using hloop.length,
        rfl⟩, rfl⟩, rest, rfl, ?_⟩
    simp [behindLoop]

section

variable {c : Char} {b l r u v w x : List Char}

/--
Where a text is cut at two places in front of the same character, the cut that has none of it before
is the first.
-/
theorem eq_or_exists_of_cut (h : u ++ c :: v = w ++ c :: x) (hu : c ∉ u) :
    w = u ∧ x = v ∨ ∃ y, w = u ++ c :: y ∧ v = y ++ c :: x := by
  rcases List.append_eq_append_iff.1 h with ⟨z, rfl, hz⟩ | ⟨z, rfl, hz⟩
  . cases z with
    | nil => simp_all
    | cons d z => simp_all
  . cases z with
    | nil => simp_all
    | cons d z => simp_all

theorem eq_of_unique_cut (h : u ++ c :: v = w ++ c :: x) (hu : c ∉ u) (hv : c ∉ v) :
    w = u ∧ x = v := by
  rcases eq_or_exists_of_cut h hu with heq | ⟨y, rfl, rfl⟩
  . exact heq
  . simp at hv

/--
A character that the second part of a text does not hold is in the first.
-/
theorem exists_of_cut (h : u ++ c :: v = w ++ x) (hx : c ∉ x) : ∃ y, w = u ++ c :: y := by
  rcases List.append_eq_append_iff.1 h with ⟨z, rfl, hz⟩ | ⟨z, rfl, hz⟩
  . cases z with
    | nil =>
      rw [List.nil_append] at hz
      simp [← hz] at hx
    | cons d z => simp_all
  . simp_all

/--
A character that the first part of a text does not hold is in the second.
-/
theorem exists_of_cut_left (h : u ++ c :: v = w ++ x) (hw : c ∉ w) : ∃ y, x = y ++ c :: v := by
  rcases List.append_eq_append_iff.1 h with ⟨z, rfl, hz⟩ | ⟨z, rfl, rfl⟩
  . cases z with
    | nil => exact ⟨[], by simpa using hz.symm⟩
    | cons d z => simp_all
  . exact ⟨z, rfl⟩

/--
A text that is cut in front of a character has each of its parts without that character on one side.
-/
theorem exists_of_cut_around (hb : c ∉ b) (h : l ++ (b ++ r) = u ++ c :: v) :
    (∃ r', u = l ++ (b ++ r') ∧ r = r' ++ c :: v)
      ∨ ∃ l', l = u ++ c :: l' ∧ v = l' ++ (b ++ r) := by
  rw [← List.append_assoc] at h
  rcases List.append_eq_append_iff.1 h with ⟨z, rfl, rfl⟩ | ⟨z, hz, hrest⟩
  . exact .inl ⟨z, by simp, rfl⟩
  . cases z with
    | nil => exact .inl ⟨[], by simpa using hz.symm, by simpa using hrest.symm⟩
    | cons d z =>
      obtain ⟨rfl, rfl⟩ := List.cons.inj hrest
      obtain ⟨y, rfl⟩ := exists_of_cut hz.symm hb
      have hy : y ++ b = z := by simpa using hz
      exact .inr ⟨y, rfl, by rw [← List.append_assoc, hy]; rfl⟩

end

namespace StartsLoop

variable {head' body' rest' w more : List Char}

theorem unique (h : StartsLoop cs head body rest) (h' : StartsLoop cs head' body' rest') :
    head = head' ∧ body = body' ∧ rest = rest' := by
  have htext := h.text.symm.trans h'.text
  have hhead : head = head' := by
    rcases eq_or_exists_of_cut htext h.noOpening with ⟨heq, _⟩ | ⟨y, rfl, _⟩
    . exact heq.symm
    . exact absurd h'.noOpening (by simp)
  subst hhead
  have hbody := (List.cons.inj (List.append_cancel_left htext)).2
  rcases eq_or_exists_of_cut hbody h.noClosing with ⟨heq, hrest⟩ | ⟨y, rfl, _⟩
  . exact ⟨rfl, heq.symm, hrest.symm⟩
  . exact absurd h'.noClosing (by simp)

theorem of_text (h : StartsLoop cs head body rest)
    (htext : w = head ++ '{' :: (body ++ '}' :: rest')) : StartsLoop w head body rest' :=
  { h with text := htext }

theorem append (h : StartsLoop cs head body rest) (more : List Char) :
    StartsLoop (cs ++ more) head body (rest ++ more) :=
  h.of_text (by simp [h.text])

/--
A loop that starts before another one of the same text needs none of the text that follows.
-/
theorem exists_of_append (h : StartsLoop (cs ++ more) head body rest)
    (hlater : cs = w ++ '{' :: (body' ++ '}' :: rest')) : ∃ rest, StartsLoop cs head body rest := by
  have htext := h.text.symm
  rw [hlater, List.append_assoc, List.cons_append] at htext
  rcases eq_or_exists_of_cut htext h.noOpening with ⟨rfl, hbody⟩ | ⟨y, rfl, hbody⟩
  . -- Both open at the same brace, and so they close at the same one.
    rw [List.append_assoc, List.cons_append] at hbody
    rcases eq_or_exists_of_cut hbody.symm h.noClosing with ⟨rfl, _⟩ | ⟨z, rfl, _⟩
    . exact ⟨_, h.of_text hlater⟩
    . exact ⟨_, h.of_text (by simpa using hlater)⟩
  . have hbody : body ++ '}' :: rest = (y ++ '{' :: body') ++ '}' :: (rest' ++ more) := by
      simpa using hbody
    rcases eq_or_exists_of_cut hbody h.noClosing with ⟨rfl, _⟩ | ⟨z, hz, _⟩
    . exact ⟨_, h.of_text (by simpa using hlater)⟩
    . refine ⟨z ++ '}' :: rest', h.of_text ?_⟩
      have : y ++ '{' :: (body' ++ '}' :: rest') = body ++ '}' :: (z ++ '}' :: rest') := by
        rw [← List.cons_append, ← List.append_assoc, hz, List.append_assoc, List.cons_append]
      rw [hlater, List.append_assoc, List.cons_append, this]

/--
Behind the start of a loop there may start another one. If no closing brace stands in its head, it
has the same body, lies in the body of the first, or is behind it.
-/
theorem cases_of_append {u : List Char} (h : StartsLoop (u ++ w) head body rest)
    (hlater : StartsLoop w head' body' rest') (hhead : '}' ∉ head') :
    (body = body' ∨ ∃ y, body = y ++ '{' :: body')
      ∨ ∃ y, u = head ++ '{' :: (body ++ '}' :: y) ∧ rest = y ++ w := by
  have htext := h.text.symm
  rw [hlater.text, ← List.append_assoc] at htext
  rcases eq_or_exists_of_cut htext h.noOpening with ⟨_, hbody⟩ | ⟨y, hopen, hbody⟩
  . rcases eq_or_exists_of_cut hbody hlater.noClosing with ⟨heq, _⟩ | ⟨z, rfl, _⟩
    . exact .inl (.inl heq)
    . exact absurd h.noClosing (by simp)
  . have hcut : body ++ '}' :: rest = (y ++ '{' :: body') ++ '}' :: rest' := by
      rw [hbody, List.append_assoc, List.cons_append]
    rcases eq_or_exists_of_cut hcut h.noClosing with ⟨heq, _⟩ | ⟨z, hclose, hrest⟩
    . exact .inl (.inr ⟨y, heq.symm⟩)
    . -- The first body ends before the second one starts, and so before the second head.
      right
      have hbrace : '}' ∉ '{' :: body' := by
        rw [List.mem_cons, not_or]
        exact ⟨by decide, hlater.noClosing⟩
      obtain ⟨y, rfl⟩ := exists_of_cut hclose.symm hbrace
      have hfirst : (head ++ '{' :: body) ++ '}' :: y = u ++ head' := by
        rw [hopen, List.append_assoc, List.cons_append]
      obtain ⟨x, rfl⟩ := exists_of_cut hfirst hhead
      refine ⟨x, by simp, ?_⟩
      have := h.text
      simpa using this.symm

end StartsLoop

variable {past w more : List Char} {ms : List Match}

theorem matchAt?_loopBody_eq_some_iff :
    loopBody.matchAt? (.between past cs) = some last
      ↔
    isBorder past cs ∧ ∃ head body rest, StartsLoop cs head body rest
      ∧ last = behindLoop (.between past cs) head body rest := by
  have hsome {last : Cursor} (h : loopBody.matchAt? (.between past cs) = some last) :
      isBorder past cs ∧ ∃ head body rest, StartsLoop cs head body rest
        ∧ last = behindLoop (.between past cs) head body rest := by
    rw [matchAt?_eq] at h
    rw [← atBoundary_between]
    exact mem_ends_loopBody.1 (List.mem_of_mem_head? h)
  constructor
  . exact hsome
  . rintro ⟨hborder, head, body, rest, hloop, rfl⟩
    have hend := mem_ends_loopBody.2
      ⟨atBoundary_between.trans hborder, head, body, rest, hloop, rfl⟩
    obtain ⟨last, hlast⟩ := Option.isSome_iff_exists.1
      ((isSome_matchAt? loopBody _).2 (List.ne_nil_of_mem hend))
    obtain ⟨_, head', body', rest', hloop', rfl⟩ := hsome hlast
    obtain ⟨rfl, rfl, rfl⟩ := hloop.unique hloop'
    exact hlast

/--
In a text with a single opening brace all loops have the body that follows it.
-/
theorem group?_of_mem_findAll {m : Match}
    (hm : m ∈ loopBody.findAll (head ++ '{' :: (body ++ '}' :: rest))) (hhead : '{' ∉ head)
    (hbody : ∀ c ∈ ['{', '}'], c ∉ body) (hrest : '{' ∉ rest) :
    m.group? 1 = some body ∧ body.length ≤ 1000 := by
  obtain ⟨u, v, htext, hfirst, hlast⟩ := (finds_findAll (by decide) _).of_mem hm
  rw [hfirst] at hlast
  obtain ⟨_, head', body', rest', hloop, hlast⟩ := matchAt?_loopBody_eq_some_iff.1 hlast
  rw [hloop.text, ← List.append_assoc] at htext
  have hafter : '{' ∉ body ++ '}' :: rest := by
    simp [hbody '{' (by decide), hrest]
  obtain ⟨_, hcut⟩ := eq_of_unique_cut htext hhead hafter
  have hsame : body' = body := by
    rcases eq_or_exists_of_cut hcut hloop.noClosing with ⟨heq, _⟩ | ⟨y, rfl, _⟩
    . exact heq.symm
    . exact absurd (hbody '}' (by decide)) (by simp)
  refine ⟨?_, hsame ▸ hloop.length⟩
  rw [Match.group?, hlast, group?_behindLoop, hsame]

theorem exists_of_taken (hsome : loopBody.matchAt? (.between past (w ++ rest)) = some last)
    (hlength : (Match.mk (.between past (w ++ rest)) last).length = w.length) :
    ∃ head body, isBorder past (w ++ rest) ∧ StartsLoop (w ++ rest) head body rest
      ∧ w = head ++ '{' :: (body ++ ['}'])
      ∧ last = behindLoop (.between past (w ++ rest)) head body rest := by
  obtain ⟨hborder, head, body, rest', hloop, rfl⟩ := matchAt?_loopBody_eq_some_iff.1 hsome
  have htext : w ++ rest = (head ++ '{' :: (body ++ ['}'])) ++ rest' := by
    simpa using hloop.text
  rw [Match.length, offset_behindLoop, Nat.add_sub_cancel_left] at hlength
  obtain ⟨rfl, rfl⟩ := List.append_inj htext (by simp [← hlength, Nat.add_assoc])
  exact ⟨head, body, hborder, hloop, rfl, rfl⟩

/--
A loop without a closing brace in its head is found, or the loop in whose body it stands.
-/
theorem exists_body_of_loop (hms : Finds loopBody past cs ms)
    (hloop : StartsLoop w head body rest) (hhead : '}' ∉ head) {u : List Char}
    (htext : cs = u ++ w) (hborder : isBorder (past ++ u) w) :
    ∃ m ∈ ms, ∃ found, m.group? 1 = some found
      ∧ (found = body ∨ ∃ y, found = y ++ '{' :: body) := by
  -- The text in front of the loop gets shorter with every step of the scan.
  induction hms generalizing u with
  | done =>
    rw [hloop.text] at htext
    simp at htext
  | @pass past c cs ms hnone _ ih =>
    cases u with
    | nil =>
      rw [List.append_nil] at hborder
      have hsome := matchAt?_loopBody_eq_some_iff.2 ⟨hborder, _, _, _, hloop, rfl⟩
      rw [htext, List.nil_append, hsome] at hnone
      cases hnone
    | cons d u =>
      obtain ⟨rfl, rfl⟩ := List.cons.inj htext
      exact ih rfl (by simpa using hborder)
  | @take past v cs last ms _ hsome hlength _ ih =>
    obtain ⟨head', body', _, hfirst, rfl, rfl⟩ := exists_of_taken hsome hlength
    rw [htext] at hfirst
    rcases hfirst.cases_of_append hloop hhead with hbody | ⟨y, rfl, rfl⟩
    . exact ⟨_, List.mem_cons_self, body', group?_behindLoop, hbody⟩
    . obtain ⟨m, hm, hfound⟩ := ih rfl (by simpa using hborder)
      exact ⟨m, List.mem_cons_of_mem _ hm, hfound⟩

/--
Where no loop starts in a text, but one does when more follows, the text has no loop behind that
position either.
-/
theorem eq_nil_of_matchAt?_append {c : Char}
    (hnone : loopBody.matchAt? (.between past (c :: cs)) = none)
    (hms : Finds loopBody (past ++ [c]) cs ms)
    (hmore : loopBody.matchAt? (.between past (c :: cs ++ more)) = some last) : ms = [] := by
  rw [List.eq_nil_iff_forall_not_mem]
  intro m hm
  obtain ⟨u, v, rfl, hfirst, hlater⟩ := hms.of_mem hm
  rw [hfirst] at hlater
  obtain ⟨_, head', body', rest', hlater, _⟩ := matchAt?_loopBody_eq_some_iff.1 hlater
  obtain ⟨hborder, head, body, _, hloop, _⟩ := matchAt?_loopBody_eq_some_iff.1 hmore
  rw [isBorder_append_right past more (by simp)] at hborder
  have htext : c :: (u ++ v) = (c :: u ++ head') ++ '{' :: (body' ++ '}' :: rest') := by
    rw [hlater.text, List.append_assoc, List.cons_append]
  obtain ⟨rest, hhere⟩ := hloop.exists_of_append htext
  rw [matchAt?_loopBody_eq_some_iff.2 ⟨hborder, head, body, rest, hhere, rfl⟩] at hnone
  cases hnone

/--
The loops that are found in a text are the first that are found, with the same bodies, when more
text follows.
-/
theorem exists_finds_append (hms : Finds loopBody past cs ms) (more : List Char) :
    ∃ ms', Finds loopBody past (cs ++ more) ms' ∧ ms.map (·.group? 1) <+: ms'.map (·.group? 1) := by
  induction hms with
  | @done past =>
    obtain ⟨ms', hms'⟩ := exists_finds (by decide : 0 < loopBody.least) past ([] ++ more)
    exact ⟨ms', hms', List.nil_prefix⟩
  | @pass past c cs ms hnone hrest ih =>
    obtain ⟨ms', hms', hbodies⟩ := ih
    cases hmore : loopBody.matchAt? (.between past (c :: cs ++ more)) with
    | none => exact ⟨ms', .pass hmore hms', hbodies⟩
    | some last =>
      obtain ⟨ms', hms'⟩ := exists_finds (by decide : 0 < loopBody.least) past (c :: cs ++ more)
      rw [eq_nil_of_matchAt?_append hnone hrest hmore]
      exact ⟨ms', hms', List.nil_prefix⟩
  | @take past w cs last ms hne hsome hlength hrest ih =>
    obtain ⟨ms', hms', hbodies⟩ := ih
    obtain ⟨head, body, hborder, hloop, _, rfl⟩ := exists_of_taken hsome hlength
    have happend := hloop.append more
    rw [← isBorder_append_right past more (by simp [hne])] at hborder
    rw [List.append_assoc] at hborder happend ⊢
    have hsome' := matchAt?_loopBody_eq_some_iff.2 ⟨hborder, _, _, _, happend, rfl⟩
    refine ⟨_, .take hne hsome' ?_ hms', ?_⟩
    . rw [← hlength, Match.length, Match.length, offset_behindLoop, offset_behindLoop]
      rfl
    . simp only [List.map_cons, Match.group?, group?_behindLoop]
      exact (List.prefix_cons_inj _).2 hbodies

end CodeGauge.Signal
