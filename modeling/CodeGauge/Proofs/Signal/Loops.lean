import CodeGauge.Proofs.Signal.NestedLoop

/-!
This module contains texts that are sequences of loops. A match for a nested loop starts at the head
of one of them and ends in its body, whatever parentheses and braces are left open between.
-/

namespace CodeGauge.Signal

open Pattern Text

variable {head rest u v gap more : List Char}


/--
A loop with its head in parentheses and its body in braces. The head holds no parenthesis, and the
body no brace.
-/
structure Loop where
  word : String
  head : List Char
  body : List Char
  word_mem : word ∈ bracedWords
  isParen_head : ∀ c ∈ head, isParen c = false
  noBrace_body : ∀ c ∈ ['{', '}'], c ∉ body

namespace Loop

variable (l : Loop)

/--
The part in front of the parenthesis that closes the head.
-/
def opening : List Char :=
  l.word.toList ++ (" (".toList ++ l.head)

def code : List Char :=
  l.opening ++ ") \x7b".toList ++ l.body ++ ['}']

/--
Loops one behind the other, each on a new line.
-/
def joined (loops : List Loop) : List Char :=
  List.intercalate ['\n'] (loops.map code)

/--
Whether the body holds the head of a loop.
-/
def IsNested : Prop :=
  ∃ head, IsLoopHead head ∧ head <:+: l.body

/--
Loops one behind the other, each behind the end of a line.
-/
def lines (loops : List Loop) : List Char :=
  loops.flatMap fun l => '\n' :: l.code

theorem lines_cons (loops : List Loop) : lines (l :: loops) = '\n' :: (l.code ++ lines loops) := by
  simp [lines]

theorem newline_joined (loops : List Loop) : '\n' :: joined (l :: loops) = lines (l :: loops) := by
  induction loops generalizing l with
  | nil => simp [joined, lines]
  | cons e loops ih =>
    rw [lines_cons, ← ih]
    simp [joined]

theorem infix_joined {loops : List Loop} (hl : l ∈ loops) : l.code <:+: joined loops := by
  cases loops with
  | nil => cases hl
  | cons e loops =>
    have hline : '\n' :: l.code <:+: '\n' :: joined (e :: loops) := by
      rw [newline_joined, lines, List.flatMap]
      exact List.infix_of_mem_flatten (List.mem_map_of_mem (f := fun l => '\n' :: code l) hl)
    rcases List.infix_cons_iff.1 hline with hfirst | hlater
    . exact (List.cons_prefix_cons.1 hfirst).2.isInfix
    . exact (List.suffix_cons '\n' l.code).isInfix.trans hlater

theorem isParen_word : ∀ c ∈ l.word.toList, isParen c = false := by
  have hwords : ∀ word ∈ bracedWords, ∀ c ∈ word.toList, isParen c = false := by
    decide
  exact hwords l.word l.word_mem

theorem not_mem_opening : ')' ∉ l.opening := by
  have hword := isParen_eq_false_iff.1 l.isParen_word
  have hhead := isParen_eq_false_iff.1 l.isParen_head
  simp_all [opening]

theorem code_append (more : List Char) :
    l.code ++ more = l.opening ++ ')' :: ([' '] ++ '{' :: (l.body ++ '}' :: more)) := by
  simp [code]

theorem find?_isParen_lines (loops : List Loop) : (lines loops).find? isParen ≠ some ')' := by
  cases loops with
  | nil => simp [lines]
  | cons l loops =>
    rw [lines_cons, List.find?_cons_of_neg (by decide), code_append, opening, List.append_assoc,
      find?_isParen_append l.isParen_word]
    simp [isParen]

/--
A parenthesis that closes in front of an opening brace is the one of the loop, or stands behind it.
-/
theorem eq_or_exists_of_code (hgap : ∀ c ∈ gap, isBlank c)
    (h : l.code ++ more = u ++ ')' :: (gap ++ '{' :: v)) :
    v = l.body ++ '}' :: more ∨ ∃ y, more = y ++ ')' :: (gap ++ '{' :: v) := by
  have hopen : '{' ∉ gap := not_mem_of_isBlank (by decide) hgap
  have hclose : '}' ∉ ')' :: gap := by
    simp [not_mem_of_isBlank (by decide : isBlank '}' = false) hgap]
  have hbody : '{' ∉ l.body ++ ['}'] := by
    simp [l.noBrace_body '{' (by decide)]
  rw [code_append] at h
  rcases eq_or_exists_of_cut h l.not_mem_opening with ⟨_, heq⟩ | ⟨y, _, hbehind⟩
  . rcases eq_or_exists_of_cut heq.symm (by decide) with ⟨_, hv⟩ | ⟨z, rfl, _⟩
    . exact .inl hv
    . exact absurd hopen (by simp)
  . have hparts : [' '] ++ '{' :: (l.body ++ '}' :: more) = (y ++ ')' :: gap) ++ '{' :: v := by
      rw [hbehind, List.append_assoc, List.cons_append]
    rcases eq_or_exists_of_cut hparts (by decide) with ⟨hz, _⟩ | ⟨z, hz, hrest⟩
    . have hmem : ')' ∈ [' '] := hz ▸ by simp
      exact absurd hmem (by decide)
    . -- The body has no opening brace, so this one stands behind the loop, and with it the text
      -- from the parenthesis on, which does not hold the closing brace of the loop.
      have hcut : z ++ '{' :: v = (l.body ++ ['}']) ++ more := by
        rw [← hrest, List.append_assoc, List.singleton_append]
      obtain ⟨x, rfl⟩ := exists_of_cut_left hcut hbody
      rw [← List.append_assoc] at hcut
      obtain rfl := List.append_cancel_right hcut
      have hclosed : ([' '] ++ '{' :: l.body) ++ '}' :: x = y ++ ')' :: gap := by
        rw [hz]
        simp
      obtain ⟨y, rfl⟩ := exists_of_cut hclosed hclose
      have hx : x = y ++ ')' :: gap := by simpa using hclosed
      exact .inr ⟨y, by rw [hx, List.append_assoc, List.cons_append]⟩

theorem exists_body_of_lines (loops : List Loop) (hgap : ∀ c ∈ gap, isBlank c)
    (h : lines loops = u ++ ')' :: (gap ++ '{' :: v)) :
    ∃ l ∈ loops, ∃ more, v = l.body ++ '}' :: more ∧ more.find? isParen ≠ some ')' := by
  induction loops generalizing u with
  | nil => simp [lines] at h
  | cons l loops ih =>
    rw [lines_cons] at h
    cases u with
    | nil => cases h
    | cons d u =>
      rcases l.eq_or_exists_of_code hgap (List.cons.inj h).2 with hv | ⟨y, hy⟩
      . exact ⟨l, List.mem_cons_self, _, hv, find?_isParen_lines loops⟩
      . obtain ⟨e, he, hbody⟩ := ih hy
        exact ⟨e, List.mem_cons_of_mem l he, hbody⟩

/--
Where a parenthesis closes in front of an opening brace, the body of one of the loops starts. Behind
that loop no parenthesis closes before another one opens.
-/
theorem exists_body_of_joined (loops : List Loop) (hgap : ∀ c ∈ gap, isBlank c)
    (h : joined loops = u ++ ')' :: (gap ++ '{' :: v)) :
    ∃ l ∈ loops, ∃ more, v = l.body ++ '}' :: more ∧ more.find? isParen ≠ some ')' := by
  cases loops with
  | nil => simp [joined] at h
  | cons l loops =>
    have hlines : lines (l :: loops) = ('\n' :: u) ++ ')' :: (gap ++ '{' :: v) := by
      rw [← newline_joined, h, List.cons_append]
    exact exists_body_of_lines _ hgap hlines

/--
The head of a loop that starts in a body ends there, unless a parenthesis closes behind the body
before another one opens.
-/
theorem infix_body_of_cut (hhead : IsLoopHead head) (hu : '}' ∉ u)
    (h : u ++ (head ++ rest) = l.body ++ '}' :: more) (hmore : more.find? isParen ≠ some ')') :
    head <:+: l.body := by
  obtain ⟨word, gap, span, rfl, hword, hgap, hspan⟩ := hhead
  rw [← List.append_assoc, List.append_eq_append_iff] at h
  rcases h with ⟨z, hbody, _⟩ | ⟨z, hz, hrest⟩
  . exact ⟨u, z, hbody.symm⟩
  . cases z with
    | nil => exact ⟨u, [], by simpa using hz⟩
    | cons d z =>
      obtain ⟨rfl, rfl⟩ := List.cons.inj hrest
      have hfront : '}' ∉ u ++ (word ++ (gap ++ ['('])) := by
        have hw : '}' ∉ word := not_mem_of_bracedWord (by decide) hword
        have hg : '}' ∉ gap := not_mem_of_isBlank (by decide) hgap
        simp [hu, hw, hg]
      have hcut : l.body ++ '}' :: z = (u ++ (word ++ (gap ++ ['(']))) ++ (span ++ [')']) := by
        rw [← hz]
        simp
      obtain ⟨y, hy⟩ := exists_of_cut_left hcut hfront
      obtain ⟨x, rfl⟩ := exists_of_cut hy.symm (by decide)
      have hx : ∀ c ∈ x, isParen c = false := fun c hc => hspan c (by simp [hc])
      have hz : z = x ++ [')'] := by simpa using hy.symm
      rw [hz, List.append_eq, List.append_assoc, find?_isParen_append hx] at hmore
      exact absurd rfl hmore

theorem occurs_code (h : l.IsNested) : nestedLoop.occurs l.code := by
  have hwords : ∀ word ∈ bracedWords, word.toList.map fold = word.toList := by
    decide +kernel
  obtain ⟨head, hhead, u, v, hbody⟩ := h
  have hfirst : IsLoopHead (l.opening ++ [')']) :=
    ⟨l.word.toList, [' '], l.head, by simp [opening], ⟨l.word, l.word_mem, hwords _ l.word_mem⟩,
      by decide, l.isParen_head⟩
  have hu : ∀ c ∈ ['{', '}'], c ∉ u := by
    intro c hc hmem
    exact l.noBrace_body c hc (by simp [← hbody, hmem])
  have htext : (Cursor.between [] l.code).after
      = l.opening ++ [')'] ++ ([' '] ++ '{' :: (u ++ (head ++ (v ++ ['}'])))) := by
    simp [Cursor.between, code, ← hbody]
  have hend := mem_ends_nestedLoop.2
    ⟨_, [' '], u, head, v ++ ['}'], htext, hfirst, by decide, hu, hhead, rfl⟩
  exact (occurs_iff_between _ _).2 ⟨[], l.code, rfl, List.ne_nil_of_mem hend⟩

theorem occurs_joined_iff (loops : List Loop) :
    nestedLoop.occurs (joined loops) ↔ ∃ l ∈ loops, l.IsNested := by
  constructor
  . intro h
    obtain ⟨past, cs, htext, hends⟩ := (occurs_iff_between nestedLoop _).1 h
    obtain ⟨stop, hstop⟩ := List.exists_mem_of_ne_nil _ hends
    obtain ⟨_, gap, inner, second, rest, hafter, ⟨word, gap', span, rfl, _⟩, hgap, hinner, hsecond,
      _⟩ := mem_ends_nestedLoop.1 hstop
    have hcut : joined loops = (past ++ (word ++ (gap' ++ '(' :: span)))
        ++ ')' :: (gap ++ '{' :: (inner ++ (second ++ rest))) := by
      rw [htext, show cs = _ from hafter]
      simp
    obtain ⟨l, hl, more, hbody, hmore⟩ := exists_body_of_joined loops hgap hcut
    exact ⟨l, hl, second, hsecond,
      l.infix_body_of_cut hsecond (hinner '}' (by decide)) hbody hmore⟩
  . rintro ⟨l, hl, hnested⟩
    obtain ⟨before, behind, htext⟩ := l.infix_joined hl
    rw [← htext]
    exact occurs_of_looksAtOwn (by decide) (l.occurs_code hnested)

/--
In a sequence of loops a nested loop is seen, and the text is quadratic, if and only if the body of
one of them holds the head of another loop. Loops that only follow each other are not taken for
nested ones.
-/
theorem nestedLoops_joined (loops : List Loop) :
    (0 < (Features.ofText (String.ofList (joined loops))).nestedLoops ↔ ∃ l ∈ loops, l.IsNested)
      ∧ ((Features.ofText (String.ofList (joined loops))).time = .quadratic
        ↔ ∃ l ∈ loops, l.IsNested) := by
  have hcount : 0 < (Features.ofText (String.ofList (joined loops))).nestedLoops
      ↔ ∃ l ∈ loops, l.IsNested := by
    rw [← occurs_joined_iff, occurs_iff]
    simp only [Features.ofText, String.toList_ofList]
  exact ⟨hcount, (Features.time_eq_quadratic_iff _).trans hcount⟩

theorem nestedLoops_joined_two :
    0 < (Features.ofText
        "for (\x7b) \x7b while (; \x7d\nwhile (b) \x7b g(1); FOR (c) \x7d").nestedLoops
      ∧ (Features.ofText
        "for (\x7b) \x7b while (; \x7d\nwhile (b) \x7b g(1); FOR (c) \x7d").time = .quadratic := by
  let loops : List Loop := [
    ⟨"for", "\x7b".toList, " while (; ".toList, by decide, by decide, by decide⟩,
    ⟨"while", "b".toList, " g(1); FOR (c) ".toList, by decide, by decide, by decide⟩]
  have hhead : IsLoopHead "FOR (c)".toList :=
    ⟨"FOR".toList, " ".toList, "c".toList, rfl, ⟨"for", by decide, by decide +kernel⟩, by decide,
      by decide⟩
  have hnested : ∃ l ∈ loops, l.IsNested :=
    ⟨_, List.mem_cons_of_mem _ List.mem_cons_self, _, hhead, " g(1); ".toList, " ".toList, rfl⟩
  have htext : "for (\x7b) \x7b while (; \x7d\nwhile (b) \x7b g(1); FOR (c) \x7d"
      = String.ofList (joined loops) := by
    decide +kernel
  rw [htext]
  exact ⟨(nestedLoops_joined loops).1.2 hnested, (nestedLoops_joined loops).2.2 hnested⟩

end Loop

end CodeGauge.Signal
