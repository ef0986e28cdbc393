import CodeGauge.Proofs.Signal.Count
import CodeGauge.Proofs.Signal.Head
import CodeGauge.Proofs.Signal.LoopBody

/-!
This module contains loops inside loops: the heads of loops that a match for a nested loop consists
of, and the two loops that each such match therefore holds.
-/

namespace CodeGauge

namespace Signal

open Pattern Text

variable {cur stop last : Cursor} {past rest head cs u v gap : List Char}


/--
The word of a loop, blanks, and a span in parentheses with no parenthesis inside.
-/
def IsLoopHead (head : List Char) : Prop :=
  ∃ word gap span, head = word ++ (gap ++ '(' :: (span ++ [')']))
    ∧ (∃ base ∈ bracedWords, word.map fold = base.toList) ∧ (∀ c ∈ gap, isBlank c)
    ∧ ∀ c ∈ span, isParen c = false

theorem IsLoopHead.ne_nil (h : IsLoopHead head) : head ≠ [] := by
  obtain ⟨word, gap, span, rfl, _⟩ := h
  simp

theorem mem_ends_loopHead :
    stop ∈ loopHead.ends cur
      ↔
    ∃ head rest, cur.after = head ++ rest ∧ IsLoopHead head ∧ stop = cur.advance head rest := by
  have hwords : [text "for", text "while"] = bracedWords.map text := rfl
  simp only [loopHead, hwords, chain, mem_ends_seq, mem_ends_words bracedWords (by decide),
    mem_ends_blanks, mem_ends_parens]
  constructor
  . rintro ⟨_, ⟨word, _, hafter, hword, rfl⟩, _, ⟨gap, _, rfl, hgap, rfl⟩, span, rest, hrest,
      hspan, rfl⟩
    obtain rfl : _ = '(' :: (span ++ ')' :: rest) := hrest
    exact ⟨_, rest, by simp [hafter], ⟨word, gap, span, rfl, hword, hgap, hspan⟩, by simp⟩
  . rintro ⟨_, rest, hafter, ⟨word, gap, span, rfl, hword, hgap, hspan⟩, rfl⟩
    refine ⟨_, ⟨word, gap ++ '(' :: (span ++ ')' :: rest), by simp [hafter], hword, rfl⟩, _,
      ⟨gap, _, rfl, hgap, rfl⟩, span, rest, rfl, hspan, by simp⟩

/--
A match consists of the head of a loop, an opening brace, text without braces, and a second head.
-/
theorem mem_ends_nestedLoop :
    stop ∈ nestedLoop.ends cur
      ↔
    ∃ first gap inner second rest,
      cur.after = first ++ (gap ++ '{' :: (inner ++ (second ++ rest)))
        ∧ IsLoopHead first ∧ (∀ c ∈ gap, isBlank c) ∧ (∀ c ∈ ['{', '}'], c ∉ inner)
        ∧ IsLoopHead second
        ∧ stop = cur.advance (first ++ (gap ++ '{' :: (inner ++ second))) rest := by
  simp only [nestedLoop, chain, mem_ends_seq, mem_ends_loopHead, mem_ends_blanks, mem_ends_char,
    mem_ends_without]
  constructor
  . rintro ⟨_, ⟨first, _, hafter, hfirst, rfl⟩, _, ⟨gap, _, rfl, hgap, rfl⟩, _, ⟨_, rfl, rfl⟩, _,
      ⟨inner, _, rfl, hinner, _, rfl⟩, second, rest, rfl, hsecond, rfl⟩
    exact ⟨first, gap, inner, second, rest, hafter, hfirst, hgap, hinner, hsecond, by simp⟩
  . rintro ⟨first, gap, inner, second, rest, hafter, hfirst, hgap, hinner, hsecond, rfl⟩
    exact ⟨_, ⟨first, _, hafter, hfirst, rfl⟩, _, ⟨gap, _, rfl, hgap, rfl⟩, _, ⟨_, rfl, rfl⟩, _,
      ⟨inner, _, rfl, hinner, by simp, rfl⟩, second, rest, rfl, hsecond, by simp⟩

/--
Whether the word `for` stands at a position as the end of a longer name, in front of an opening
parenthesis.
-/
def isForInName (past rest : List Char) : Bool :=
  past.getLast?.any isWord && (wordsAt ["for"] rest).any fun (_, tail) => isCalled tail

theorem isForInName_iff :
    isForInName past rest
      ↔
    past.getLast?.any isWord
      ∧ ∃ u v, rest = u ++ v ∧ u.map fold = "for".toList ∧ isCalled v := by
  unfold isForInName
  rw [Bool.and_eq_true, any_wordsAt]
  simp only [List.mem_singleton, exists_eq_left]

/--
Whether a loop is counted at a position, or stands there as the end of a name.
-/
def opensLoop (past rest : List Char) : Bool :=
  isLoop past rest || isForInName past rest

theorem opensLoop_append (past rest : List Char) (hhead : IsLoopHead head) :
    opensLoop past (head ++ rest) := by
  obtain ⟨word, gap, span, rfl, ⟨base, hbase, hspelled⟩, hgap, _⟩ := hhead
  have htext : word ++ (gap ++ '(' :: (span ++ [')'])) ++ rest
      = word ++ (gap ++ '(' :: (span ++ ')' :: rest)) := by
    simp
  have hcalled : isCalled (gap ++ '(' :: (span ++ ')' :: rest)) :=
    isCalled_iff.2 ⟨gap, _, rfl, hgap⟩
  rw [htext, opensLoop, Bool.or_eq_true]
  rw [bracedWords, List.mem_cons, List.mem_singleton] at hbase
  rcases hbase with rfl | rfl
  . by_cases hpast : past.getLast?.any isWord
    . exact .inr (isForInName_iff.2 ⟨hpast, word, _, rfl, hspelled, hcalled⟩)
    . left
      rw [Bool.not_eq_true, Option.any_eq_false] at hpast
      have hborder := isBorder_bracedWord (by simpa using hpast) ⟨"for", by decide, hspelled⟩
        (gap ++ '(' :: (span ++ ')' :: rest))
      exact isLoop_of_for hborder hspelled hgap
  . exact .inl (isLoop_of_called (by decide) hspelled hgap)

theorem holdsAtLeast_nestedLoop (h : last ∈ nestedLoop.ends (.between past rest)) :
    HoldsAtLeast 2 opensLoop past rest last := by
  obtain ⟨first, gap, inner, second, rest, hafter, hfirst, _, _, hsecond, rfl⟩ :=
    mem_ends_nestedLoop.1 h
  obtain rfl : _ = first ++ (gap ++ '{' :: (inner ++ (second ++ rest))) := hafter
  refine ⟨first ++ (gap ++ '{' :: (inner ++ second)), rest, by simp, Cursor.between_advance .., ?_⟩
  -- One of the positions is where the first head starts, the other where the second does.
  have houter := positionsFrom_append_lt hfirst.ne_nil
    (opensLoop_append past (gap ++ '{' :: (inner ++ (second ++ rest))) hfirst)
  have hskip : positionsFrom opensLoop (past ++ first ++ (gap ++ '{' :: inner)) (second ++ rest)
      ≤ positionsFrom opensLoop (past ++ first) (gap ++ '{' :: inner ++ (second ++ rest)) :=
    positionsFrom_append_le ..
  have hinner := positionsFrom_append_lt hsecond.ne_nil
    (opensLoop_append (past ++ first ++ (gap ++ '{' :: inner)) rest hsecond)
  simp only [List.append_assoc, List.cons_append] at houter hskip hinner ⊢
  omega

end Signal

namespace Features

theorem time_eq_quadratic_iff (f : Features) : f.time = .quadratic ↔ 0 < f.nestedLoops := by
  unfold time baseTime
  grind

/--
Each nested loop is two loops, where a name that ends in `for` may be taken for one. So a text in
which there are no calls of such names is not quadratic unless two loops are counted.
-/
theorem two_mul_nestedLoops_le (text : String) :
    2 * (ofText text).nestedLoops
        ≤ (ofText text).loops + positions Signal.isForInName text.toList
      ∧ (positions Signal.isForInName text.toList = 0 → (ofText text).time = .quadratic
        → 2 ≤ (ofText text).loops) := by
  have hle : 2 * (ofText text).nestedLoops
      ≤ (ofText text).loops + positions Signal.isForInName text.toList := by
    calc
      _ ≤ positions Signal.opensLoop text.toList :=
        Pattern.mul_count_le (fun _ _ _ h => Signal.holdsAtLeast_nestedLoop h) (by decide) _
      _ ≤ positions Signal.isLoop text.toList + positions Signal.isForInName text.toList :=
        positionsFrom_or_le ..
      _ = (ofText text).loops + positions Signal.isForInName text.toList := by
        rw [← Signal.counts_loop.count_eq]
        rfl
  refine ⟨hle, ?_⟩
  intro hnone hquadratic
  rw [time_eq_quadratic_iff] at hquadratic
  omega

theorem two_mul_nestedLoops_le_while :
    positions Signal.isForInName "FOR (a; b) \x7b while (c) \x7d".toList = 0
      ∧ (ofText "FOR (a; b) \x7b while (c) \x7d").time = .quadratic
      ∧ 2 ≤ (ofText "FOR (a; b) \x7b while (c) \x7d").loops := by
  have hnone : positions Signal.isForInName "FOR (a; b) \x7b while (c) \x7d".toList = 0 := by
    decide +kernel
  have hquadratic : (ofText "FOR (a; b) \x7b while (c) \x7d").time = .quadratic := by
    decide +kernel
  exact ⟨hnone, hquadratic, (two_mul_nestedLoops_le _).2 hnone hquadratic⟩

example : (ofText "waitfor (x) \x7b for (y)").nestedLoops = 1
    ∧ (ofText "waitfor (x) \x7b for (y)").loops = 1 := by
  decide +kernel

end Features
end CodeGauge
