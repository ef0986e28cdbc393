import CodeGauge.Proofs.Pattern.Finds
import CodeGauge.Proofs.Signal.Word
import CodeGauge.Signal.Call

/-!
This module contains heads of functions in a text: what is read where the word `function` and a name
stand, and which parts of a text have no head that reaches over their edges.
-/

namespace CodeGauge.Signal

open List (Forall₂)
open Pattern Text

variable {l x r past name rest : List Char} {cur cur' stop : Cursor}


def isParen (c : Char) : Bool :=
  c == '(' || c == ')'

theorem find?_isParen_append (h : ∀ c ∈ x, isParen c = false) (r : List Char) :
    (x ++ r).find? isParen = r.find? isParen := by
  rw [List.find?_append, List.find?_eq_none.2 (by simpa using h), Option.none_or]

theorem isParen_eq_false_iff : (∀ c ∈ x, isParen c = false) ↔ ∀ c ∈ ['(', ')'], c ∉ x := by
  unfold isParen
  grind

theorem mem_ends_parens :
    stop ∈ parens.ends cur
      ↔
    ∃ span rest, cur.after = '(' :: (span ++ ')' :: rest) ∧ (∀ c ∈ span, isParen c = false)
      ∧ stop = cur.advance ('(' :: (span ++ [')'])) rest := by
  simp only [parens, chain, mem_ends_seq, mem_ends_char, mem_ends_without, isParen_eq_false_iff]
  constructor
  . rintro ⟨_, ⟨_, hafter, rfl⟩, _, ⟨span, _, rfl, hspan, _, rfl⟩, rest, hrest, rfl⟩
    obtain rfl : _ = ')' :: rest := hrest
    exact ⟨span, rest, hafter, hspan, by simp⟩
  . rintro ⟨span, rest, hafter, hspan, rfl⟩
    exact ⟨_, ⟨_, hafter, rfl⟩, _, ⟨span, _, rfl, hspan, by simp, rfl⟩, rest, rfl, by simp⟩

/--
What follows an opening parenthesis up to the closing one.
-/
def untilClose : Pattern :=
  chain [without ['(', ')'] none, char ')']

theorem find?_of_mem_ends_untilClose (h : stop ∈ untilClose.ends cur) :
    cur.after.find? isParen = some ')' := by
  simp only [untilClose, chain, mem_ends_seq, mem_ends_without, mem_ends_char] at h
  obtain ⟨_, ⟨w, _, hafter, hw, _, rfl⟩, rest, hrest, rfl⟩ := h
  obtain rfl : _ = ')' :: rest := hrest
  rw [hafter, find?_isParen_append]
  . rfl
  . intro c hc
    unfold isParen
    grind

/--
The rest of a span in parentheses does not reach over the edge of a part of a text if behind the
edge no parenthesis closes before another one opens.
-/
theorem simulates_untilClose (h : r.find? isParen ≠ some ')') :
    untilClose.Simulates (Frame l x r) (Frame l x r) := by
  have hclose : (char ')').Simulates (Frame l x r) (Frame l x r) := by
    apply Frame.simulates_one
    cases r with
    | nil => simp
    | cons y r =>
      rintro _ ⟨⟩
      rw [beq_eq_false_iff_ne]
      rintro rfl
      exact h rfl
  intro cur cur' hframe
  induction hafter : cur.after generalizing cur cur' with
  | nil =>
    have hnil {cur : Cursor} (h : cur.after.find? isParen ≠ some ')') :
        untilClose.ends cur = [] := by
      rw [List.eq_nil_iff_forall_not_mem]
      exact fun stop hstop => h (find?_of_mem_ends_untilClose hstop)
    rw [hnil (by simp [hafter]), hnil (by simpa [hframe.after, hafter] using h)]
    exact .nil
  | cons y rest ih =>
    have hafter' : cur'.after = y :: (rest ++ r) := by simp [hframe.after, hafter]
    have hhere : Forall₂ (Frame l x r) ([cur].flatMap (char ')').ends)
        ([cur'].flatMap (char ')').ends) :=
      List.rel_flatMap (.cons hframe .nil) hclose
    simp only [untilClose, chain, without, ends] at ih ⊢
    by_cases hy : y ∉ ['(', ')']
    . have hinside : (!(['(', ')'].contains y)) = true := by simpa using hy
      rw [Cursor.sweep_step hafter (by simp) hinside, Cursor.sweep_step hafter' (by simp) hinside,
        List.flatMap_append, List.flatMap_append]
      exact List.rel_append (ih _ _ (hframe.step hafter) rfl) hhere
    . rw [Cursor.sweep_stop, Cursor.sweep_stop]
      . exact hhere
      all_goals
        intro z rest' hz
        grind

theorem simulates_parens_of_find? (hr : ∀ y ∈ r.head?, y ≠ '(')
    (h : '(' ∉ x ∨ r.find? isParen ≠ some ')') : parens.Simulates (Frame l x r) (Frame l x r) := by
  have hopen : (char '(').Simulates (Frame l x r) (Frame l x r) := by
    apply Frame.simulates_one
    simpa using hr
  cases h with
  | inl hx =>
    intro cur cur' hframe
    have hnone : (char '(').ends cur = [] := by
      rw [List.eq_nil_iff_forall_not_mem]
      intro stop hstop
      obtain ⟨rest, hafter, _⟩ := mem_ends_char.1 hstop
      simp [← hframe.text, hafter] at hx
    have hnone' : (char '(').ends cur' = [] := by
      have hends := hopen cur cur' hframe
      rw [hnone] at hends
      exact List.forall₂_nil_left_iff.1 hends
    simp only [parens, chain, ends, hnone, hnone', List.flatMap_nil]
    exact .nil
  | inr hr => exact hopen.seq (simulates_untilClose hr)

section

variable (hl : ∀ y ∈ l.getLast?, y ∈ ['(', '{']) (hr : ∀ y ∈ r.head?, y ∈ [')', '}'])

include hl hr

theorem simulates_between {p : Pattern} (hp : ∀ y ∈ ['(', '{'], p.ignoresBefore y)
    (hp' : ∀ y ∈ [')', '}'], p.refuses y) : p.Simulates (Frame l x r) (Frame l x r) :=
  simulates_of_edges (fun y hy => hp y (hl y hy)) fun y hy => hp' y (hr y hy)

theorem simulates_call_between : call.Simulates (Frame l x r) (Frame l x r) :=
  simulates_between hl hr (by decide) (by decide)

/--
No head reaches over the edges of a part of a text between opening and closing parentheses or
braces, if what the part opens is not closed behind it.
-/
theorem simulates_functionHead_between (h : '(' ∉ x ∨ r.find? isParen ≠ some ')') :
    functionHead.Simulates (Frame l x r) (Frame l x r) := by
  have hopen : ∀ y ∈ r.head?, y ≠ '(' := by
    rintro y hy rfl
    simpa using hr _ hy
  apply Simulates.alt
  . exact simulates_between hl hr (by decide) (by decide)
  . apply Simulates.chain
    intro p hp
    simp only [List.mem_cons, List.not_mem_nil, or_false] at hp
    rcases hp with rfl | rfl | rfl | rfl | rfl | rfl | rfl
    . exact simulates_between hl hr (by decide) (by decide)
    . exact simulates_between hl hr (by decide) (by decide)
    . exact simulates_between hl hr (by decide) (by decide)
    . exact simulates_between hl hr (by decide) (by decide)
    . exact simulates_parens_of_find? hopen h
    . exact simulates_between hl hr (by decide) (by decide)
    . exact simulates_between hl hr (by decide) (by decide)

end

/--
The position behind a head that consists of the word `function` and a name, which is group 1.
-/
def behindHead (past name rest : List Char) : Cursor :=
  (Cursor.between (past ++ "function ".toList ++ name) rest).record 1
    (.between (past ++ "function ".toList) (name ++ rest))

theorem group?_behindHead : (behindHead past name rest).group? 1 = some name := by
  rw [behindHead, ← Cursor.between_advance _ name (name ++ rest)]
  exact Cursor.group?_record_advance rfl 1

/--
Where the word `function` and a name stand at the start of a word, they are the head of a function.
-/
theorem matchAt?_functionHead (hne : name ≠ []) (hname : ∀ c ∈ name, isWord c)
    (hpast : ∀ c ∈ past.getLast?, isWord c = false) (hrest : ∀ c ∈ rest.head?, isWord c = false) :
    functionHead.matchAt? (.between past ("function ".toList ++ name ++ rest))
      =
    some (behindHead past name rest) := by
  have hfirst : (Cursor.between past ("function ".toList ++ name ++ rest)).atBoundary :=
    atBoundary_between.trans (isBorder_of_starts hpast rfl)
  have hlast : (behindHead past name rest).atBoundary := by
    apply atBoundary_between.trans
    exact isBorder_of_ends (any_getLast?_isWord _ hne hname) hrest
  have hblank : ∀ c ∈ (name ++ rest).head?, isBlank c = false := by
    intro c hc
    rw [List.head?_append_of_ne_nil _ hne] at hc
    rw [Bool.eq_false_iff]
    intro hblank
    have hword := hname c (List.mem_of_mem_head? hc)
    rw [isWord_of_isBlank hblank] at hword
    cases hword
  have hgroup : (group 1 wordChars).search (.between (past ++ "function ".toList) (name ++ rest))
      (fun mid => (chain [boundary]).search mid some) = some (behindHead past name rest) := by
    rw [search]
    refine search_oneOrMore rfl hne hname hrest ?_
    rw [Cursor.between_advance]
    exact search_boundary hlast
  apply search_alt
  rw [search_chain, search_boundary hfirst, search_chain]
  apply search_alt
  rw [text, search_letters (by decide) (rfl : _ = "function".toList ++ (' ' :: (name ++ rest))),
    search_chain]
  refine search_oneOrMore (rfl : _ = [' '] ++ (name ++ rest)) (by simp) (by decide) hblank ?_
  rw [Cursor.advance_advance, Cursor.between_advance, search_chain]
  exact hgroup

end CodeGauge.Signal
