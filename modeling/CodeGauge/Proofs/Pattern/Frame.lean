import CodeGauge.Proofs.Pattern.Simulation

/-!
This module contains the comparison of a text with a longer one that it is a part of: at which
patterns the parts before and behind it make no difference.
-/

namespace CodeGauge

open List (Forall₂)
open Text

variable {l x r : List Char} {cur cur' : Cursor} {p : Char → Bool} {limit : Option Nat} {c : Char}
  {rest : List Char}


/--
Two groups with the same number and the same text.
-/
def SameGroup (g g' : Nat × Span) : Prop :=
  g.1 = g'.1 ∧ g.2.chars = g'.2.chars

/--
`cur` is a position in the text `x`, and `cur'` is the same one in `l ++ x ++ r`.
-/
structure Frame (l x r : List Char) (cur cur' : Cursor) : Prop where
  text : cur.before.reverse ++ cur.after = x
  before : cur'.before = cur.before ++ l.reverse
  after : cur'.after = cur.after ++ r
  groups : Forall₂ SameGroup cur.groups cur'.groups

namespace Frame

theorem between (l u v r : List Char) :
    Frame l (u ++ v) r (.between u v) (.between (l ++ u) (v ++ r)) where
  text := by simp [Cursor.between]
  before := by simp [Cursor.between]
  after := rfl
  groups := .nil

theorem offset (h : Frame l x r cur cur') : cur'.offset = cur.offset + l.length := by
  rw [cur'.offset_eq, cur.offset_eq, h.before]
  simp

theorem offset_add_length (h : Frame l x r cur cur') :
    cur.offset + cur.after.length = x.length := by
  rw [cur.offset_eq, ← h.text]
  simp

theorem step (h : Frame l x r cur cur') (hafter : cur.after = c :: rest) :
    Frame l x r (cur.step c rest) (cur'.step c (rest ++ r)) where
  text := by simp [← h.text, hafter]
  before := by simp [h.before]
  after := rfl
  groups := h.groups

theorem group?_eq (h : Frame l x r cur cur') (n : Nat) : cur'.group? n = cur.group? n := by
  have hgroups := h.groups
  unfold Cursor.group?
  generalize cur.groups = gs at hgroups
  generalize cur'.groups = gs' at hgroups
  induction hgroups with
  | nil => rfl
  | @cons g g' gs gs' hg _ ih =>
    obtain ⟨m, span⟩ := g
    obtain ⟨m', span'⟩ := g'
    obtain ⟨rfl, hspan⟩ := hg
    simp only [List.lookup_cons]
    split
    . simpa using hspan.symm
    . exact ih

theorem record {stop stop' : Cursor} (n : Nat) (h : Frame l x r cur cur')
    (hstop : Frame l x r stop stop') : Frame l x r (stop.record n cur) (stop'.record n cur') where
  text := hstop.text
  before := hstop.before
  after := hstop.after
  groups := by
    refine .cons ⟨rfl, ?_⟩ hstop.groups
    have := h.offset_add_length
    have := hstop.offset_add_length
    have : stop'.offset - cur'.offset = stop.offset - cur.offset := by
      rw [h.offset, hstop.offset]
      omega
    simp only [Cursor.upTo, Span.chars, this, h.after]
    rw [List.take_append_of_le_length]
    omega

theorem sweep (h : Frame l x r cur cur')
    (hstop : (∀ y ∈ r.head?, p y = false) ∨ ∃ y ∈ cur.after, p y = false) :
    Forall₂ (Frame l x r) (cur.sweep p limit) (cur'.sweep p limit) := by
  induction hafter : cur.after generalizing cur cur' limit with
  | nil =>
    have hafter' : cur'.after = r := by simp [h.after, hafter]
    rw [Cursor.sweep_stop (by simp [hafter]), Cursor.sweep_stop]
    . exact .cons h .nil
    . intro y rest hy
      rw [hafter'] at hy
      simp_all
  | cons y rest ih =>
    have hafter' : cur'.after = y :: (rest ++ r) := by simp [h.after, hafter]
    by_cases hstep : limit ≠ some 0 ∧ p y
    . rw [Cursor.sweep_step hafter hstep.1 hstep.2, Cursor.sweep_step hafter' hstep.1 hstep.2]
      apply List.rel_append _ (.cons h .nil)
      apply ih (h.step hafter)
      . cases hstop with
        | inl hr => exact .inl hr
        | inr hex =>
          obtain ⟨z, hz, hpz⟩ := hex
          rw [hafter] at hz
          cases List.mem_cons.1 hz with
          | inl heq => simp_all
          | inr hmem => exact .inr ⟨z, hmem, hpz⟩
      . rfl
    . rw [Cursor.sweep_stop, Cursor.sweep_stop]
      . exact .cons h .nil
      all_goals
        intro z rest' hz
        grind

theorem exists_mem_sweep (h : Frame l x r cur cur') {stop : Cursor}
    (hstop : stop ∈ cur.sweep p limit) : ∃ stop' ∈ cur'.sweep p limit, Frame l x r stop stop' := by
  induction hafter : cur.after generalizing cur cur' limit with
  | nil =>
    rw [Cursor.sweep_stop (by simp [hafter]), List.mem_singleton] at hstop
    exact ⟨cur', Cursor.self_mem_sweep, hstop ▸ h⟩
  | cons y rest ih =>
    have hafter' : cur'.after = y :: (rest ++ r) := by simp [h.after, hafter]
    by_cases hstep : limit ≠ some 0 ∧ p y
    . rw [Cursor.sweep_step hafter hstep.1 hstep.2, List.mem_append] at hstop
      cases hstop with
      | inl hstop =>
        obtain ⟨stop', hmem, hframe⟩ := ih (h.step hafter) hstop rfl
        refine ⟨stop', ?_, hframe⟩
        rw [Cursor.sweep_step hafter' hstep.1 hstep.2]
        exact List.mem_append_left _ hmem
      | inr hstop => exact ⟨cur', Cursor.self_mem_sweep, List.mem_singleton.1 hstop ▸ h⟩
    . rw [Cursor.sweep_stop, List.mem_singleton] at hstop
      . exact ⟨cur', Cursor.self_mem_sweep, hstop ▸ h⟩
      . intro z rest' hz
        grind

theorem follows_eq (h : Frame l x r cur cur') {tests : List (Char → Bool)}
    (hl : ∀ y ∈ l.getLast?, ∀ test ∈ tests, test y = false) :
    cur'.follows tests = cur.follows tests := by
  unfold Cursor.follows
  rw [h.before]
  generalize cur.before = cs
  induction tests generalizing cs with
  | nil => rfl
  | cons test tests ih =>
    cases cs with
    | nil =>
      rw [← List.head?_reverse] at hl
      cases hrev : l.reverse <;> simp_all [Cursor.follows.go]
    | cons c cs =>
      simp only [List.cons_append, Cursor.follows.go]
      rw [ih]
      simp_all

theorem atBoundary_eq (h : Frame l x r cur cur') (hl : ∀ y ∈ l.getLast?, isWord y = false)
    (hr : ∀ y ∈ r.head?, isWord y = false) : cur'.atBoundary = cur.atBoundary := by
  have hbefore : cur'.before.head?.any isWord = cur.before.head?.any isWord := by
    rw [h.before]
    cases cur.before with
    | nil =>
      rw [← List.head?_reverse] at hl
      cases hrev : l.reverse <;> simp_all
    | cons c cs => rfl
  have hafter : cur'.after.head?.any isWord = cur.after.head?.any isWord := by
    rw [h.after]
    cases cur.after with
    | nil => cases r <;> simp_all
    | cons c cs => rfl
  unfold Cursor.atBoundary
  rw [hbefore, hafter]

theorem atBoundary_eq_of_ne_nil (h : Frame [] x r cur cur') (hne : cur.after ≠ []) :
    cur'.atBoundary = cur.atBoundary := by
  unfold Cursor.atBoundary
  rw [h.before, h.after, List.head?_append_of_ne_nil _ hne, List.reverse_nil, List.append_nil]

theorem simulates_one (hr : ∀ y ∈ r.head?, p y = false) :
    (Pattern.one p).Simulates (Frame l x r) (Frame l x r) := by
  intro cur cur' h
  unfold Pattern.ends
  rw [h.after]
  cases hafter : cur.after with
  | nil => cases r <;> simp_all
  | cons c rest =>
    simp only [List.cons_append]
    split
    . exact .cons (h.step hafter) .nil
    . exact .nil

theorem pass? (h : Frame l x [] cur cur') (t : List Char) :
    Option.Rel (Frame l x []) (cur.pass? t) (cur'.pass? t) := by
  induction t generalizing cur cur' with
  | nil => exact .some h
  | cons d t ih =>
    unfold Cursor.pass?
    rw [h.after]
    cases hafter : cur.after with
    | nil => exact .none
    | cons c rest =>
      rw [List.cons_append]
      dsimp only
      split
      . exact ih (h.step hafter)
      . exact .none

end Frame

namespace Pattern

/--
Whether a character, as one of a text, has no place in anything that a pattern matches, and makes no
difference to a pattern that stands beside it.
-/
@[simp]
def refuses (d : Char) : Pattern → Bool
  | empty => true
  | one p => !p d
  | seq p q => p.refuses d && q.refuses d
  | alt p q => p.refuses d && q.refuses d
  | many p _ => !p d
  | few p _ => !p d
  | boundary => !isWord d
  | notAhead p => p.refuses d
  | notBehind tests => tests.all fun test => !test d
  | group _ p => p.refuses d
  | again _ => false

/--
Whether a pattern, as far as it looks at what stands in front of it, finds no difference between a
character and the start of the text.
-/
@[simp]
def ignoresBefore (d : Char) : Pattern → Bool
  | seq p q => p.ignoresBefore d && q.ignoresBefore d
  | alt p q => p.ignoresBefore d && q.ignoresBefore d
  | boundary => !isWord d
  | notAhead p => p.ignoresBefore d
  | notBehind tests => tests.all fun test => !test d
  | group _ p => p.ignoresBefore d
  | _ => true

theorem ignoresBefore_of_refuses {d : Char} {p : Pattern} (h : p.refuses d) :
    p.ignoresBefore d := by
  induction p with
  | empty => rfl
  | one p => rfl
  | seq p q ihp ihq =>
    simp only [refuses, Bool.and_eq_true] at h
    simp [ihp h.1, ihq h.2]
  | alt p q ihp ihq =>
    simp only [refuses, Bool.and_eq_true] at h
    simp [ihp h.1, ihq h.2]
  | many p limit => rfl
  | few p limit => rfl
  | boundary => exact h
  | notAhead p ih => exact ih h
  | notBehind tests => exact h
  | group n p ih => exact ih h
  | again n => rfl

/--
A pattern takes no notice of what stands before a character that it ignores there, and behind one
that it refuses.
-/
theorem simulates_of_edges {p : Pattern} (hl : ∀ y ∈ l.getLast?, p.ignoresBefore y)
    (hr : ∀ y ∈ r.head?, p.refuses y) : p.Simulates (Frame l x r) (Frame l x r) := by
  induction p with
  | empty => exact .empty
  | one p =>
    apply Frame.simulates_one
    intro y hy
    simpa [refuses] using hr y hy
  | seq p q ihp ihq =>
    simp only [ignoresBefore, refuses, Bool.and_eq_true] at hl hr
    exact (ihp (fun y hy => (hl y hy).1) fun y hy => (hr y hy).1).seq
      (ihq (fun y hy => (hl y hy).2) fun y hy => (hr y hy).2)
  | alt p q ihp ihq =>
    simp only [ignoresBefore, refuses, Bool.and_eq_true] at hl hr
    exact (ihp (fun y hy => (hl y hy).1) fun y hy => (hr y hy).1).alt
      (ihq (fun y hy => (hl y hy).2) fun y hy => (hr y hy).2)
  | many p limit =>
    intro cur cur' hframe
    apply hframe.sweep
    left
    intro y hy
    simpa [refuses] using hr y hy
  | few p limit =>
    intro cur cur' hframe
    apply List.rel_reverse
    apply hframe.sweep
    left
    intro y hy
    simpa [refuses] using hr y hy
  | boundary =>
    intro cur cur' hframe
    simp only [ignoresBefore, refuses, Bool.not_eq_true'] at hl hr
    unfold ends
    rw [hframe.atBoundary_eq hl hr]
    split
    . exact .cons hframe .nil
    . exact .nil
  | notAhead p ih => exact .notAhead (ih hl hr)
  | notBehind tests =>
    intro cur cur' hframe
    simp only [ignoresBefore, List.all_eq_true, Bool.not_eq_true'] at hl
    unfold ends
    rw [hframe.follows_eq hl]
    split
    . exact .nil
    . exact .cons hframe .nil
  | group n p ih =>
    apply Simulates.group (ih hl hr)
    intro cur cur' stop stop' hframe hstop
    exact hframe.record n hstop
  | again n =>
    -- No character is refused here, so there is none behind the text.
    cases r with
    | cons y r => simp [refuses] at hr
    | nil =>
      intro cur cur' hframe
      unfold ends
      rw [hframe.group?_eq]
      cases cur.group? n with
      | none => exact .nil
      | some t => exact forall₂_toList (hframe.pass? t)

theorem simulates_of_refuses_edges {p : Pattern} (hl : ∀ y ∈ l.getLast?, p.refuses y)
    (hr : ∀ y ∈ r.head?, p.refuses y) : p.Simulates (Frame l x r) (Frame l x r) :=
  simulates_of_edges (fun y hy => ignoresBefore_of_refuses (hl y hy)) hr

theorem simulates_of_refuses {d : Char} {p : Pattern} (h : p.refuses d)
    (hl : ∀ y ∈ l.getLast?, y = d) (hr : ∀ y ∈ r.head?, y = d) :
    p.Simulates (Frame l x r) (Frame l x r) := by
  apply simulates_of_refuses_edges
  . intro y hy
    rw [hl y hy, h]
  . intro y hy
    rw [hr y hy, h]

/--
Whether a pattern looks at nothing but the characters that it takes.
-/
def looksAtOwn : Pattern → Bool
  | empty => true
  | one _ => true
  | seq p q => p.looksAtOwn && q.looksAtOwn
  | alt p q => p.looksAtOwn && q.looksAtOwn
  | many _ _ => true
  | few _ _ => true
  | group _ p => p.looksAtOwn
  | _ => false

theorem lifts_of_looksAtOwn {p : Pattern} (h : p.looksAtOwn) : p.Lifts (Frame l x r) := by
  induction p with
  | empty =>
    intro cur cur' hframe stop hstop
    simp_all [ends]
  | one p =>
    intro cur cur' hframe stop hstop
    simp only [ends] at hstop ⊢
    rw [hframe.after]
    cases hafter : cur.after with
    | nil => simp [hafter] at hstop
    | cons c rest =>
      simp only [hafter, List.cons_append] at hstop ⊢
      split at hstop
      . next hc =>
        rw [List.mem_singleton.1 hstop]
        exact ⟨_, by simp [hc], hframe.step hafter⟩
      . simp at hstop
  | seq p q ihp ihq =>
    simp only [looksAtOwn, Bool.and_eq_true] at h
    exact (ihp h.1).seq (ihq h.2)
  | alt p q ihp ihq =>
    simp only [looksAtOwn, Bool.and_eq_true] at h
    exact (ihp h.1).alt (ihq h.2)
  | many p limit =>
    intro cur cur' hframe stop hstop
    exact hframe.exists_mem_sweep hstop
  | few p limit =>
    intro cur cur' hframe stop hstop
    simp only [ends, List.mem_reverse] at hstop ⊢
    exact hframe.exists_mem_sweep hstop
  | group n p ih =>
    apply Lifts.group (ih h)
    intro cur cur' stop stop' hframe hstop
    exact hframe.record n hstop
  | boundary => simp [looksAtOwn] at h
  | notAhead p => simp [looksAtOwn] at h
  | notBehind tests => simp [looksAtOwn] at h
  | again n => simp [looksAtOwn] at h

/--
What follows a text makes no difference to the border of a word in front of something in the text.
-/
theorem lifts_boundary_seq {p : Pattern} (h : p.looksAtOwn) (hleast : 0 < p.least) :
    (seq boundary p).Lifts (Frame [] x r) := by
  intro cur cur' hframe stop hstop
  simp only [ends, List.mem_flatMap] at hstop ⊢
  obtain ⟨mid, hmid, hstop⟩ := hstop
  obtain ⟨hborder, rfl⟩ : cur.atBoundary ∧ mid = cur := by
    split at hmid <;> simp_all
  obtain ⟨stop', hstop', hlast⟩ := lifts_of_looksAtOwn h mid cur' hframe stop hstop
  have hne : mid.after ≠ [] := by
    have := least_le_of_mem_ends hstop
    have := hframe.offset_add_length
    have := hlast.offset_add_length
    rw [← List.length_pos_iff]
    omega
  refine ⟨stop', ⟨cur', ?_, hstop'⟩, hlast⟩
  rw [hframe.atBoundary_eq_of_ne_nil hne, hborder]
  simp

end Pattern
end CodeGauge
