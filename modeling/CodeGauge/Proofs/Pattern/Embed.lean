import CodeGauge.Proofs.Pattern.Seam

/-!
This module contains patterns that, up to the end of a part of a text, reach the same positions as
in the part alone. Behind the part they may reach more.
-/

namespace CodeGauge

open List (Forall₂)
open Text

variable {l x r : List Char} {cur cur' : Cursor} {p : Char → Bool} {limit : Option Nat}


/--
Whether a position lies among the first `n` characters of a text or right behind them.
-/
def Cursor.within (n : Nat) (cur : Cursor) : Bool :=
  cur.offset ≤ n

namespace Frame

theorem within (h : Frame l x r cur cur') : cur'.within (l.length + x.length) := by
  have := h.offset
  have := h.offset_add_length
  simp only [Cursor.within, decide_eq_true_eq]
  omega

theorem filter_within (h : Frame l x r cur cur') :
    Forall₂ (Frame l x r) [cur] ([cur'].filter (·.within (l.length + x.length))) := by
  rw [List.filter_cons_of_pos h.within]
  exact .cons h .nil

theorem sweep_beyond {c : Char} {rest : List Char} (h : Frame l x r cur cur')
    (hafter : cur.after = []) :
    ((cur'.step c rest).sweep p limit).filter (·.within (l.length + x.length)) = [] := by
  rw [List.filter_eq_nil_iff]
  intro stop hstop
  have hle : cur'.offset + 1 ≤ stop.offset := Cursor.le_offset_of_mem_sweep hstop
  have := h.offset
  have hlen := h.offset_add_length
  rw [hafter, List.length_nil] at hlen
  simp only [Cursor.within, decide_eq_true_eq]
  omega

/--
In the longer text a sweep may go on behind the part `x`, but up to there it is the same.
-/
theorem sweep_within (h : Frame l x r cur cur') :
    Forall₂ (Frame l x r) (cur.sweep p limit)
      ((cur'.sweep p limit).filter (·.within (l.length + x.length))) := by
  induction hafter : cur.after generalizing cur cur' limit with
  | nil =>
    have hafter' : cur'.after = r := by simp [h.after, hafter]
    rw [Cursor.sweep_stop (by simp [hafter])]
    by_cases hgo : ∃ c rest, r = c :: rest ∧ limit ≠ some 0 ∧ p c
    . obtain ⟨c, rest, rfl, hlimit, hp⟩ := hgo
      rw [Cursor.sweep_step hafter' hlimit hp, List.filter_append, h.sweep_beyond hafter,
        List.nil_append]
      exact h.filter_within
    . rw [Cursor.sweep_stop]
      . exact h.filter_within
      . intro c rest hc
        rw [hafter'] at hc
        grind
  | cons y rest ih =>
    have hafter' : cur'.after = y :: (rest ++ r) := by simp [h.after, hafter]
    by_cases hgo : limit ≠ some 0 ∧ p y
    . rw [Cursor.sweep_step hafter hgo.1 hgo.2, Cursor.sweep_step hafter' hgo.1 hgo.2,
        List.filter_append]
      exact List.rel_append (ih (h.step hafter) rfl) h.filter_within
    . rw [Cursor.sweep_stop, Cursor.sweep_stop]
      . exact h.filter_within
      all_goals
        intro z rest' hz
        grind

end Frame

theorem flatMap_filter {α β : Type} {f : α → List β} {keep : α → Bool} {xs : List α}
    (h : ∀ a ∈ xs, keep a = false → f a = []) : (xs.filter keep).flatMap f = xs.flatMap f := by
  induction xs with
  | nil => rfl
  | cons a xs ih =>
    rw [List.forall_mem_cons] at h
    rw [List.flatMap_cons, ← ih h.2]
    cases hkeep : keep a with
    | true => rw [List.filter_cons_of_pos hkeep, List.flatMap_cons]
    | false => rw [List.filter_cons_of_neg (by simp [hkeep]), h.1 hkeep, List.nil_append]

theorem exists_of_mem_right {α β : Type} {R : α → β → Prop} {xs : List α} {ys : List β} {b : β}
    (h : Forall₂ R xs ys) (hb : b ∈ ys) : ∃ a ∈ xs, R a b := by
  induction h with
  | nil => cases hb
  | @cons a b' xs ys hab _ ih =>
    cases List.mem_cons.1 hb with
    | inl heq => exact ⟨a, List.mem_cons_self, heq ▸ hab⟩
    | inr hmem =>
      obtain ⟨a', ha', hR⟩ := ih hmem
      exact ⟨a', List.mem_cons_of_mem a ha', hR⟩

namespace Pattern

variable {p q : Pattern} {d : Char}

/--
Up to the end of the part `x`, a pattern has the same ends in the text `l ++ x ++ r` as in `x`.
-/
def Embeds (l x r : List Char) (p : Pattern) : Prop :=
  ∀ cur cur', Frame l x r cur cur'
    → Forall₂ (Frame l x r) (p.ends cur)
        ((p.ends cur').filter (·.within (l.length + x.length)))

namespace Embeds

theorem of_simulates (hp : p.Simulates (Frame l x r) (Frame l x r)) : Embeds l x r p := by
  intro cur cur' h
  rw [List.filter_eq_self.2]
  . exact hp cur cur' h
  . intro stop hstop
    obtain ⟨stop', _, hframe⟩ := exists_of_mem_right (hp cur cur' h) hstop
    exact hframe.within

theorem seq (hp : Embeds l x r p) (hq : Embeds l x r q) : Embeds l x r (.seq p q) := by
  intro cur cur' h
  have hbeyond : ∀ mid ∈ p.ends cur', mid.within (l.length + x.length) = false
      → (q.ends mid).filter (·.within (l.length + x.length)) = [] := by
    -- What is beyond the end of `x` stays there.
    intro mid _ hmid
    rw [List.filter_eq_nil_iff]
    intro stop hstop
    have := least_le_of_mem_ends hstop
    simp only [Cursor.within, decide_eq_false_iff_not, decide_eq_true_eq] at hmid ⊢
    omega
  simp only [ends]
  rw [List.filter_flatMap, ← flatMap_filter hbeyond]
  exact List.rel_flatMap (hp cur cur' h) fun mid mid' hmid => hq mid mid' hmid

theorem alt (hp : Embeds l x r p) (hq : Embeds l x r q) : Embeds l x r (.alt p q) := by
  intro cur cur' h
  simp only [ends]
  rw [List.filter_append]
  exact List.rel_append (hp cur cur' h) (hq cur cur' h)

theorem one (p : Char → Bool) : Embeds l x r (.one p) := by
  intro cur cur' h
  unfold ends
  rw [h.after]
  cases hafter : cur.after with
  | nil =>
    cases r with
    | nil => exact .nil
    | cons c rest =>
      have hbeyond : ((cur'.step c rest).sweep p (some 0)).filter
          (·.within (l.length + x.length)) = [] :=
        h.sweep_beyond hafter
      rw [Cursor.sweep_stop fun _ _ _ => .inl rfl] at hbeyond
      rw [List.nil_append]
      dsimp only
      split
      . rw [hbeyond]
        exact .nil
      . exact .nil
  | cons c rest =>
    rw [List.cons_append]
    dsimp only
    split
    . exact (h.step hafter).filter_within
    . exact .nil

theorem group {n : Nat} (hp : Embeds l x r p) : Embeds l x r (.group n p) := by
  intro cur cur' h
  simp only [ends]
  rw [List.filter_map]
  apply List.rel_map _ (hp cur cur' h)
  intro stop stop' hstop
  exact h.record n hstop

end Embeds

/--
Whether a pattern, as far as it looks beside the characters that it takes, finds no difference
between a character and the edge of the text.
-/
@[simp]
def overlooks (d : Char) : Pattern → Bool
  | seq p q => p.overlooks d && q.overlooks d
  | alt p q => p.overlooks d && q.overlooks d
  | boundary => !isWord d
  | notAhead p => p.refuses d
  | notBehind tests => tests.all fun test => !test d
  | group _ p => p.overlooks d
  | again _ => false
  | _ => true

theorem embeds_of_overlooks (hl : ∀ y ∈ l.getLast?, p.overlooks y)
    (hr : ∀ y ∈ r.head?, p.overlooks y) : Embeds l x r p := by
  induction p with
  | empty => exact .of_simulates .empty
  | one p => exact .one p
  | seq p q ihp ihq =>
    simp only [overlooks, Bool.and_eq_true] at hl hr
    exact (ihp (fun y hy => (hl y hy).1) fun y hy => (hr y hy).1).seq
      (ihq (fun y hy => (hl y hy).2) fun y hy => (hr y hy).2)
  | alt p q ihp ihq =>
    simp only [overlooks, Bool.and_eq_true] at hl hr
    exact (ihp (fun y hy => (hl y hy).1) fun y hy => (hr y hy).1).alt
      (ihq (fun y hy => (hl y hy).2) fun y hy => (hr y hy).2)
  | many p limit =>
    intro cur cur' h
    exact h.sweep_within
  | few p limit =>
    intro cur cur' h
    simp only [ends]
    rw [List.filter_reverse]
    exact List.rel_reverse h.sweep_within
  | boundary => exact .of_simulates (simulates_of_refuses_edges hl hr)
  | notAhead p => exact .of_simulates (.notAhead (simulates_of_refuses_edges hl hr))
  | notBehind tests => exact .of_simulates (simulates_of_refuses_edges hl hr)
  | group n p ih => exact (ih hl hr).group
  | again n => exact .of_simulates (simulates_of_refuses_edges hl hr)

end Pattern
end CodeGauge
