import CodeGauge.Proofs.Pattern.Ends

/-!
This module contains the comparison of what a pattern does at two positions, which may lie in
different texts. Related positions may have the same ends up to the relation, or the ends at the one
may be among those at the other.
-/

namespace CodeGauge.Pattern

open List (Forall₂)

variable {R S T : Cursor → Cursor → Prop} {p q : Pattern} {n : Nat}


theorem any_eq_of_forall₂ {α β : Type} {R : α → β → Prop} {f : α → Bool} {g : β → Bool}
    {xs : List α} {ys : List β} (h : Forall₂ R xs ys) (hfg : ∀ x y, R x y → f x = g y) :
    xs.any f = ys.any g := by
  induction h with
  | nil => rfl
  | cons hR _ ih => rw [List.any_cons, List.any_cons, hfg _ _ hR, ih]

theorem forall₂_toList {α β : Type} {R : α → β → Prop} {a : Option α} {b : Option β}
    (h : Option.Rel R a b) : Forall₂ R a.toList b.toList := by
  cases h with
  | none => exact .nil
  | some hR => exact .cons hR .nil

/--
From positions related by `R` a pattern reaches positions related by `S`, in the same order.
-/
def Simulates (R S : Cursor → Cursor → Prop) (p : Pattern) : Prop :=
  ∀ cur cur', R cur cur' → Forall₂ S (p.ends cur) (p.ends cur')

namespace Simulates

theorem empty : Simulates R R empty := by
  intro cur cur' h
  exact .cons h .nil

theorem seq (hp : Simulates R S p) (hq : Simulates S T q) : Simulates R T (.seq p q) := by
  intro cur cur' h
  exact List.rel_flatMap (hp cur cur' h) fun mid mid' hmid => hq mid mid' hmid

theorem alt (hp : Simulates R S p) (hq : Simulates R S q) : Simulates R S (.alt p q) := by
  intro cur cur' h
  exact List.rel_append (hp cur cur' h) (hq cur cur' h)

theorem notAhead (hp : Simulates R S p) : Simulates R R (.notAhead p) := by
  intro cur cur' h
  have hlen := (hp cur cur' h).length_eq
  have hempty : (p.ends cur).isEmpty = (p.ends cur').isEmpty := by
    rw [Bool.eq_iff_iff, List.isEmpty_iff_length_eq_zero, List.isEmpty_iff_length_eq_zero, hlen]
  simp only [ends, hempty]
  split
  . exact .cons h .nil
  . exact .nil

theorem group (hp : Simulates R S p)
    (hrecord : ∀ cur cur' stop stop', R cur cur' → S stop stop'
      → T (stop.record n cur) (stop'.record n cur')) : Simulates R T (.group n p) := by
  intro cur cur' h
  apply List.rel_map _ (hp cur cur' h)
  intro stop stop' hstop
  exact hrecord cur cur' stop stop' h hstop

theorem chain {ps : List Pattern} (h : ∀ p ∈ ps, Simulates R R p) : Simulates R R (chain ps) := by
  induction ps with
  | nil => exact .empty
  | cons p ps ih =>
    have hp := h p (by simp)
    have hps := ih (by simp_all)
    cases ps with
    | nil => exact hp
    | cons q ps => exact hp.seq hps

theorem matchAt?_eq_none (hp : Simulates R S p) {cur cur' : Cursor} (h : R cur cur')
    (hnone : p.matchAt? cur = none) : p.matchAt? cur' = none := by
  have hends := hp cur cur' h
  rw [Pattern.matchAt?_eq, List.head?_eq_none_iff] at hnone ⊢
  rw [hnone] at hends
  exact List.forall₂_nil_left_iff.1 hends

theorem exists_matchAt?_eq_some (hp : Simulates R S p) {cur cur' last : Cursor} (h : R cur cur')
    (hsome : p.matchAt? cur = some last) :
    ∃ last', p.matchAt? cur' = some last' ∧ S last last' := by
  have hends := hp cur cur' h
  rw [Pattern.matchAt?_eq] at hsome ⊢
  obtain ⟨lasts, hlasts⟩ := List.head?_eq_some_iff.1 hsome
  rw [hlasts] at hends
  obtain ⟨last', lasts', hlast, _, hlasts'⟩ := List.forall₂_cons_left_iff.1 hends
  exact ⟨last', by rw [hlasts', List.head?_cons], hlast⟩

end Simulates

/--
From positions related by `R`, whatever a pattern reaches from the first it also reaches from the
second, up to `R`.
-/
def Lifts (R : Cursor → Cursor → Prop) (p : Pattern) : Prop :=
  ∀ cur cur', R cur cur' → ∀ stop ∈ p.ends cur, ∃ stop' ∈ p.ends cur', R stop stop'

namespace Lifts

theorem seq (hp : Lifts R p) (hq : Lifts R q) : Lifts R (.seq p q) := by
  intro cur cur' h stop hstop
  simp only [ends, List.mem_flatMap] at hstop ⊢
  obtain ⟨mid, hmid, hstop⟩ := hstop
  obtain ⟨mid', hmid', hR⟩ := hp cur cur' h mid hmid
  obtain ⟨stop', hstop', hR⟩ := hq mid mid' hR stop hstop
  exact ⟨stop', ⟨mid', hmid', hstop'⟩, hR⟩

theorem alt (hp : Lifts R p) (hq : Lifts R q) : Lifts R (.alt p q) := by
  intro cur cur' h stop hstop
  simp only [ends, List.mem_append] at hstop ⊢
  cases hstop with
  | inl hstop =>
    obtain ⟨stop', hstop', hR⟩ := hp cur cur' h stop hstop
    exact ⟨stop', .inl hstop', hR⟩
  | inr hstop =>
    obtain ⟨stop', hstop', hR⟩ := hq cur cur' h stop hstop
    exact ⟨stop', .inr hstop', hR⟩

theorem group (hp : Lifts R p)
    (hrecord : ∀ cur cur' stop stop', R cur cur' → R stop stop'
      → R (stop.record n cur) (stop'.record n cur')) : Lifts R (.group n p) := by
  intro cur cur' h stop hstop
  simp only [ends, List.mem_map] at hstop ⊢
  obtain ⟨mid, hmid, rfl⟩ := hstop
  obtain ⟨mid', hmid', hR⟩ := hp cur cur' h mid hmid
  exact ⟨mid'.record n cur', ⟨mid', hmid', rfl⟩, hrecord cur cur' mid mid' h hR⟩

theorem ends_ne_nil (hp : Lifts R p) {cur cur' : Cursor} (h : R cur cur') (hne : p.ends cur ≠ []) :
    p.ends cur' ≠ [] := by
  obtain ⟨stop, hstop⟩ := List.exists_mem_of_ne_nil _ hne
  obtain ⟨stop', hstop', _⟩ := hp cur cur' h stop hstop
  exact List.ne_nil_of_mem hstop'

end Lifts

theorem Simulates.lifts (hp : Simulates R R p) : Lifts R p := by
  intro cur cur' h stop hstop
  have hends := hp cur cur' h
  generalize p.ends cur = stops at hstop hends
  generalize p.ends cur' = stops' at hends
  induction hends with
  | nil => cases hstop
  | @cons here here' stops stops' hhere _ ih =>
    cases List.mem_cons.1 hstop with
    | inl heq => exact ⟨here', List.mem_cons_self, heq ▸ hhere⟩
    | inr hmem =>
      obtain ⟨stop', hstop', hR⟩ := ih hmem
      exact ⟨stop', List.mem_cons_of_mem here' hstop', hR⟩

end CodeGauge.Pattern
