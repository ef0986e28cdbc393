import CodeGauge.Proofs.Pattern.Reach
import CodeGauge.Proofs.Pattern.Trim

/-!
This module contains what a text must hold for a pattern to occur in it: characters that the pattern
cannot do without, and places where the later parts of the pattern match.
-/

namespace CodeGauge.Pattern

variable {p : Pattern} {cur stop : Cursor} {cs text : List Char} {c : Char}


/--
Whether a pattern cannot match without a character other than the given ones.
-/
def needsOther (cs : List Char) : Pattern → Bool
  | one t => cs.all fun c => !t c
  | seq p q => p.needsOther cs || q.needsOther cs
  | alt p q => p.needsOther cs && q.needsOther cs
  | group _ p => p.needsOther cs
  | _ => false

theorem mem_of_mem_after (hcur : ∀ c ∈ cur.after, c ∈ cs) (h : stop ∈ p.ends cur) :
    ∀ c ∈ stop.after, c ∈ cs := by
  apply of_mem_ends (I := fun cur => ∀ c ∈ cur.after, c ∈ cs) _ _ h hcur
  . intro cur c rest hafter hcur d hd
    exact hcur d (by simp [hafter, show d ∈ rest from hd])
  . intro _ _ _ _ hstop
    exact hstop

theorem ends_of_needsOther (hp : p.needsOther cs) (hcur : ∀ c ∈ cur.after, c ∈ cs) :
    p.ends cur = [] := by
  rw [List.eq_nil_iff_forall_not_mem]
  intro stop hstop
  induction p generalizing cur stop with
  | one t =>
    obtain ⟨c, rest, hafter, hc, _⟩ := mem_ends_one.1 hstop
    have hcs := List.all_eq_true.1 hp c (hcur c (by simp [hafter]))
    simp [hc] at hcs
  | seq p q ihp ihq =>
    obtain ⟨mid, hmid, hstop⟩ := mem_ends_seq.1 hstop
    rw [needsOther, Bool.or_eq_true] at hp
    rcases hp with hp | hq
    . exact ihp hp hcur mid hmid
    . exact ihq hq (mem_of_mem_after hcur hmid) stop hstop
  | alt p q ihp ihq =>
    rw [needsOther, Bool.and_eq_true] at hp
    rcases mem_ends_alt.1 hstop with hstop | hstop
    . exact ihp hp.1 hcur stop hstop
    . exact ihq hp.2 hcur stop hstop
  | group n p ih =>
    obtain ⟨mid, hmid, _⟩ := mem_ends_group.1 hstop
    exact ih hp hcur mid hmid
  | _ => simp [needsOther] at hp

theorem needsOther_chain {p : Pattern} {ps : List Pattern} (hp : p ∈ ps) (h : p.needsOther cs) :
    (chain ps).needsOther cs := by
  induction ps with
  | nil => cases hp
  | cons q ps ih =>
    cases ps with
    | nil =>
      cases List.mem_singleton.1 hp
      exact h
    | cons r ps =>
      have hcases : q.needsOther cs ∨ (chain (r :: ps)).needsOther cs := by
        rcases List.mem_cons.1 hp with rfl | hp
        . exact .inl h
        . exact .inr (ih hp)
      exact Bool.or_eq_true_iff.2 hcases

theorem needsOther_char (h : c ∉ cs) : (char c).needsOther cs := by
  rw [char, needsOther, List.all_eq_true]
  intro d hd
  simp only [Bool.not_eq_true', beq_eq_false_iff_ne]
  rintro rfl
  exact h hd

theorem needsOther_exactly {s : String} (hs : c ∈ s.toList) (h : c ∉ cs) :
    (exactly s).needsOther cs :=
  needsOther_chain (List.mem_map_of_mem hs) (needsOther_char h)

/--
A pattern does not occur in a text without a character that it needs.
-/
theorem not_occurs_of_needsOther (hp : p.needsOther cs) (htext : ∀ c ∈ text, c ∈ cs) :
    ¬ p.occurs text := by
  intro h
  obtain ⟨u, v, rfl, hends⟩ := (occurs_iff_between p text).1 h
  exact hends (ends_of_needsOther hp fun c hc => htext c (List.mem_append_right u hc))

theorem ends_oneOf_ne_nil {ps : List Pattern} :
    (oneOf ps).ends cur ≠ [] ↔ ∃ p ∈ ps, p.ends cur ≠ [] := by
  constructor
  . intro h
    obtain ⟨stop, hstop⟩ := List.exists_mem_of_ne_nil _ h
    obtain ⟨p, hp, hstop⟩ := mem_ends_oneOf.1 hstop
    exact ⟨p, hp, List.ne_nil_of_mem hstop⟩
  . rintro ⟨p, hp, h⟩
    obtain ⟨stop, hstop⟩ := List.exists_mem_of_ne_nil _ h
    exact List.ne_nil_of_mem (mem_ends_oneOf.2 ⟨p, hp, hstop⟩)

theorem occurs_oneOf_iff {ps : List Pattern} :
    (oneOf ps).occurs text ↔ ∃ p ∈ ps, p.occurs text := by
  simp only [occurs_iff_between, ends_oneOf_ne_nil]
  constructor
  . rintro ⟨u, v, htext, p, hp, hends⟩
    exact ⟨p, hp, u, v, htext, hends⟩
  . rintro ⟨p, hp, u, v, htext, hends⟩
    exact ⟨u, v, htext, p, hp, hends⟩

theorem ends_chain_cons_ne_nil {p : Pattern} {ps : List Pattern} {mid : Cursor}
    (hmid : mid ∈ p.ends cur) (h : (chain ps).ends mid ≠ []) : (chain (p :: ps)).ends cur ≠ [] := by
  obtain ⟨stop, hstop⟩ := List.exists_mem_of_ne_nil _ h
  exact List.ne_nil_of_mem (mem_ends_chain_cons.2 ⟨mid, hmid, hstop⟩)

theorem exists_mid_of_chain (front : List Pattern) {back : List Pattern}
    (h : stop ∈ (chain (front ++ back)).ends cur) :
    ∃ mid, mid.before.reverse ++ mid.after = cur.before.reverse ++ cur.after
      ∧ stop ∈ (chain back).ends mid := by
  induction front generalizing cur with
  | nil => exact ⟨cur, rfl, h⟩
  | cons p front ih =>
    obtain ⟨next, hnext, hstop⟩ := mem_ends_chain_cons.1 h
    obtain ⟨mid, hmid, hback⟩ := ih hstop
    exact ⟨mid, hmid.trans (text_of_mem_ends hnext), hback⟩

/--
Where patterns one behind the other occur in a text, there is a place in it where the later ones
match.
-/
theorem exists_of_occurs_chain (front : List Pattern) {back : List Pattern}
    (h : (chain (front ++ back)).occurs text) :
    ∃ mid stop, mid.before.reverse ++ mid.after = text ∧ stop ∈ (chain back).ends mid := by
  obtain ⟨u, v, rfl, hends⟩ := (occurs_iff_between _ text).1 h
  obtain ⟨stop, hstop⟩ := List.exists_mem_of_ne_nil _ hends
  obtain ⟨mid, hmid, hback⟩ := exists_mid_of_chain front hstop
  exact ⟨mid, stop, by simpa [Cursor.between] using hmid, hback⟩

end CodeGauge.Pattern
