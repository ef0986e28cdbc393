import CodeGauge.Proofs.Pattern.Embed

/-!
This module contains the comparison of a text with the same text between characters at which no
match of a pattern starts or ends. A pattern may look at such characters and even pass them, but all
its matches lie in the text between them.
-/

namespace CodeGauge

open List (Forall₂)

variable {l x r : List Char} {cur cur' stop : Cursor} {p q : Pattern} {d : Char}


namespace Pattern

/--
Whether a pattern never starts with a character.
-/
@[simp]
def neverStarts (d : Char) : Pattern → Bool
  | one p => !p d
  | seq p q => p.neverStarts d || (p.refuses d && q.neverStarts d)
  | alt p q => p.neverStarts d && q.neverStarts d
  | group _ p => p.neverStarts d
  | _ => false

/--
Whether a pattern never ends behind a character.
-/
@[simp]
def neverEnds (d : Char) : Pattern → Bool
  | one p => !p d
  | seq p q => q.neverEnds d || (p.neverEnds d && q.refuses d)
  | alt p q => p.neverEnds d && q.neverEnds d
  | group _ p => p.neverEnds d
  | _ => false

theorem eq_or_exists_of_mem_sweep {p : Char → Bool} {limit : Option Nat}
    (h : stop ∈ cur.sweep p limit) : stop = cur ∨ ∃ c, stop.before.head? = some c ∧ p c := by
  induction hafter : cur.after generalizing cur limit with
  | nil =>
    rw [Cursor.sweep_stop (by simp [hafter]), List.mem_singleton] at h
    exact .inl h
  | cons c rest ih =>
    by_cases hgo : limit ≠ some 0 ∧ p c
    . rw [Cursor.sweep_step hafter hgo.1 hgo.2, List.mem_append] at h
      cases h with
      | inl h =>
        cases ih h rfl with
        | inl heq => exact .inr ⟨c, by rw [heq, Cursor.step_before, List.head?_cons], hgo.2⟩
        | inr hex => exact .inr hex
      | inr h => exact .inl (List.mem_singleton.1 h)
    . rw [Cursor.sweep_stop, List.mem_singleton] at h
      . exact .inl h
      . intro c' rest' hafter'
        grind

theorem head_ne_of_mem_sweep {p : Char → Bool} {limit : Option Nat} (hp : p d = false)
    (hcur : cur.before.head? ≠ some d) (h : stop ∈ cur.sweep p limit) :
    stop.before.head? ≠ some d := by
  cases eq_or_exists_of_mem_sweep h with
  | inl heq => exact heq ▸ hcur
  | inr hex =>
    obtain ⟨c, hc, hpc⟩ := hex
    rw [hc]
    rintro ⟨⟩
    rw [hp] at hpc
    cases hpc

theorem head_ne_of_mem_one {p : Char → Bool} (hp : p d = false) (h : stop ∈ (one p).ends cur) :
    stop.before.head? ≠ some d := by
  simp only [ends] at h
  split at h
  . next c rest _ =>
    split at h
    . next hpc =>
      rw [List.mem_singleton.1 h, Cursor.step_before, List.head?_cons]
      rintro ⟨⟩
      rw [hp] at hpc
      cases hpc
    . cases h
  . cases h

theorem head_ne_of_refuses (hp : p.refuses d) (hcur : cur.before.head? ≠ some d)
    (h : stop ∈ p.ends cur) : stop.before.head? ≠ some d := by
  induction p generalizing cur stop with
  | empty => exact List.mem_singleton.1 h ▸ hcur
  | one p => exact head_ne_of_mem_one (by simpa [refuses] using hp) h
  | seq p q ihp ihq =>
    simp only [refuses, Bool.and_eq_true] at hp
    simp only [ends, List.mem_flatMap] at h
    obtain ⟨mid, hmid, hstop⟩ := h
    exact ihq hp.2 (ihp hp.1 hcur hmid) hstop
  | alt p q ihp ihq =>
    simp only [refuses, Bool.and_eq_true] at hp
    cases List.mem_append.1 h with
    | inl h => exact ihp hp.1 hcur h
    | inr h => exact ihq hp.2 hcur h
  | many p limit => exact head_ne_of_mem_sweep (by simpa [refuses] using hp) hcur h
  | few p limit =>
    exact head_ne_of_mem_sweep (by simpa [refuses] using hp) hcur (List.mem_reverse.1 h)
  | boundary => simp_all [ends]
  | notAhead p => simp_all [ends]
  | notBehind tests => simp_all [ends]
  | group n p ih =>
    simp only [ends, List.mem_map] at h
    obtain ⟨mid, hmid, rfl⟩ := h
    have hne : mid.before.head? ≠ some d := ih hp hcur hmid
    exact hne
  | again n => simp [refuses] at hp

theorem head_ne_of_neverEnds (hp : p.neverEnds d) (h : stop ∈ p.ends cur) :
    stop.before.head? ≠ some d := by
  induction p generalizing cur stop with
  | one p => exact head_ne_of_mem_one (by simpa [neverEnds] using hp) h
  | seq p q ihp ihq =>
    simp only [neverEnds, Bool.or_eq_true, Bool.and_eq_true] at hp
    simp only [ends, List.mem_flatMap] at h
    obtain ⟨mid, hmid, hstop⟩ := h
    cases hp with
    | inl hq => exact ihq hq hstop
    | inr hboth => exact head_ne_of_refuses hboth.2 (ihp hboth.1 hmid) hstop
  | alt p q ihp ihq =>
    simp only [neverEnds, Bool.and_eq_true] at hp
    cases List.mem_append.1 h with
    | inl h => exact ihp hp.1 h
    | inr h => exact ihq hp.2 h
  | group n p ih =>
    simp only [ends, List.mem_map] at h
    obtain ⟨mid, hmid, rfl⟩ := h
    have hne : mid.before.head? ≠ some d := ih hp hmid
    exact hne
  | _ => simp [neverEnds] at hp

theorem after_eq_of_refuses (hp : p.refuses d) (hcur : cur.after.head? = some d)
    (h : stop ∈ p.ends cur) : stop.after = cur.after := by
  obtain ⟨rest, hafter⟩ := List.head?_eq_some_iff.1 hcur
  induction p generalizing cur stop with
  | empty => exact List.mem_singleton.1 h ▸ rfl
  | one p => simp_all [ends, refuses]
  | seq p q ihp ihq =>
    simp only [refuses, Bool.and_eq_true] at hp
    simp only [ends, List.mem_flatMap] at h
    obtain ⟨mid, hmid, hstop⟩ := h
    have hmid : mid.after = cur.after := ihp hp.1 hcur hmid hafter
    rw [← hmid] at hcur hafter ⊢
    exact ihq hp.2 hcur hstop hafter
  | alt p q ihp ihq =>
    simp only [refuses, Bool.and_eq_true] at hp
    cases List.mem_append.1 h with
    | inl h => exact ihp hp.1 hcur h hafter
    | inr h => exact ihq hp.2 hcur h hafter
  | many p limit =>
    simp only [ends] at h
    rw [Cursor.sweep_stop, List.mem_singleton] at h
    . rw [h]
    . simp_all [refuses]
  | few p limit =>
    simp only [ends] at h
    rw [Cursor.sweep_stop, List.reverse_singleton, List.mem_singleton] at h
    . rw [h]
    . simp_all [refuses]
  | boundary => simp_all [ends]
  | notAhead p => simp_all [ends]
  | notBehind tests => simp_all [ends]
  | group n p ih =>
    simp only [ends, List.mem_map] at h
    obtain ⟨mid, hmid, rfl⟩ := h
    have hmid : mid.after = cur.after := ih hp hcur hmid hafter
    exact hmid
  | again n => simp [refuses] at hp

theorem ends_of_neverStarts (hp : p.neverStarts d) (hcur : cur.after.head? = some d) :
    p.ends cur = [] := by
  obtain ⟨rest, hafter⟩ := List.head?_eq_some_iff.1 hcur
  induction p generalizing cur with
  | one p =>
    unfold ends
    rw [hafter]
    simpa [neverStarts] using hp
  | seq p q ihp ihq =>
    simp only [neverStarts, Bool.or_eq_true, Bool.and_eq_true] at hp
    simp only [ends, List.flatMap_eq_nil_iff]
    intro mid hmid
    cases hp with
    | inl hp =>
      rw [ihp hp hcur hafter] at hmid
      cases hmid
    | inr hboth =>
      have hmid : mid.after = cur.after := after_eq_of_refuses hboth.1 hcur hmid
      rw [← hmid] at hcur hafter
      exact ihq hboth.2 hcur hafter
  | alt p q ihp ihq =>
    simp only [neverStarts, Bool.and_eq_true] at hp
    simp only [ends]
    rw [ihp hp.1 hcur hafter, ihq hp.2 hcur hafter, List.append_nil]
  | group n p ih =>
    simp only [ends]
    rw [ih hp hcur hafter, List.map_nil]
  | _ => simp [neverStarts] at hp

/--
Whether the matches of a pattern stay the same if a text is freed from a character at either end.
-/
@[simp]
def trims (d : Char) (p : Pattern) : Bool :=
  p.overlooks d && p.neverStarts d && p.neverEnds d

theorem trims_iff : p.trims d ↔ (p.overlooks d ∧ p.neverStarts d) ∧ p.neverEnds d := by
  simp [trims]

section

variable {f : Char → Char → Bool} {cs : List Char}

theorem overlooks_letters (f : Char → Char → Bool) (cs : List Char) :
    (chain (cs.map fun c => one (f c))).overlooks d := by
  induction cs with
  | nil => rfl
  | cons c cs ih =>
    cases cs with
    | nil => rfl
    | cons c' cs => simpa [chain] using ih

theorem refuses_letters (h : ∀ c ∈ cs, f c d = false) :
    (chain (cs.map fun c => one (f c))).refuses d := by
  induction cs with
  | nil => rfl
  | cons c cs ih =>
    rw [List.forall_mem_cons] at h
    cases cs with
    | nil => simpa [chain, refuses] using h.1
    | cons c' cs => simpa [chain, refuses, h.1] using ih h.2

theorem neverStarts_letters {c : Char} (hc : cs.head? = some c) (h : f c d = false) :
    (chain (cs.map fun c => one (f c))).neverStarts d := by
  obtain ⟨rest, rfl⟩ := List.head?_eq_some_iff.1 hc
  cases rest <;> simp [chain, h]

theorem neverEnds_letters {c : Char} (hc : cs.getLast? = some c) (h : f c d = false) :
    (chain (cs.map fun c => one (f c))).neverEnds d := by
  induction cs with
  | nil => cases hc
  | cons c' cs ih =>
    cases cs with
    | nil =>
      cases hc
      simpa [chain] using h
    | cons c'' cs =>
      rw [List.getLast?_cons_cons] at hc
      simpa [chain] using .inl (ih hc)

end

theorem text_of_mem_ends (h : stop ∈ p.ends cur) :
    stop.before.reverse ++ stop.after = cur.before.reverse ++ cur.after := by
  apply of_mem_ends (I := fun mid => mid.before.reverse ++ mid.after = _) _ _ h rfl
  . intro mid c rest hafter hmid
    rw [← hmid, hafter]
    simp
  . intro _ mid _ _ hmid
    exact hmid

theorem within_of_neverEnds (hr : ∀ d ∈ r, p.neverEnds d) (h : Frame l x r cur cur')
    (hstop : stop ∈ p.ends cur') : stop.within (l.length + x.length) := by
  have htext : stop.before.reverse ++ stop.after = (l ++ x) ++ r := by
    rw [text_of_mem_ends hstop, h.before, h.after, ← h.text]
    simp
  simp only [Cursor.within, decide_eq_true_eq, stop.offset_eq]
  rcases List.append_eq_append_iff.1 htext with ⟨w, hbefore, _⟩ | ⟨w, hbefore, hw⟩
  . have := congrArg List.length hbefore
    simp only [List.length_append, List.length_reverse] at this
    omega
  . -- The characters of `r` that are passed are `w`, and the last of them would be before `stop`.
    have hlen := congrArg List.length hbefore
    simp only [List.length_append, List.length_reverse] at hlen
    cases hlast : w.getLast? with
    | none => simp_all
    | some d =>
      have hd : d ∈ r := by
        rw [hw]
        exact List.mem_append_left _ (List.mem_of_getLast? hlast)
      have hhead : stop.before.head? = some d := by
        rw [← List.getLast?_reverse, hbefore, List.getLast?_append, hlast]
        rfl
      exact (head_ne_of_neverEnds (hr d hd) hstop hhead).elim

theorem simulates_of_trims (hl : ∀ d ∈ l, p.trims d) (hr : ∀ d ∈ r, p.trims d) :
    p.Simulates (Frame l x r) (Frame l x r) := by
  simp only [trims_iff] at hl hr
  intro cur cur' h
  have hembeds : Embeds l x r p := embeds_of_overlooks
    (fun d hd => (hl d (List.mem_of_getLast? hd)).1.1) fun d hd => (hr d (List.mem_of_head? hd)).1.1
  have hends := hembeds cur cur' h
  rw [List.filter_eq_self.2] at hends
  . exact hends
  . intro stop hstop
    exact within_of_neverEnds (fun d hd => (hr d hd).2) h hstop

theorem matchAt?_of_neverStarts {c : Char} {rest : List Char} (hp : p.neverStarts c)
    (hafter : cur.after = c :: rest) : p.matchAt? cur = none := by
  rw [matchAt?_eq, ends_of_neverStarts hp (by rw [hafter, List.head?_cons])]
  rfl

theorem matchAt?_of_after_nil (hleast : 0 < p.least) (hafter : cur.after = []) :
    p.matchAt? cur = none := by
  rw [matchAt?_eq, List.head?_eq_none_iff, List.eq_nil_iff_forall_not_mem]
  intro stop hstop
  have hle := least_le_of_mem_ends hstop
  have hlen := congrArg List.length (text_of_mem_ends hstop)
  rw [hafter] at hlen
  simp only [List.length_append, List.length_reverse, List.length_nil, ← Cursor.offset_eq] at hlen
  omega

theorem scan_go_of_neverStarts {rest : List Char} (hleast : 0 < p.least)
    (hrest : ∀ d ∈ rest, p.neverStarts d) (hafter : cur.after = rest) :
    scan.go p rest cur 0 = [] := by
  induction rest generalizing cur with
  | nil => exact scan_go_nil (matchAt?_of_after_nil hleast hafter)
  | cons c rest ih =>
    rw [List.forall_mem_cons] at hrest
    rw [scan_go_none (matchAt?_of_neverStarts hrest.1 hafter)]
    exact ih hrest.2 rfl

theorem scan_go_skip {skip rest : List Char} (past : List Char)
    (hskip : ∀ d ∈ skip, p.neverStarts d) :
    scan.go p (skip ++ rest) (.between past (skip ++ rest)) 0
      =
    scan.go p rest (.between (past ++ skip) rest) 0 := by
  induction skip generalizing past with
  | nil => rw [List.nil_append, List.append_nil]
  | cons c skip ih =>
    rw [List.forall_mem_cons] at hskip
    rw [List.cons_append, scan_go_none (matchAt?_of_neverStarts hskip.1 rfl),
      Cursor.between_step, ih _ hskip.2, List.append_assoc, List.singleton_append]

theorem scan_trim (hleast : 0 < p.least) (hl : ∀ d ∈ l, p.trims d) (hr : ∀ d ∈ r, p.trims d)
    (h : Frame l x r cur cur') : Forall₂ (MatchFrame l x r) (p.scan cur) (p.scan cur') := by
  obtain ⟨ms, stop, seam, hscan, hms, hseam, hstop, _⟩ :=
    scan_go_frame (simulates_of_trims hl hr) hleast h rfl (Nat.zero_le _ : 0 ≤ _)
  have hrest : scan.go p r seam 0 = [] := by
    -- The scan of the longer text goes on behind `x`, where no match starts.
    apply scan_go_of_neverStarts hleast
    . intro d hd
      exact (trims_iff.1 (hr d hd)).1.2
    . rw [hseam.after, hstop, List.nil_append]
  rw [hrest, List.append_nil, ← h.after] at hscan
  rw [scan, scan, hscan]
  exact hms

/--
The matches in a text are those in the same text between characters that a pattern trims.
-/
theorem findAll_trim (hleast : 0 < p.least) (hl : ∀ d ∈ l, p.trims d) (hr : ∀ d ∈ r, p.trims d) :
    Forall₂ (MatchFrame l x r) (p.findAll x) (p.findAll (l ++ (x ++ r))) := by
  have hskip : p.findAll (l ++ (x ++ r)) = p.scan (.between l (x ++ r)) := by
    -- No match starts before `x` either.
    apply scan_go_skip []
    intro d hd
    exact (trims_iff.1 (hl d hd)).1.2
  have hframe := Frame.between l [] x r
  rw [List.append_nil] at hframe
  rw [hskip]
  exact scan_trim hleast hl hr hframe

end Pattern
end CodeGauge
