import CodeGauge.Pattern.Build
import CodeGauge.Pattern.Scan
import Mathlib.Data.List.Forall2

/-!
This module contains the ends that a pattern reaches: the steps of a sweep, how far the nearest end
is, and when a pattern occurs in a text.
-/

namespace CodeGauge

namespace Cursor

variable {p : Char → Bool} {limit : Option Nat} {cur : Cursor} {c : Char} {rest : List Char}

/--
The position in a text between two parts of it.
-/
def between (past rest : List Char) : Cursor :=
  ⟨past.reverse, rest, [], past.length, by simp⟩

theorem between_step (past rest : List Char) (c : Char) :
    (between past (c :: rest)).step c rest = between (past ++ [c]) rest := by
  ext <;> simp [between, step]

theorem sweep_go_found (cs : List Char) (found : List Cursor) :
    sweep.go p cs limit cur found = sweep.go p cs limit cur [] ++ found := by
  induction cs generalizing limit cur found with
  | nil => simp [sweep.go]
  | cons c cs ih =>
    unfold sweep.go
    split
    . rw [ih, ih [cur]]
      simp
    . simp

theorem sweep_step (hafter : cur.after = c :: rest) (hlimit : limit ≠ some 0) (hp : p c) :
    cur.sweep p limit = (cur.step c rest).sweep p (limit.map (· - 1)) ++ [cur] := by
  unfold sweep
  rw [hafter, sweep.go, sweep_go_found]
  simp [hlimit, hp]

theorem sweep_stop (h : ∀ c rest, cur.after = c :: rest → limit = some 0 ∨ p c = false) :
    cur.sweep p limit = [cur] := by
  unfold sweep
  cases hafter : cur.after with
  | nil => simp [sweep.go]
  | cons c rest =>
    have := h c rest hafter
    unfold sweep.go
    split
    . simp_all
    . rfl

theorem self_mem_sweep : cur ∈ cur.sweep p limit := by
  cases hafter : cur.after with
  | nil => simp [sweep_stop, hafter]
  | cons c rest =>
    by_cases hstep : limit ≠ some 0 ∧ p c
    . simp [sweep_step hafter hstep.1 hstep.2]
    . rw [sweep_stop]
      . simp
      . intro c' rest' hafter'
        grind

theorem of_mem_sweep {I : Cursor → Prop} {stop : Cursor}
    (hstep : ∀ cur c rest, cur.after = c :: rest → I cur → I (cur.step c rest))
    (h : stop ∈ cur.sweep p limit) (hcur : I cur) : I stop := by
  induction hafter : cur.after generalizing cur limit with
  | nil =>
    rw [sweep_stop (by simp [hafter]), List.mem_singleton] at h
    exact h ▸ hcur
  | cons c rest ih =>
    by_cases hgo : limit ≠ some 0 ∧ p c
    . rw [sweep_step hafter hgo.1 hgo.2] at h
      cases List.mem_append.1 h with
      | inl h => exact ih h (hstep cur c rest hafter hcur) rfl
      | inr h => exact List.mem_singleton.1 h ▸ hcur
    . rw [sweep_stop, List.mem_singleton] at h
      . exact h ▸ hcur
      . intro c' rest' hafter'
        grind

theorem of_pass? {I : Cursor → Prop} {stop : Cursor} {text : List Char}
    (hstep : ∀ cur c rest, cur.after = c :: rest → I cur → I (cur.step c rest))
    (h : cur.pass? text = some stop) (hcur : I cur) : I stop := by
  induction text generalizing cur with
  | nil =>
    cases h
    exact hcur
  | cons c text ih =>
    unfold pass? at h
    split at h
    . next x rest hafter =>
      split at h
      . exact ih h (hstep cur x rest hafter hcur)
      . cases h
    . cases h

theorem le_offset_step {n : Nat} (cur : Cursor) (c : Char) (rest : List Char)
    (_ : cur.after = c :: rest) (h : n ≤ cur.offset) : n ≤ (cur.step c rest).offset :=
  Nat.le_succ_of_le h

theorem le_offset_of_mem_sweep {stop : Cursor} (h : stop ∈ cur.sweep p limit) :
    cur.offset ≤ stop.offset :=
  of_mem_sweep le_offset_step h (Nat.le_refl cur.offset)

theorem le_offset_of_pass? {stop : Cursor} {text : List Char} (h : cur.pass? text = some stop) :
    cur.offset ≤ stop.offset :=
  of_pass? le_offset_step h (Nat.le_refl cur.offset)

/--
`cur` is a position in the text `x`, and its groups start in the same text.
-/
structure Within (x : List Char) (cur : Cursor) : Prop where
  text : cur.before.reverse ++ cur.after = x
  groups : ∀ g ∈ cur.groups, g.2.text <:+ x

namespace Within

variable {x : List Char}

theorem start (x : List Char) : Within x (.start x) where
  text := rfl
  groups := by simp [Cursor.start]

theorem step (cur : Cursor) (c : Char) (rest : List Char) (hafter : cur.after = c :: rest)
    (h : Within x cur) : Within x (cur.step c rest) where
  text := by simp [← h.text, hafter]
  groups := h.groups

theorem record (cur stop : Cursor) (n : Nat) (h : Within x cur) (hstop : Within x stop) :
    Within x (stop.record n cur) where
  text := hstop.text
  groups := by
    intro g hg
    cases List.mem_cons.1 hg with
    | inl heq => exact heq ▸ ⟨cur.before.reverse, h.text⟩
    | inr hmem => exact hstop.groups g hmem

end Within

end Cursor

namespace Pattern

/--
The number of characters that a pattern takes at least.
-/
def least : Pattern → Nat
  | one _ => 1
  | seq p q => p.least + q.least
  | alt p q => min p.least q.least
  | group _ p => p.least
  | _ => 0

theorem least_le_of_mem_ends {p : Pattern} {cur stop : Cursor} (h : stop ∈ p.ends cur) :
    cur.offset + p.least ≤ stop.offset := by
  induction p generalizing cur stop with
  | empty => simp_all [ends, least]
  | one p =>
    simp only [ends] at h
    split at h
    . split at h
      . simp_all [least, Cursor.step]
      . simp at h
    . simp at h
  | seq p q ihp ihq =>
    simp only [ends, List.mem_flatMap] at h
    obtain ⟨mid, hmid, hstop⟩ := h
    have := ihp hmid
    have := ihq hstop
    simp only [least]
    omega
  | alt p q ihp ihq =>
    simp only [ends, List.mem_append] at h
    simp only [least]
    cases h with
    | inl h =>
      have := ihp h
      omega
    | inr h =>
      have := ihq h
      omega
  | many p limit => exact Cursor.le_offset_of_mem_sweep h
  | few p limit =>
    apply Cursor.le_offset_of_mem_sweep
    simpa [ends] using h
  | boundary => simp_all [ends, least]
  | notAhead p ih => simp_all [ends, least]
  | notBehind tests => simp_all [ends, least]
  | group n p ih =>
    simp only [ends, List.mem_map] at h
    obtain ⟨mid, hmid, rfl⟩ := h
    simpa [least, Cursor.record] using ih hmid
  | again n =>
    simp only [ends, Option.mem_toList, Option.bind_eq_some_iff] at h
    obtain ⟨text, _, hpass⟩ := h
    exact Cursor.le_offset_of_pass? hpass

/--
What holds at a position, and goes on to hold with every step and every group, holds wherever a
pattern ends.
-/
theorem of_mem_ends {I : Cursor → Prop} {p : Pattern} {cur stop : Cursor}
    (hstep : ∀ cur c rest, cur.after = c :: rest → I cur → I (cur.step c rest))
    (hrecord : ∀ cur stop n, I cur → I stop → I (stop.record n cur))
    (h : stop ∈ p.ends cur) (hcur : I cur) : I stop := by
  induction p generalizing cur stop with
  | empty => exact List.mem_singleton.1 h ▸ hcur
  | one p =>
    simp only [ends] at h
    split at h
    . next c rest hafter =>
      split at h
      . exact List.mem_singleton.1 h ▸ hstep cur c rest hafter hcur
      . cases h
    . cases h
  | seq p q ihp ihq =>
    simp only [ends, List.mem_flatMap] at h
    obtain ⟨mid, hmid, hstop⟩ := h
    exact ihq hstop (ihp hmid hcur)
  | alt p q ihp ihq =>
    cases List.mem_append.1 h with
    | inl h => exact ihp h hcur
    | inr h => exact ihq h hcur
  | many p limit => exact Cursor.of_mem_sweep hstep h hcur
  | few p limit => exact Cursor.of_mem_sweep hstep (List.mem_reverse.1 h) hcur
  | boundary => simp_all [ends]
  | notAhead p ih => simp_all [ends]
  | notBehind tests => simp_all [ends]
  | group n p ih =>
    simp only [ends, List.mem_map] at h
    obtain ⟨mid, hmid, rfl⟩ := h
    exact hrecord cur mid n hcur (ih hmid hcur)
  | again n =>
    simp only [ends, Option.mem_toList, Option.bind_eq_some_iff] at h
    obtain ⟨text, _, hpass⟩ := h
    exact Cursor.of_pass? hstep hpass hcur

theorem of_find? {I : Cursor → Prop} {p : Pattern} {cur : Cursor} {m : Match}
    (hstep : ∀ cur c rest, cur.after = c :: rest → I cur → I (cur.step c rest))
    (hrecord : ∀ cur stop n, I cur → I stop → I (stop.record n cur))
    (h : p.find? cur = some m) (hcur : I cur) : I m.last := by
  have hmatch {cur last : Cursor} (hlast : p.matchAt? cur = some last) (hcur : I cur) : I last := by
    rw [matchAt?_eq] at hlast
    exact of_mem_ends hstep hrecord (List.mem_of_mem_head? hlast) hcur
  unfold find? at h
  induction hafter : cur.after generalizing cur with
  | nil =>
    rw [hafter, find?.go, Option.map_eq_some_iff] at h
    obtain ⟨last, hlast, rfl⟩ := h
    exact hmatch hlast hcur
  | cons c rest ih =>
    rw [hafter, find?.go] at h
    split at h
    . next hlast =>
      cases h
      exact hmatch hlast hcur
    . exact ih h (hstep cur c rest hafter hcur) rfl

theorem infix_of_group? {p : Pattern} {text span : List Char} {m : Match} {n : Nat}
    (h : p.find? (.start text) = some m) (hspan : m.group? n = some span) : span <:+: text := by
  have hlast := of_find? Cursor.Within.step Cursor.Within.record h (Cursor.Within.start text)
  obtain ⟨group, hlookup, rfl⟩ := Option.map_eq_some_iff.1 hspan
  obtain ⟨l, l', hgroups, _⟩ := List.lookup_eq_some_iff.1 hlookup
  have htext := hlast.groups (n, group) (by simp [hgroups])
  exact (List.take_prefix group.length group.text).isInfix.trans htext.isInfix

theorem isSome_matchAt? (p : Pattern) (cur : Cursor) :
    (p.matchAt? cur).isSome ↔ p.ends cur ≠ [] := by
  rw [matchAt?_eq]
  cases p.ends cur <;> simp

theorem isSome_find?_go (p : Pattern) (past rest : List Char) :
    (find?.go p rest (.between past rest)).isSome
      ↔
    ∃ u v, rest = u ++ v ∧ p.ends (.between (past ++ u) v) ≠ [] := by
  induction rest generalizing past with
  | nil => simp [find?.go, isSome_matchAt?]
  | cons c rest ih =>
    unfold find?.go
    split
    . next last hlast =>
      have : p.ends (.between past (c :: rest)) ≠ [] := by
        rw [← isSome_matchAt?, hlast]
        rfl
      simp only [Option.isSome_some, true_iff]
      exact ⟨[], c :: rest, rfl, by simpa using this⟩
    . next hnone =>
      have hends : p.ends (.between past (c :: rest)) = [] := by
        simpa [hnone] using isSome_matchAt? p (.between past (c :: rest))
      rw [Cursor.between_step, ih]
      constructor
      . rintro ⟨u, v, rfl, h⟩
        exact ⟨c :: u, v, rfl, by simpa using h⟩
      . rintro ⟨u, v, heq, h⟩
        cases u with
        | nil => simp_all
        | cons c' u =>
          obtain ⟨rfl, rfl⟩ := List.cons.inj heq
          exact ⟨u, v, rfl, by simpa using h⟩

theorem occurs_iff_between (p : Pattern) (text : List Char) :
    p.occurs text ↔ ∃ u v, text = u ++ v ∧ p.ends (.between u v) ≠ [] :=
  isSome_find?_go p [] text

end Pattern
end CodeGauge
