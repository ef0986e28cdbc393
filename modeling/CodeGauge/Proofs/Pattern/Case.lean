import CodeGauge.Proofs.Pattern.Simulation
import CodeGauge.Proofs.Text.Case

/-!
This module contains the comparison of two texts that are the same up to the case of ASCII letters.
A pattern whose classes take no notice of letter case matches at the same places in both.
-/

namespace CodeGauge

open List (Forall₂)
open Text

variable {cur cur' : Cursor} {c c' : Char} {rest rest' : List Char} {p : Char → Bool}
  {limit : Option Nat}


/--
Two groups with the same number and the same length, whose texts are the same up to letter case.
-/
structure SameSpan (g g' : Nat × Span) : Prop where
  number : g.1 = g'.1
  text : Forall₂ SameLetter g.2.text g'.2.text
  length : g.2.length = g'.2.length

/--
The same position in two texts that are the same up to letter case.
-/
structure SameButCase (cur cur' : Cursor) : Prop where
  before : Forall₂ SameLetter cur.before cur'.before
  after : Forall₂ SameLetter cur.after cur'.after
  groups : Forall₂ SameSpan cur.groups cur'.groups

namespace SameButCase

theorem start {t t' : List Char} (h : Forall₂ SameLetter t t') :
    SameButCase (.start t) (.start t') where
  before := .nil
  after := h
  groups := .nil

theorem offset (h : SameButCase cur cur') : cur.offset = cur'.offset := by
  rw [cur.offset_eq, cur'.offset_eq, h.before.length_eq]

theorem step (h : SameButCase cur cur') (hc : SameLetter c c')
    (hrest : Forall₂ SameLetter rest rest') :
    SameButCase (cur.step c rest) (cur'.step c' rest') where
  before := .cons hc h.before
  after := hrest
  groups := h.groups

theorem record {stop stop' : Cursor} (n : Nat) (h : SameButCase cur cur')
    (hstop : SameButCase stop stop') :
    SameButCase (stop.record n cur) (stop'.record n cur') where
  before := hstop.before
  after := hstop.after
  groups := by
    refine .cons ⟨rfl, h.after, ?_⟩ hstop.groups
    simp only [Cursor.upTo, h.offset, hstop.offset]

theorem truncate (h : SameButCase cur cur') (n : Nat) :
    SameButCase (cur.truncate n) (cur'.truncate n) where
  before := h.before
  after := List.forall₂_take n h.after
  groups := .nil

theorem group? (h : SameButCase cur cur') (n : Nat) :
    Option.Rel (Forall₂ SameLetter) (cur.group? n) (cur'.group? n) := by
  have hgroups := h.groups
  unfold Cursor.group?
  generalize cur.groups = gs at hgroups
  generalize cur'.groups = gs' at hgroups
  induction hgroups with
  | nil => exact .none
  | @cons g g' gs gs' hg _ ih =>
    rw [List.lookup_cons, List.lookup_cons, hg.number]
    split
    . apply Option.Rel.some
      unfold Span.chars
      rw [hg.length]
      exact List.forall₂_take _ hg.text
    . exact ih

theorem atBoundary_eq (h : SameButCase cur cur') : cur.atBoundary = cur'.atBoundary := by
  have hany {cs cs' : List Char} (hcs : Forall₂ SameLetter cs cs') :
      cs.head?.any isWord = cs'.head?.any isWord := by
    cases hcs with
    | nil => rfl
    | cons hc _ => exact Caseless.isWord _ _ hc
  unfold Cursor.atBoundary
  rw [hany h.before, hany h.after]

theorem follows_eq {tests : List (Char → Bool)} (h : SameButCase cur cur')
    (htests : ∀ test ∈ tests, Caseless test) : cur.follows tests = cur'.follows tests := by
  have hbefore := h.before
  unfold Cursor.follows
  generalize cur.before = cs at hbefore
  generalize cur'.before = cs' at hbefore
  induction tests generalizing cs cs' with
  | nil => rfl
  | cons test tests ih =>
    cases hbefore with
    | nil => rfl
    | cons hc hcs =>
      unfold Cursor.follows.go
      rw [htests test List.mem_cons_self _ _ hc,
        ih (fun test htest => htests test (List.mem_cons_of_mem _ htest)) _ _ hcs]

theorem sweep (hp : Caseless p) (h : SameButCase cur cur') :
    Forall₂ SameButCase (cur.sweep p limit) (cur'.sweep p limit) := by
  have hgo {cs cs' : List Char} (hcs : Forall₂ SameLetter cs cs') {found found' : List Cursor}
      (hfound : Forall₂ SameButCase found found') :
      Forall₂ SameButCase (Cursor.sweep.go p cs limit cur found)
        (Cursor.sweep.go p cs' limit cur' found') := by
    induction hcs generalizing limit cur cur' found found' with
    | nil => exact .cons h hfound
    | @cons c c' cs cs' hc hcs ih =>
      unfold Cursor.sweep.go
      rw [hp c c' hc]
      split
      . exact ih (h.step hc hcs) (.cons h hfound)
      . exact .cons h hfound
  exact hgo h.after .nil

theorem pass? {t t' : List Char} (h : SameButCase cur cur') (ht : Forall₂ SameLetter t t') :
    Option.Rel SameButCase (cur.pass? t) (cur'.pass? t') := by
  induction ht generalizing cur cur' with
  | nil => exact .some h
  | @cons d d' t t' hd _ ih =>
    have hafter := h.after
    unfold Cursor.pass?
    generalize cur.after = cs at hafter
    generalize cur'.after = cs' at hafter
    cases hafter with
    | nil => exact .none
    | cons hc hcs =>
      dsimp only
      rw [hc.lowerChar_eq, hd.lowerChar_eq]
      split
      . exact ih (h.step hc hcs)
      . exact .none

end SameButCase

/--
The same match in two texts that are the same up to letter case.
-/
structure SameMatch (m m' : Match) : Prop where
  first : SameButCase m.first m'.first
  last : SameButCase m.last m'.last

namespace SameMatch

variable {m m' : Match}

theorem length_eq (h : SameMatch m m') : m.length = m'.length := by
  unfold Match.length
  rw [h.first.offset, h.last.offset]

theorem getD_group? (h : SameMatch m m') (n : Nat) :
    Forall₂ SameLetter ((m.group? n).getD []) ((m'.group? n).getD []) := by
  have hgroup := h.last.group? n
  unfold Match.group?
  generalize m.last.group? n = t at hgroup
  generalize m'.last.group? n = t' at hgroup
  cases hgroup with
  | none => exact .nil
  | some ht => exact ht

end SameMatch

namespace Pattern

/--
A pattern whose classes take no notice of letter case.
-/
def IgnoresCase : Pattern → Prop
  | empty => True
  | one p => Caseless p
  | seq p q => p.IgnoresCase ∧ q.IgnoresCase
  | alt p q => p.IgnoresCase ∧ q.IgnoresCase
  | many p _ => Caseless p
  | few p _ => Caseless p
  | boundary => True
  | notAhead p => p.IgnoresCase
  | notBehind tests => ∀ test ∈ tests, Caseless test
  | group _ p => p.IgnoresCase
  | again _ => True

theorem simulates_of_ignoresCase {p : Pattern} (hp : p.IgnoresCase) :
    p.Simulates SameButCase SameButCase := by
  induction p with
  | empty => exact .empty
  | one p =>
    intro cur cur' h
    have hafter := h.after
    unfold ends
    generalize cur.after = cs at hafter
    generalize cur'.after = cs' at hafter
    cases hafter with
    | nil => exact .nil
    | cons hc hcs =>
      dsimp only
      rw [hp _ _ hc]
      split
      . exact .cons (h.step hc hcs) .nil
      . exact .nil
  | seq p q ihp ihq => exact (ihp hp.1).seq (ihq hp.2)
  | alt p q ihp ihq => exact (ihp hp.1).alt (ihq hp.2)
  | many p limit =>
    intro cur cur' h
    exact h.sweep hp
  | few p limit =>
    intro cur cur' h
    exact List.rel_reverse (h.sweep hp)
  | boundary =>
    intro cur cur' h
    unfold ends
    rw [h.atBoundary_eq]
    split
    . exact .cons h .nil
    . exact .nil
  | notAhead p ih => exact .notAhead (ih hp)
  | notBehind tests =>
    intro cur cur' h
    unfold ends
    rw [h.follows_eq hp]
    split
    . exact .nil
    . exact .cons h .nil
  | group n p ih =>
    apply Simulates.group (ih hp)
    intro cur cur' stop stop' h hstop
    exact h.record n hstop
  | again n =>
    intro cur cur' h
    have hgroup := h.group? n
    unfold ends
    generalize cur.group? n = t at hgroup
    generalize cur'.group? n = t' at hgroup
    cases hgroup with
    | none => exact .nil
    | some ht => exact forall₂_toList (h.pass? ht)

theorem scan_go_sameButCase {p : Pattern} (hp : p.IgnoresCase) (h : SameButCase cur cur')
    (hrest : Forall₂ SameLetter rest rest') (wait : Nat) :
    Forall₂ SameMatch (scan.go p rest cur wait) (scan.go p rest' cur' wait) := by
  have hsim := simulates_of_ignoresCase hp
  induction hrest generalizing cur cur' wait with
  | nil =>
    unfold scan.go
    cases wait with
    | succ wait => exact .nil
    | zero =>
      cases hcase : p.matchAt? cur with
      | none =>
        rw [hsim.matchAt?_eq_none h hcase]
        exact .nil
      | some last =>
        obtain ⟨last', hcase', hlast⟩ := hsim.exists_matchAt?_eq_some h hcase
        rw [hcase']
        exact .cons ⟨h, hlast⟩ .nil
  | @cons c c' rest rest' hc hrest ih =>
    have hstep := h.step hc hrest
    unfold scan.go
    cases wait with
    | succ wait => exact ih hstep wait
    | zero =>
      cases hcase : p.matchAt? cur with
      | none =>
        rw [hsim.matchAt?_eq_none h hcase]
        exact ih hstep 0
      | some last =>
        obtain ⟨last', hcase', hlast⟩ := hsim.exists_matchAt?_eq_some h hcase
        have hm : SameMatch ⟨cur, last⟩ ⟨cur', last'⟩ := ⟨h, hlast⟩
        rw [hcase']
        dsimp only
        rw [hm.length_eq]
        exact .cons hm (ih hstep _)

section

variable {p : Pattern} {t t' : List Char}

theorem scan_sameButCase (hp : p.IgnoresCase) (h : SameButCase cur cur') :
    Forall₂ SameMatch (p.scan cur) (p.scan cur') :=
  scan_go_sameButCase hp h h.after 0

theorem findAll_sameLetter (hp : p.IgnoresCase) (h : Forall₂ SameLetter t t') :
    Forall₂ SameMatch (p.findAll t) (p.findAll t') :=
  scan_sameButCase hp (.start h)

theorem count_sameLetter (hp : p.IgnoresCase) (h : Forall₂ SameLetter t t') :
    p.count t = p.count t' :=
  (findAll_sameLetter hp h).length_eq

theorem occurs_sameLetter (hp : p.IgnoresCase) (h : Forall₂ SameLetter t t') :
    p.occurs t = p.occurs t' := by
  rw [Bool.eq_iff_iff, occurs_iff, occurs_iff, count_sameLetter hp h]

end

namespace IgnoresCase

variable {p : Pattern} {ps : List Pattern} {cs : List Char} {s : String} {d : Char}

@[simp]
theorem chain_iff : (chain ps).IgnoresCase ↔ ∀ p ∈ ps, p.IgnoresCase := by
  induction ps with
  | nil => simp [chain, IgnoresCase]
  | cons p ps ih => cases ps <;> simp_all [chain, IgnoresCase]

@[simp]
theorem oneOf_iff : (oneOf ps).IgnoresCase ↔ ∀ p ∈ ps, p.IgnoresCase := by
  induction ps with
  | nil => simp [oneOf, IgnoresCase]
  | cons p ps ih => cases ps <;> simp_all [oneOf, IgnoresCase]

@[simp]
theorem text (s : String) : (text s).IgnoresCase := by
  apply chain_iff.2
  intro p hp
  obtain ⟨letter, _, rfl⟩ := List.mem_map.1 hp
  exact Caseless.isFormOf letter

@[simp]
theorem exactly (h : ∀ d ∈ s.toList, d.isAlpha = false) : (exactly s).IgnoresCase := by
  apply chain_iff.2
  intro p hp
  obtain ⟨d, hd, rfl⟩ := List.mem_map.1 hp
  exact Caseless.beq (h d hd)

@[simp]
theorem char (h : d.isAlpha = false) : (char d).IgnoresCase :=
  Caseless.beq h

@[simp]
theorem atMostOne (h : d.isAlpha = false) : (atMostOne (· == d)).IgnoresCase :=
  Caseless.beq h

@[simp]
theorem without (h : ∀ d ∈ cs, d.isAlpha = false) (limit : Option Nat) :
    (without cs limit).IgnoresCase :=
  Caseless.not_contains h

@[simp]
theorem blanks : blanks.IgnoresCase :=
  Caseless.isBlank

@[simp]
theorem someBlanks : someBlanks.IgnoresCase :=
  ⟨Caseless.isBlank, Caseless.isBlank⟩

@[simp]
theorem wordChars : wordChars.IgnoresCase :=
  ⟨Caseless.isWord, Caseless.isWord⟩

@[simp]
theorem wholeWord_iff : (wholeWord p).IgnoresCase ↔ p.IgnoresCase := by
  simp [wholeWord, IgnoresCase]

@[simp]
theorem parens : parens.IgnoresCase := by
  simp [Pattern.parens]

end IgnoresCase

end Pattern
end CodeGauge
