import CodeGauge.Proofs.Pattern.Trim

/-!
This module contains the scan of a text without its counter of characters to wait for: from one
position on there is nothing left, or no match, or a match and what is found behind it.
-/

namespace CodeGauge.Pattern

open List (Forall₂)

variable {p : Pattern} {past w rest l x r : List Char} {last : Cursor} {m : Match}
  {ms ms' : List Match}


/--
What a scan finds from a position on, given by the text in front of it and the text behind it.
-/
inductive Finds (p : Pattern) : List Char → List Char → List Match → Prop
  | done {past : List Char} (hnone : p.matchAt? (.between past []) = none) : Finds p past [] []
  | pass {past : List Char} {c : Char} {rest : List Char} {ms : List Match}
      (hnone : p.matchAt? (.between past (c :: rest)) = none)
      (hrest : Finds p (past ++ [c]) rest ms) : Finds p past (c :: rest) ms
  | take {past w rest : List Char} {last : Cursor} {ms : List Match} (hne : w ≠ [])
      (hsome : p.matchAt? (.between past (w ++ rest)) = some last)
      (hlength : (Match.mk (.between past (w ++ rest)) last).length = w.length)
      (hrest : Finds p (past ++ w) rest ms) :
      Finds p past (w ++ rest) (⟨.between past (w ++ rest), last⟩ :: ms)

theorem scan_go_behind (past w rest : List Char) :
    scan.go p (w ++ rest) (.between past (w ++ rest)) w.length
      =
    scan.go p rest (.between (past ++ w) rest) 0 := by
  induction w generalizing past with
  | nil => simp
  | cons c w ih =>
    rw [List.cons_append, List.length_cons, scan_go_wait, Cursor.between_step, ih,
      List.append_assoc, List.singleton_append]

/--
A match takes characters of the text behind its position, and at least one if its pattern does.
-/
theorem exists_of_matchAt? (hleast : 0 < p.least)
    (h : p.matchAt? (.between past rest) = some last) :
    ∃ w rest', w ≠ [] ∧ rest = w ++ rest'
      ∧ (Match.mk (.between past rest) last).length = w.length := by
  rw [matchAt?_eq] at h
  have hend := List.mem_of_mem_head? h
  have hle : past.length + p.least ≤ last.offset := least_le_of_mem_ends hend
  have htext := congrArg List.length (text_of_mem_ends hend)
  simp only [List.length_append, List.length_reverse, ← last.offset_eq, Cursor.between] at htext
  have hlength : (Match.mk (.between past rest) last).length = last.offset - past.length := rfl
  refine ⟨rest.take (last.offset - past.length), rest.drop (last.offset - past.length), ?_, ?_, ?_⟩
  . rw [← List.length_pos_iff, List.length_take]
    omega
  . rw [List.take_append_drop]
  . rw [hlength, List.length_take]
    omega

namespace Finds

theorem scan_go_eq (h : Finds p past rest ms) :
    scan.go p rest (.between past rest) 0 = ms := by
  induction h with
  | done hnone => exact scan_go_nil hnone
  | pass hnone _ ih => rw [scan_go_none hnone, Cursor.between_step, ih]
  | @take past w rest last ms hne hsome hlength _ ih =>
    obtain ⟨c, w, rfl⟩ := List.exists_cons_of_ne_nil hne
    rw [List.cons_append] at hsome hlength ⊢
    rw [scan_go_some hsome, hlength, List.length_cons, Nat.add_sub_cancel, Cursor.between_step,
      scan_go_behind, List.append_assoc, List.singleton_append, ih]

theorem findAll_eq {text : List Char} (h : Finds p [] text ms) : p.findAll text = ms :=
  h.scan_go_eq

theorem of_mem (h : Finds p past rest ms) (hm : m ∈ ms) :
    ∃ u v, rest = u ++ v ∧ m.first = .between (past ++ u) v ∧ p.matchAt? m.first = some m.last := by
  induction h with
  | done => cases hm
  | @pass past c rest ms _ _ ih =>
    obtain ⟨u, v, rfl, hfirst, hlast⟩ := ih hm
    exact ⟨c :: u, v, rfl, by simpa using hfirst, hlast⟩
  | @take past w rest last ms _ hsome _ _ ih =>
    cases List.mem_cons.1 hm with
    | inl heq => exact ⟨[], w ++ rest, rfl, by rw [heq, List.append_nil], heq ▸ hsome⟩
    | inr hmem =>
      obtain ⟨u, v, rfl, hfirst, hlast⟩ := ih hmem
      exact ⟨w ++ u, v, by simp, by simpa using hfirst, hlast⟩

theorem offset_lt_of_mem (hleast : 0 < p.least) (h : Finds p past rest ms) (hm : m ∈ ms) :
    m.first.offset < m.last.offset := by
  obtain ⟨_, _, _, _, hsome⟩ := h.of_mem hm
  rw [matchAt?_eq] at hsome
  have hle := least_le_of_mem_ends (List.mem_of_mem_head? hsome)
  omega

/--
Matches are found from left to right, and none overlaps another one.
-/
theorem pairwise_offset (h : Finds p past rest ms) :
    ms.Pairwise fun m next => m.last.offset ≤ next.first.offset := by
  induction h with
  | done => exact .nil
  | pass _ _ ih => exact ih
  | @take past w rest last ms hne _ hlength hrest ih =>
    refine .cons ?_ ih
    intro next hnext
    obtain ⟨u, v, _, hfirst, _⟩ := hrest.of_mem hnext
    have hpos := List.length_pos_iff.2 hne
    simp only [Match.length, Cursor.between] at hlength
    simp only [hfirst, Cursor.between, List.length_append]
    omega

/--
Where no match starts in the first part of a text, the scan finds what there is behind it.
-/
theorem of_skip (hrest : Finds p (past ++ w) rest ms)
    (hnone : ∀ u v, w = u ++ v → v ≠ [] → p.matchAt? (.between (past ++ u) (v ++ rest)) = none) :
    Finds p past (w ++ rest) ms := by
  induction w generalizing past with
  | nil => simpa using hrest
  | cons c w ih =>
    have hhere := hnone [] (c :: w) rfl (by simp)
    rw [List.append_nil] at hhere
    rw [List.append_cons] at hrest
    apply pass hhere
    apply ih hrest
    rintro u v rfl hv
    have hthere := hnone (c :: u) v rfl hv
    rwa [List.append_cons] at hthere

theorem of_neverStarts (hrest : Finds p (past ++ w) rest ms) (hskip : ∀ d ∈ w, p.neverStarts d) :
    Finds p past (w ++ rest) ms := by
  apply of_skip hrest
  rintro u v rfl hv
  obtain ⟨c, v, rfl⟩ := List.exists_cons_of_ne_nil hv
  exact matchAt?_of_neverStarts (hskip c (by simp)) rfl

theorem nil_of_neverStarts (hleast : 0 < p.least) (hrest : ∀ d ∈ rest, p.neverStarts d) :
    Finds p past rest [] := by
  have hdone : Finds p (past ++ rest) [] [] := .done (matchAt?_of_after_nil hleast rfl)
  simpa using hdone.of_neverStarts hrest

/--
A part of a text in which a pattern does not occur is passed, if what is around the part makes no
difference.
-/
theorem of_not_occurs (hrest : Finds p (l ++ x) r ms)
    (hp : p.Simulates (Frame l x r) (Frame l x r)) (hx : p.occurs x = false) :
    Finds p l (x ++ r) ms := by
  apply of_skip hrest
  rintro u v rfl _
  apply hp.matchAt?_eq_none (.between l u v r)
  rw [← Option.not_isSome_iff_eq_none, isSome_matchAt?]
  intro hends
  rw [(occurs_iff_between p _).2 ⟨u, v, rfl, hends⟩] at hx
  cases hx

/--
What a scan finds in a part of a text it finds in the whole text, and then what is behind the part.
-/
theorem frame (hp : p.Simulates (Frame l x r) (Frame l x r)) (h : Finds p past rest ms)
    (hx : past ++ rest = x) (hrest : Finds p (l ++ x) r ms') :
    ∃ found, Finds p (l ++ past) (rest ++ r) (found ++ ms')
      ∧ Forall₂ (MatchFrame l x r) ms found := by
  induction h with
  | done => exact ⟨[], by simpa [← hx] using hrest, .nil⟩
  | @pass past c rest ms hnone _ ih =>
    have hframe := Frame.between l past (c :: rest) r
    rw [hx] at hframe
    obtain ⟨found, hfound, hframes⟩ := ih (by simpa using hx)
    rw [← List.append_assoc] at hfound
    exact ⟨found, .pass (hp.matchAt?_eq_none hframe hnone) hfound, hframes⟩
  | @take past w rest last ms hne hsome hlength _ ih =>
    have hframe := Frame.between l past (w ++ rest) r
    rw [hx] at hframe
    obtain ⟨last', hsome', hlast⟩ := hp.exists_matchAt?_eq_some hframe hsome
    have hm : MatchFrame l x r ⟨_, last⟩ ⟨_, last'⟩ := ⟨hframe, hlast⟩
    have hlength' := hm.length_eq.trans hlength
    obtain ⟨found, hfound, hframes⟩ := ih (by simpa using hx)
    rw [← List.append_assoc] at hfound
    rw [List.append_assoc] at hsome' hlength' hm ⊢
    exact ⟨_, .take hne hsome' hlength' hfound, .cons hm hframes⟩

end Finds

theorem exists_finds (hleast : 0 < p.least) (past rest : List Char) :
    ∃ ms, Finds p past rest ms := by
  induction hn : rest.length using Nat.strongRecOn generalizing past rest with
  | _ n ih =>
    cases hcase : p.matchAt? (.between past rest) with
    | none =>
      cases rest with
      | nil => exact ⟨[], .done hcase⟩
      | cons c rest =>
        obtain ⟨ms, hms⟩ := ih rest.length (by simp [← hn]) (past ++ [c]) rest rfl
        exact ⟨ms, .pass hcase hms⟩
    | some last =>
      obtain ⟨w, rest, hne, rfl, hlength⟩ := exists_of_matchAt? hleast hcase
      have := List.length_pos_iff.2 hne
      obtain ⟨ms, hms⟩ := ih rest.length (by simp [← hn]; omega) (past ++ w) rest rfl
      exact ⟨_, .take hne hcase hlength hms⟩

theorem finds_findAll (hleast : 0 < p.least) (text : List Char) :
    Finds p [] text (p.findAll text) := by
  obtain ⟨ms, hms⟩ := exists_finds hleast [] text
  rwa [hms.findAll_eq]

end CodeGauge.Pattern
