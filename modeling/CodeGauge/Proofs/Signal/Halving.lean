import CodeGauge.Proofs.Signal.LoopBody

/-!
This module contains texts in which a loop that halves its range is recognised: those around such a
loop, and those that go on behind a text that has one.
-/

namespace CodeGauge.Signal

open Pattern Text

variable {a past word head body rest : List Char}


theorem halvesRange_iff :
    halvesRange a
      ↔
    (∃ m ∈ loopBody.findAll a, bodyHalves ((m.group? 1).getD []))
      ∨ (midLine.occurs a ∧ boundMove.occurs a) ∨ halvingHeader.occurs a := by
  unfold halvesRange
  rw [Bool.or_eq_true, Bool.or_eq_true, Bool.and_eq_true, List.any_eq_true, or_assoc]

/--
What halves in the body of a loop does so too in the body of a loop around it.
-/
theorem bodyHalves_behind (h : bodyHalves body) (l : List Char) :
    bodyHalves (l ++ '{' :: body) := by
  unfold bodyHalves at h ⊢
  rw [Bool.or_eq_true, Bool.and_eq_true] at h ⊢
  rcases h with hhalving | ⟨hmid, hbound⟩
  . exact .inl (occurs_behind (by decide) l hhalving)
  . exact .inr ⟨occurs_behind (by decide) l hmid, occurs_behind (by decide) l hbound⟩

/--
A loop in braces whose body halves something is recognised wherever it stands: the scan finds it, or
an earlier loop in whose body it is.
-/
theorem halvesRange_of_loop (hpast : ∀ c ∈ past.getLast?, isWord c = false)
    (hword : ∃ base ∈ bracedWords, word.map fold = base.toList) (hhead : head.length ≤ 200)
    (hopen : '{' ∉ head) (hclose : '}' ∉ head) (hbody : body.length ≤ 1000) (hend : '}' ∉ body)
    (hhalves : halving.occurs body ∨ midAssignment.occurs body ∧ boundName.occurs body) :
    halvesRange (past ++ word ++ head ++ '{' :: body ++ '}' :: rest) := by
  have hbraces : ∀ c ∈ ['{', '}'], c ∉ head → c ∉ word ++ head := by
    intro c hc hnot
    simp [not_mem_of_bracedWord hc hword, hnot]
  have hloop : StartsLoop (word ++ head ++ '{' :: (body ++ '}' :: rest)) (word ++ head) body rest :=
    ⟨rfl, ⟨word, head, rfl, hword, hhead⟩, hbraces '{' (by decide) hopen, hend, hbody⟩
  have htext : past ++ word ++ head ++ '{' :: body ++ '}' :: rest
      = past ++ (word ++ head ++ '{' :: (body ++ '}' :: rest)) := by
    simp
  have hborder : isBorder ([] ++ past) (word ++ head ++ '{' :: (body ++ '}' :: rest)) := by
    rw [List.append_assoc]
    exact isBorder_bracedWord hpast hword _
  have hbodyHalves : bodyHalves body := by
    unfold bodyHalves
    rwa [Bool.or_eq_true, Bool.and_eq_true]
  obtain ⟨m, hm, found, hgroup, hfound⟩ := exists_body_of_loop (finds_findAll (by decide) _) hloop
    (hbraces '}' (by decide) hclose) htext hborder
  refine halvesRange_iff.2 (.inl ⟨m, hm, ?_⟩)
  rw [hgroup, Option.getD_some]
  rcases hfound with rfl | ⟨y, rfl⟩
  . exact hbodyHalves
  . exact bodyHalves_behind hbodyHalves y

/--
A loop with nothing else around it that halves is recognised by its body, unless this is too long.
-/
theorem halvesRange_while_iff (hbraces : ∀ c ∈ ['{', '}'], c ∉ body)
    (hmove : ¬ boundMove.occurs ("while (c) ".toList ++ '{' :: (body ++ ['}'])))
    (hheader : ¬ halvingHeader.occurs ("while (c) ".toList ++ '{' :: (body ++ ['}']))) :
    halvesRange ("while (c) ".toList ++ '{' :: (body ++ ['}']))
      ↔
    bodyHalves body ∧ body.length ≤ 1000 := by
  constructor
  . intro h
    rcases halvesRange_iff.1 h with ⟨m, hm, hhalves⟩ | ⟨_, hbound⟩ | hhead
    . obtain ⟨hgroup, hlength⟩ := group?_of_mem_findAll hm (by decide) hbraces (by decide)
      rw [hgroup, Option.getD_some] at hhalves
      exact ⟨hhalves, hlength⟩
    . exact (hmove hbound).elim
    . exact (hheader hhead).elim
  . rintro ⟨hhalves, hlength⟩
    rw [bodyHalves, Bool.or_eq_true, Bool.and_eq_true] at hhalves
    have hloop : halvesRange ([] ++ "while".toList ++ " (c) ".toList ++ '{' :: body ++ '}' :: []) :=
      halvesRange_of_loop (by simp) (by decide +kernel) (by decide) (by decide) (by decide) hlength
        (hbraces '}' (by decide)) hhalves
    exact hloop

theorem halvesRange_of_inner_loop :
    halving.occurs " n >>= 1; ".toList
      ∧ halvesRange ("while (x) \x7b ".toList ++ "FOR".toList ++ " (;;) ".toList
          ++ '{' :: " n >>= 1; ".toList ++ '}' :: " \x7d".toList) := by
  have hhalving : halving.occurs " n >>= 1; ".toList := by
    decide +kernel
  exact ⟨hhalving, halvesRange_of_loop (by decide) (by decide +kernel) (by decide) (by decide)
    (by decide) (by decide) (by decide) (.inl hhalving)⟩

theorem lifts_boundMove {x r : List Char} : boundMove.Lifts (Frame [] x r) :=
  (lifts_boundary_seq (by decide) (by decide)).alt (lifts_boundary_seq (by decide) (by decide))

/--
Text behind a loop that halves its range does not hide it.
-/
theorem halvesRange_append (h : halvesRange a) (more : List Char) : halvesRange (a ++ more) := by
  rw [halvesRange_iff] at h ⊢
  rcases h with ⟨m, hm, hbody⟩ | ⟨hmid, hbound⟩ | hheader
  . obtain ⟨ms, hms, hbodies⟩ := exists_finds_append (finds_findAll (by decide) a) more
    obtain ⟨m', hm', hgroup⟩ := List.mem_map.1 (hbodies.subset (List.mem_map_of_mem hm))
    left
    rw [hms.findAll_eq]
    exact ⟨m', hm', by rwa [hgroup]⟩
  . right
    left
    exact ⟨occurs_of_looksAtOwn (l := []) (by decide) hmid,
      occurs_of_lifts lifts_boundMove hbound⟩
  . right
    right
    exact occurs_of_looksAtOwn (l := []) (by decide) hheader

theorem halvesRange_append_loop :
    halvesRange "for (;;) \x7b n /= 2; \x7d while (x) \x7b".toList
      ∧ halvesRange ("for (;;) \x7b n /= 2; \x7d while (x) \x7b".toList
          ++ " n = 1; \x7d".toList) := by
  have hhalves : halvesRange "for (;;) \x7b n /= 2; \x7d while (x) \x7b".toList := by
    decide +kernel
  exact ⟨hhalves, halvesRange_append hhalves _⟩

end CodeGauge.Signal
