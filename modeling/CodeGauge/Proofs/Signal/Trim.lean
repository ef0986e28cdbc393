import CodeGauge.Proofs.Pattern.Trim
import CodeGauge.Proofs.Signal.Seam
import CodeGauge.Proofs.Text.Blank
import CodeGauge.Signal.Halving

/-!
This module contains the signals in a text with blanks at its ends. They are the ones in the text
without these blanks: no signal starts with a blank or ends behind one, and where a pattern looks
beside its match, it finds no difference between a blank and the edge of the text.
-/

namespace CodeGauge.Signal

open List (Forall₂)
open Pattern Text

section

variable {d : Char} {s : String}


@[simp]
theorem overlooks_text (s : String) : (text s).overlooks d :=
  overlooks_letters isFormOf s.toList

@[simp]
theorem refuses_text (hd : isBlank d) (hs : s.toList.all isVisible) : (text s).refuses d := by
  apply refuses_letters
  intro c hc
  exact isFormOf_of_isVisible hd (List.all_eq_true.1 hs c hc)

@[simp]
theorem neverStarts_text (hd : isBlank d) (hs : s.toList.head?.any isVisible) :
    (text s).neverStarts d := by
  obtain ⟨c, hc, hvisible⟩ := (Option.any_eq_true _ _).1 hs
  exact neverStarts_letters hc (isFormOf_of_isVisible hd hvisible)

@[simp]
theorem neverEnds_text (hd : isBlank d) (hs : s.toList.getLast?.any isVisible) :
    (text s).neverEnds d := by
  obtain ⟨c, hc, hvisible⟩ := (Option.any_eq_true _ _).1 hs
  exact neverEnds_letters hc (isFormOf_of_isVisible hd hvisible)

@[simp]
theorem overlooks_exactly (s : String) : (exactly s).overlooks d :=
  overlooks_letters (fun c d => d == c) s.toList

@[simp]
theorem neverStarts_exactly (hd : isBlank d) (hs : s.toList.head?.any isVisible) :
    (exactly s).neverStarts d := by
  obtain ⟨c, hc, hvisible⟩ := (Option.any_eq_true _ _).1 hs
  exact neverStarts_letters hc (beq_of_isVisible hd hvisible)

theorem trims_loop (hd : isBlank d) : loop.trims d := by
  simp [hd, loop, wholeWord, oneOf, chain, blanks, char]

theorem trims_nestedLoop (hd : isBlank d) : nestedLoop.trims d := by
  simp [hd, nestedLoop, loopHead, parens, without, oneOf, chain, blanks, char]

theorem trims_functionHead (hd : isBlank d) : functionHead.trims d := by
  simp [hd, functionHead, controlWord, someBlanks, wordChars, parens, without, oneOf, chain,
    blanks, char]

theorem trims_call (hd : isBlank d) : call.trims d := by
  simp [hd, call, wordChars, chain, blanks, char]

theorem trims_sortCall (hd : isBlank d) : sortCall.trims d := by
  simp [hd, sortCall, oneOf, chain, blanks, char]

theorem trims_logCall (hd : isBlank d) : logCall.trims d := by
  simp [hd, logCall, consoleBehind, atMostOne, oneOf, chain, blanks, char]

theorem trims_array (hd : isBlank d) : array.trims d := by
  simp [hd, array, someBlanks, oneOf, chain, blanks, char]

theorem trims_map (hd : isBlank d) : map.trims d := by
  simp [hd, map, oneOf, chain]

theorem trims_set (hd : isBlank d) : set.trims d := by
  simp [hd, set, oneOf, chain]

theorem trims_allocation (hd : isBlank d) : allocation.trims d := by
  simp [hd, allocation, someBlanks, wordChars, chain, blanks, char]

theorem trims_loopBody (hd : isBlank d) : loopBody.trims d := by
  simp [hd, loopBody, without, oneOf, chain, char]

theorem trims_boundMove (hd : isBlank d) : boundMove.trims d := by
  simp [hd, boundMove, oneOf, chain, blanks, char]

theorem trims_halvingHeader (hd : isBlank d) : halvingHeader.trims d := by
  simp [hd, halvingHeader, floorOfHalf, without, oneOf, chain, blanks, char]

end

variable {l x r : List Char} {p : Pattern}

theorem findAll_between_blanks (hp : ∀ {d}, isBlank d → p.trims d) (hleast : 0 < p.least)
    (hl : ∀ d ∈ l, isBlank d) (hr : ∀ d ∈ r, isBlank d) :
    Forall₂ (MatchFrame l x r) (p.findAll x) (p.findAll (l ++ (x ++ r))) :=
  findAll_trim hleast (fun d hd => hp (hl d hd)) fun d hd => hp (hr d hd)

theorem count_between_blanks (hp : ∀ {d}, isBlank d → p.trims d) (hleast : 0 < p.least)
    (hl : ∀ d ∈ l, isBlank d) (hr : ∀ d ∈ r, isBlank d) :
    p.count (l ++ (x ++ r)) = p.count x :=
  (findAll_between_blanks hp hleast hl hr).length_eq.symm

theorem occurs_between_blanks (hp : ∀ {d}, isBlank d → p.trims d) (hleast : 0 < p.least)
    (hl : ∀ d ∈ l, isBlank d) (hr : ∀ d ∈ r, isBlank d) :
    p.occurs (l ++ (x ++ r)) = p.occurs x := by
  rw [Bool.eq_iff_iff, occurs_iff, occurs_iff, count_between_blanks hp hleast hl hr]

theorem callsItself_frame {head head' : Match} (h : MatchFrame l x r head head')
    (hl : ∀ d ∈ l, isBlank d) (hr : ∀ d ∈ r, isBlank d) (k : Nat) :
    callsItself head (head.last.truncate k) = callsItself head' (head'.last.truncate k) := by
  have hcalls := scan_trim (p := call) (by decide) (fun d hd => trims_call (hl d hd))
    (fun d hd => trims_call (hr d (List.mem_of_mem_take hd))) (h.last.truncate k)
  apply any_eq_of_forall₂ hcalls
  intro c c' hc
  rw [hc.group?_eq, headName_eq h]

theorem selfCalls_eq_of_frame {heads heads' : List Match}
    (h : Forall₂ (MatchFrame l x r) heads heads') (hl : ∀ d ∈ l, isBlank d)
    (hr : ∀ d ∈ r, isBlank d) : selfCalls heads = selfCalls heads' := by
  induction h with
  | nil => rfl
  | @cons head head' heads heads' hhead htail ih =>
    cases htail with
    | nil =>
      -- The last body ends where its text ends, so the one in the longer text has more blanks.
      have hle : head.last.after.length ≤ head'.last.after.length := by
        simp [hhead.last.after]
      unfold selfCalls
      rw [← Cursor.truncate_of_le hle, callsItself_frame hhead hl hr]
    | @cons next next' heads heads' hnext _ =>
      have hk : next'.first.offset - head'.last.offset = next.first.offset - head.last.offset := by
        rw [hnext.first.offset, hhead.last.offset]
        omega
      unfold selfCalls
      rw [hk, callsItself_frame hhead hl hr, ih]

theorem recursionCount_between_blanks (hl : ∀ d ∈ l, isBlank d) (hr : ∀ d ∈ r, isBlank d) :
    recursionCount (l ++ (x ++ r)) = recursionCount x := by
  have hheads : Forall₂ (MatchFrame l x r) (functionHead.findAll x) _ :=
    findAll_between_blanks trims_functionHead (by decide) hl hr
  unfold recursionCount
  rw [selfCalls_eq_of_frame hheads hl hr]

/--
The part of an assignment to a middle that decides whether the assignment is there.
-/
def midSign : Pattern :=
  chain [text "mid", blanks, char '=']

theorem trims_midSign {d : Char} (hd : isBlank d) : midSign.trims d := by
  simp [hd, midSign, chain, blanks, char]

theorem ends_midLine_eq_nil_iff (cur : Cursor) : midLine.ends cur = [] ↔ midSign.ends cur = [] := by
  simp only [midLine, midSign, assignment, chain, ends, List.flatMap_eq_nil_iff]
  constructor
  . -- What follows the sign can always be matched, by no characters if need be.
    intro h mid hmid start hstart
    rw [List.eq_nil_iff_forall_not_mem]
    intro stop hstop
    exact List.ne_nil_of_mem Cursor.self_mem_sweep
      (h mid hmid start hstart stop hstop stop Cursor.self_mem_sweep)
  . intro h mid hmid start hstart stop hstop
    rw [h mid hmid start hstart] at hstop
    cases hstop

theorem occurs_midLine (text : List Char) : midLine.occurs text = midSign.occurs text := by
  rw [Bool.eq_iff_iff]
  simp only [occurs_iff_between, ne_eq, ends_midLine_eq_nil_iff]

theorem halvesRange_between_blanks (hl : ∀ d ∈ l, isBlank d) (hr : ∀ d ∈ r, isBlank d) :
    halvesRange (l ++ (x ++ r)) = halvesRange x := by
  have hbodies : ((loopBody.findAll x).any fun m => bodyHalves ((m.group? 1).getD []))
      = (loopBody.findAll (l ++ (x ++ r))).any fun m => bodyHalves ((m.group? 1).getD []) := by
    apply any_eq_of_forall₂ (findAll_between_blanks trims_loopBody (by decide) hl hr)
    intro m m' hm
    rw [hm.group?_eq]
  unfold halvesRange
  rw [← hbodies, occurs_midLine, occurs_midLine,
    occurs_between_blanks trims_midSign (by decide) hl hr,
    occurs_between_blanks trims_boundMove (by decide) hl hr,
    occurs_between_blanks trims_halvingHeader (by decide) hl hr]

end CodeGauge.Signal
