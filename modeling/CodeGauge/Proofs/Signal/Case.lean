import CodeGauge.Proofs.Pattern.Case
import CodeGauge.Signal.Call
import CodeGauge.Signal.Container
import CodeGauge.Signal.Halving
import CodeGauge.Signal.Loop

/-!
This module contains the signals in two texts that are the same up to the case of ASCII letters.
Both texts show the same ones. Only new objects are left out, as they go by a word in lower case.
-/

namespace CodeGauge.Signal

open List (Forall₂)
open Pattern Text

theorem ignoresCase_loop : loop.IgnoresCase := by
  simp [loop, IgnoresCase]

theorem ignoresCase_nestedLoop : nestedLoop.IgnoresCase := by
  simp [nestedLoop, loopHead]

theorem ignoresCase_functionHead : functionHead.IgnoresCase := by
  simp [functionHead, controlWord, IgnoresCase]

theorem ignoresCase_call : call.IgnoresCase := by
  simp [call, IgnoresCase]

theorem ignoresCase_sortCall : sortCall.IgnoresCase := by
  simp [sortCall, IgnoresCase]

theorem ignoresCase_logCall : logCall.IgnoresCase := by
  simp [logCall, consoleBehind, IgnoresCase, Caseless.isFormOf]

theorem ignoresCase_array : array.IgnoresCase := by
  simp [array, IgnoresCase]

theorem ignoresCase_map : map.IgnoresCase := by
  simp [map, IgnoresCase]

theorem ignoresCase_set : set.IgnoresCase := by
  simp [set, IgnoresCase]

theorem ignoresCase_loopBody : loopBody.IgnoresCase := by
  simp [loopBody, IgnoresCase]

theorem ignoresCase_variableName : variableName.IgnoresCase := by
  have hunderscore : Caseless (· == '_') := .beq (by decide)
  have hdollar : Caseless (· == '$') := .beq (by decide)
  exact ⟨(Caseless.isLetterForm.or hunderscore).or hdollar, Caseless.isWord.or hdollar⟩

theorem ignoresCase_halving : halving.IgnoresCase := by
  simp [halving, slashes, floorOfHalf, IgnoresCase, ignoresCase_variableName]

theorem ignoresCase_midAssignment : midAssignment.IgnoresCase := by
  simp [midAssignment, assignment, IgnoresCase]

theorem ignoresCase_midLine : midLine.IgnoresCase := by
  simp [midLine, assignment]

theorem ignoresCase_boundName : boundName.IgnoresCase := by
  simp [boundName]

theorem ignoresCase_boundMove : boundMove.IgnoresCase := by
  simp [boundMove, IgnoresCase]

theorem ignoresCase_halvingHeader : halvingHeader.IgnoresCase := by
  simp [halvingHeader, floorOfHalf]

theorem headName_sameLetter {head head' : Match} (h : SameMatch head head') :
    Forall₂ SameLetter (headName head) (headName head') := by
  have h₁ := h.last.group? 1
  have h₂ := h.last.group? 2
  unfold headName Match.group?
  generalize head.last.group? 1 = t₁ at h₁
  generalize head'.last.group? 1 = t₁' at h₁
  cases h₁ with
  | some ht => exact ht
  | none =>
    generalize head.last.group? 2 = t₂ at h₂
    generalize head'.last.group? 2 = t₂' at h₂
    cases h₂ with
    | some ht => exact ht
    | none => exact .nil

theorem callsItself_sameLetter {head head' : Match} {body body' : Cursor}
    (h : SameMatch head head') (hbody : SameButCase body body') :
    callsItself head body = callsItself head' body' := by
  apply any_eq_of_forall₂ (scan_sameButCase ignoresCase_call hbody)
  intro c c' hc
  rw [lowerChars_eq .nil (hc.getD_group? 1), lowerChars_eq .nil (headName_sameLetter h)]

theorem selfCalls_sameLetter {heads heads' : List Match} (h : Forall₂ SameMatch heads heads') :
    selfCalls heads = selfCalls heads' := by
  induction h with
  | nil => rfl
  | @cons head head' heads heads' hhead htail ih =>
    cases htail with
    | nil =>
      unfold selfCalls
      rw [hhead.last.after.length_eq, callsItself_sameLetter hhead (hhead.last.truncate _)]
    | @cons next next' heads heads' hnext _ =>
      unfold selfCalls
      rw [hnext.first.offset, hhead.last.offset,
        callsItself_sameLetter hhead (hhead.last.truncate _), ih]

variable {t t' : List Char}

theorem recursionCount_sameLetter (h : Forall₂ SameLetter t t') :
    recursionCount t = recursionCount t' := by
  unfold recursionCount
  rw [selfCalls_sameLetter (findAll_sameLetter ignoresCase_functionHead h)]

theorem bodyHalves_sameLetter (h : Forall₂ SameLetter t t') : bodyHalves t = bodyHalves t' := by
  unfold bodyHalves
  rw [occurs_sameLetter ignoresCase_halving h, occurs_sameLetter ignoresCase_midAssignment h,
    occurs_sameLetter ignoresCase_boundName h]

theorem halvesRange_sameLetter (h : Forall₂ SameLetter t t') : halvesRange t = halvesRange t' := by
  have hbodies : ((loopBody.findAll t).any fun m => bodyHalves ((m.group? 1).getD []))
      = (loopBody.findAll t').any fun m => bodyHalves ((m.group? 1).getD []) := by
    apply any_eq_of_forall₂ (findAll_sameLetter ignoresCase_loopBody h)
    intro m m' hm
    exact bodyHalves_sameLetter (hm.getD_group? 1)
  unfold halvesRange
  rw [hbodies, occurs_sameLetter ignoresCase_midLine h, occurs_sameLetter ignoresCase_boundMove h,
    occurs_sameLetter ignoresCase_halvingHeader h]

end CodeGauge.Signal
