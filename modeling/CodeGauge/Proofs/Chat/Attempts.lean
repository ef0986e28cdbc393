import CodeGauge.Chat.Retry
import Mathlib.Data.List.Basic

/-!
This module contains what a run of repeated attempts is, attempt by attempt: which of them take
place, and which of their outcomes is that of the run.
-/

namespace CodeGauge.RetryRule

variable {σ α β : Type} {rule : RetryRule} {attempt : σ → Except Failure α × σ} {state : σ}


/--
The state behind a number of attempts.
-/
def behind (attempt : σ → Except Failure α × σ) : Nat → σ → σ
  | 0, state => state
  | n + 1, state => behind attempt n (attempt state).2

/--
The outcome of an attempt, where attempts count from zero.
-/
def outcomeAt (attempt : σ → Except Failure α × σ) (state : σ) (n : Nat) : Except Failure α :=
  (attempt (behind attempt n state)).1

/--
Whether an outcome is followed by no other attempt, however many the rule still allows.
-/
def isFinal (rule : RetryRule) : Except Failure α → Bool
  | .ok _ => true
  | .error failure => !rule.retryable failure

/--
A run that makes `n` attempts and then one more, where at most `retries + 1` are allowed.
-/
structure RunsFor (rule : RetryRule) (attempt : σ → Except Failure α × σ) (state : σ)
    (retries n : Nat) (run : RetryRun σ α) : Prop where
  le : n ≤ retries
  retried : ∀ i < n, rule.isFinal (outcomeAt attempt state i) = false
  final : n < retries → rule.isFinal (outcomeAt attempt state n)
  failures : run.failures.map .error = (List.range n).map (outcomeAt attempt state)
  outcome : run.outcome = outcomeAt attempt state n
  state : run.state = behind attempt (n + 1) state

/--
The number of the last of several attempts, where attempts count from one: the first that is final,
or else the last that is allowed.
-/
structure IsLast (isFinal : Nat → Bool) (most n : Nat) : Prop where
  pos : 1 ≤ n
  le : n ≤ most
  retried : ∀ i, 1 ≤ i → i < n → isFinal i = false
  final : n < most → isFinal n

theorem RunsFor.cons {retries n : Nat} {run : RetryRun σ α} {failure : Failure}
    (hattempt : (attempt state).1 = .error failure) (hretry : rule.retryable failure)
    (h : rule.RunsFor attempt (attempt state).2 retries n run) :
    rule.RunsFor attempt state (retries + 1) (n + 1)
      { run with failures := failure :: run.failures } where
  le := Nat.succ_le_succ h.le
  retried := by
    intro i hi
    cases i with
    | zero => simp [outcomeAt, behind, hattempt, isFinal, hretry]
    | succ i => exact h.retried i (by omega)
  final := by
    intro hn
    exact h.final (by omega)
  failures := by
    rw [List.range_succ_eq_map, List.map_cons, List.map_cons, List.map_map, h.failures]
    congr 1
    exact hattempt.symm
  outcome := h.outcome
  state := h.state

theorem exists_runsFor_go (retries : Nat) (state : σ) :
    ∃ n, rule.RunsFor attempt state retries n (run.go rule attempt retries state) := by
  induction retries generalizing state with
  | zero => exact ⟨0, by constructor <;> simp [run.go, outcomeAt, behind]⟩
  | succ retries ih =>
    unfold run.go
    split
    . next value state' hattempt =>
      refine ⟨0, ?_⟩
      constructor <;> simp [outcomeAt, behind, hattempt, isFinal]
    . next failure state' hattempt =>
      split
      . next hretry =>
        obtain ⟨n, h⟩ := ih state'
        obtain rfl : (attempt state).2 = state' := by rw [hattempt]
        exact ⟨n + 1, h.cons (by rw [hattempt]) hretry⟩
      . next hretry =>
        refine ⟨0, ?_⟩
        constructor <;> simp [outcomeAt, behind, hattempt, isFinal, hretry]

theorem exists_runsFor (rule : RetryRule) (attempt : σ → Except Failure α × σ) (state : σ) :
    ∃ n, rule.RunsFor attempt state rule.retries n (rule.run attempt state) :=
  exists_runsFor_go rule.retries state

namespace RunsFor

variable {retries n : Nat} {run : RetryRun σ α}

theorem attempts_eq (h : rule.RunsFor attempt state retries n run) : run.attempts = n + 1 := by
  have hlen := congrArg List.length h.failures
  simp only [List.length_map, List.length_range] at hlen
  rw [RetryRun.attempts, hlen]

theorem isLast (h : rule.RunsFor attempt state retries n run) :
    IsLast (fun i => rule.isFinal (outcomeAt attempt state (i - 1))) (retries + 1) (n + 1) where
  pos := Nat.succ_le_succ (Nat.zero_le n)
  le := Nat.succ_le_succ h.le
  retried := fun i hpos hlt => h.retried (i - 1) (by omega)
  final := fun hlt => h.final (Nat.lt_of_succ_lt_succ hlt)

/--
A function of the failures is given by the outcomes of the attempts, where the failures lead to
another attempt.
-/
theorem mapFailures_eq (h : rule.RunsFor attempt state retries n run) {f : Nat → Failure → β}
    {g : Nat → β}
    (hfg : ∀ i failure, rule.retryable failure → outcomeAt attempt state i = .error failure →
      f (i + 1) failure = g i) :
    run.mapFailures f = (List.range n).map g := by
  have hlen := h.attempts_eq
  unfold RetryRun.attempts at hlen
  apply List.ext_getElem
  . simp [RetryRun.mapFailures]
    omega
  . intro i hi hi'
    simp only [RetryRun.mapFailures, List.length_mapIdx] at hi
    have hget : (run.failures.map Except.error)[i]? = some (outcomeAt attempt state i) := by
      rw [h.failures]
      simp_all
    have houtcome : outcomeAt attempt state i = .error run.failures[i] := by
      simpa [hi] using hget.symm
    have hretried := h.retried i (by omega)
    rw [houtcome] at hretried
    simp only [RetryRun.mapFailures, List.getElem_mapIdx, List.getElem_map, List.getElem_range]
    exact hfg i _ (by simpa [isFinal] using hretried) houtcome

variable {τ : Type} {attempt' : τ → Except Failure α × τ} {state' : τ} {n' : Nat}
  {run' : RetryRun τ α}

/--
The number of attempts depends on the outcomes up to the last one alone.
-/
theorem eq_of_outcomeAt_eq (h : rule.RunsFor attempt state retries n run)
    (h' : rule.RunsFor attempt' state' retries n' run')
    (hsame : ∀ i ≤ n, outcomeAt attempt' state' i = outcomeAt attempt state i) : n' = n := by
  apply Nat.le_antisymm
  . apply Nat.le_of_not_lt
    intro hlt
    have hretried := h'.retried n hlt
    rw [hsame n (Nat.le_refl n), h.final (Nat.lt_of_lt_of_le hlt h'.le)] at hretried
    cases hretried
  . apply Nat.le_of_not_lt
    intro hlt
    have hretried := h.retried n' hlt
    rw [← hsame n' (Nat.le_of_lt hlt), h'.final (Nat.lt_of_lt_of_le hlt h.le)] at hretried
    cases hretried

/--
Two runs come to the same if their attempts do, up to the last one of either.
-/
theorem agree (h : rule.RunsFor attempt state retries n run)
    (h' : rule.RunsFor attempt' state' retries n' run')
    (hsame : ∀ i ≤ n, outcomeAt attempt' state' i = outcomeAt attempt state i) :
    run'.failures = run.failures ∧ run'.outcome = run.outcome := by
  obtain rfl := h.eq_of_outcomeAt_eq h' hsame
  constructor
  . have hfailures : run'.failures.map Except.error = run.failures.map (Except.error (α := α)) := by
      rw [h.failures, h'.failures]
      apply List.map_congr_left
      intro i hi
      exact hsame i (Nat.le_of_lt (List.mem_range.1 hi))
    exact List.map_injective_iff.2 (fun _ _ => Except.error.inj) hfailures
  . rw [h.outcome, h'.outcome, hsame _ (Nat.le_refl _)]

end RunsFor

end CodeGauge.RetryRule
