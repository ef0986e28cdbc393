import CodeGauge.Chat.Failure

/-!
This module contains repeated attempts: which failures lead to another attempt, and how long to
pause before it.
-/

namespace CodeGauge


/--
A rule for repeated attempts. The pause depends on the number of the attempt that failed, from 1 on,
and on its failure.
-/
structure RetryRule where
  retries : Nat
  retryable : Failure → Bool
  pause : Nat → Failure → Binary64

/--
What came of repeated attempts: the failures that led to another attempt, the outcome of the last
attempt, and the state behind it.
-/
structure RetryRun (σ α : Type) where
  failures : List Failure
  outcome : Except Failure α
  state : σ

namespace RetryRun

variable {σ α : Type}

/--
The number of attempts.
-/
def attempts (run : RetryRun σ α) : Nat :=
  run.failures.length + 1

/--
The value of a function at each failure that led to another attempt and at the number of its
attempt.
-/
def mapFailures {β : Type} (f : Nat → Failure → β) (run : RetryRun σ α) : List β :=
  run.failures.mapIdx fun i failure => f (i + 1) failure

end RetryRun

namespace RetryRule

variable {σ α : Type}

/--
Attempts until one succeeds, or fails for good, or is the last one that the rule allows.
-/
def run (rule : RetryRule) (attempt : σ → Except Failure α × σ) (state : σ) : RetryRun σ α :=
  go rule.retries state
where
  go : Nat → σ → RetryRun σ α
    | 0, state =>
      let (outcome, state) := attempt state
      ⟨[], outcome, state⟩
    | retries + 1, state =>
      match attempt state with
      | (.ok value, state) => ⟨[], .ok value, state⟩
      | (.error failure, state) =>
        if rule.retryable failure then
          let rest := go retries state
          { rest with failures := failure :: rest.failures }
        else
          ⟨[], .error failure, state⟩

/--
The pauses of a run, one for each attempt but the last.
-/
def pauses (rule : RetryRule) (run : RetryRun σ α) : List Binary64 :=
  run.mapFailures rule.pause

theorem length_failures_go_le (rule : RetryRule) (attempt : σ → Except Failure α × σ)
    (retries : Nat) (state : σ) :
    (run.go rule attempt retries state).failures.length ≤ retries := by
  induction retries generalizing state with
  | zero => simp [run.go]
  | succ retries ih =>
    simp only [run.go]
    split
    . simp
    . split
      . simpa using ih _
      . simp

/--
There are no more attempts than the rule allows.
-/
theorem attempts_run_le (rule : RetryRule) (attempt : σ → Except Failure α × σ) (state : σ) :
    (rule.run attempt state).attempts ≤ rule.retries + 1 := by
  simpa [RetryRun.attempts, run] using length_failures_go_le rule attempt rule.retries state

end RetryRule

/--
The pause behind an attempt in seconds: one at first, and each time twice as long, up to a limit.
-/
def backoff (most : Nat) (attempt : Nat) : Binary64 :=
  .ofNat (max 1 (min (1 <<< (attempt - 1)) most))

end CodeGauge
