import CodeGauge.Chat.Gemini
import CodeGauge.Proofs.Chat.Attempts
import Mathlib.Algebra.Order.Group.Nat

/-!
This module contains what a client of the Gemini service does for one query, said by the outcomes
that its requests meet: how many requests it sends, how long it pauses between them, what it writes
to the log, and which outcome its result comes from. A client without any time for a request sends
none.
-/

namespace CodeGauge.Gemini


/--
The outcome that a request meets, where requests count from one.
-/
def nth (wire : List Outcome) (i : Nat) : Outcome :=
  wire[i - 1]?.getD (.error .noReply)

/--
Whether an outcome is a failure of the clock.
-/
def Outcome.isTimeout : Outcome → Bool
  | .error (.timedOut _) => true
  | _ => false

/--
Whether no request follows an outcome: a reply, or a failure other than that of the clock or of the
connection.
-/
def Outcome.isFinal : Outcome → Bool
  | .error (.timedOut _) => false
  | .error (.disconnected ..) => false
  | _ => true

/--
The number of requests for a query: the first of three that meets a final outcome is the last one.
-/
def LastRequest (wire : List Outcome) (n : Nat) : Prop :=
  RetryRule.IsLast (fun i => (nth wire i).isFinal) 3 n

namespace Client

variable (client : Client)

/--
The line of the log about a request that has taken too long.
-/
def overtimeLine : LogLine :=
  .error s!"Gemini API timeout after {client.timeoutSeconds}s"

/--
The result of a query whose last request meets an outcome. What a failure of the clock says does not
matter, and all other failures stay as they are.
-/
def answer : Outcome → Except Failure Json.Fields
  | .ok text => Reply.extract (text.getD "")
  | .error (.timedOut _) =>
    .error (.timedOut s!"Analysis timed out after {client.timeoutSeconds}s")
  | .error failure => .error failure

end Client

/--
What a client does for a query with `n` requests.
-/
structure CompletesWith (client : Client) (query : Query) (wire : List Outcome) (n : Nat) :
    Prop where
  requests : (client.complete query wire).1.requests = List.replicate n (client.request query)
  rest : (client.complete query wire).2 = wire.drop n
  pauses : (client.complete query wire).1.pauses = [1, 2].take (n - 1)
  logs : (client.complete query wire).1.logs
    = List.replicate ((List.range n).countP fun i => (nth wire (i + 1)).isTimeout)
        client.overtimeLine
  result : (client.complete query wire).1.result = client.answer (nth wire n)

variable {client : Client} {query : Query} {wire : List Outcome} {n : Nat}

theorem isFinal_receive (client : Client) (outcome : Outcome) :
    retryRule.isFinal (client.receive outcome) = outcome.isFinal := by
  cases outcome with
  | ok text => rfl
  | error failure => cases failure <;> rfl

theorem bind_receive (client : Client) (outcome : Outcome) :
    (client.receive outcome).bind Reply.extract = client.answer outcome := by
  cases outcome with
  | ok text => rfl
  | error failure => cases failure <;> rfl

/--
The lines of the log about the outcome of an attempt.
-/
def linesOf (client : Client) : Except Failure String → List LogLine
  | .ok _ => []
  | .error failure => client.overtimeLogs failure

theorem linesOf_receive (client : Client) (outcome : Outcome) :
    linesOf client (client.receive outcome)
      =
    if outcome.isTimeout then [client.overtimeLine] else [] := by
  cases outcome with
  | ok text => rfl
  | error failure => cases failure <;> rfl

theorem flatMap_failuresOf {σ : Type} (client : Client) (run : RetryRun σ String) :
    (failuresOf run).flatMap client.overtimeLogs
      =
    (run.failures.map Except.error ++ [run.outcome]).flatMap (linesOf client) := by
  have hfailures : run.failures.flatMap client.overtimeLogs
      = (run.failures.map Except.error).flatMap (linesOf client) := by
    rw [List.flatMap_map]
    rfl
  unfold failuresOf
  rw [List.flatMap_append, List.flatMap_singleton, ← hfailures]
  cases run.outcome with
  | ok text => exact (List.append_nil _).symm
  | error failure => rw [List.flatMap_append, List.flatMap_singleton, linesOf]

theorem flatMap_ite_singleton {α β : Type} (p : α → Bool) (b : β) (xs : List α) :
    (xs.flatMap fun x => if p x then [b] else []) = List.replicate (xs.countP p) b := by
  induction xs with
  | nil => rfl
  | cons x xs ih =>
    rw [List.flatMap_cons, ih, List.countP_cons]
    cases p x with
    | true => exact List.replicate_succ.symm
    | false => rfl

theorem pauses_of_runsFor {σ : Type} {attempt : σ → Except Failure String × σ} {state : σ}
    {run : RetryRun σ String} (h : retryRule.RunsFor attempt state retryRule.retries n run) :
    retryRule.pauses run = [1, 2].take n := by
  have hpauses : retryRule.pauses run = (List.range n).map fun i => backoff 4 (i + 1) :=
    h.mapFailures_eq fun _ _ _ _ => rfl
  have hboth : ([1, 2] : List Binary64) = (List.range 2).map fun i => backoff 4 (i + 1) := by
    rfl
  have hle : n ≤ 2 := h.le
  rw [hpauses, hboth, ← List.map_take, List.take_range, Nat.min_eq_left hle]

section

variable (htime : 0 < client.timeoutSeconds)
include htime

theorem attempt_eq (state : State) :
    client.attempt state
      =
    (client.receive (state.wire.head?.getD (.error .noReply)),
      ⟨state.wire.tail, state.sent + 1⟩) := by
  unfold Client.attempt
  rw [if_neg (Int.not_le.2 htime)]

theorem behind_attempt (n : Nat) (state : State) :
    RetryRule.behind client.attempt n state = ⟨state.wire.drop n, state.sent + n⟩ := by
  induction n generalizing state with
  | zero => rfl
  | succ n ih =>
    unfold RetryRule.behind
    rw [ih, attempt_eq htime, List.drop_tail, Nat.add_assoc, Nat.add_comm 1]

theorem outcomeAt_attempt (i : Nat) :
    RetryRule.outcomeAt client.attempt ⟨wire, 0⟩ i = client.receive (nth wire (i + 1)) := by
  unfold RetryRule.outcomeAt nth
  rw [attempt_eq htime, behind_attempt htime, List.head?_drop, Nat.add_sub_cancel]

theorem lastRequest_of_runsFor {run : RetryRun State String}
    (h : retryRule.RunsFor client.attempt ⟨wire, 0⟩ retryRule.retries n run) :
    LastRequest wire (n + 1) := by
  have hfinal : ∀ i, retryRule.isFinal (RetryRule.outcomeAt client.attempt ⟨wire, 0⟩ (i - 1))
      = (nth wire i).isFinal := by
    intro i
    rw [outcomeAt_attempt htime, isFinal_receive]
    rfl
  have hlast := h.isLast
  simp only [hfinal] at hlast
  exact hlast

theorem logs_of_runsFor {run : RetryRun State String}
    (h : retryRule.RunsFor client.attempt ⟨wire, 0⟩ retryRule.retries n run) :
    (failuresOf run).flatMap client.overtimeLogs
      =
    List.replicate ((List.range (n + 1)).countP fun i => (nth wire (i + 1)).isTimeout)
      client.overtimeLine := by
  have houtcomes : run.failures.map Except.error ++ [run.outcome]
      = (List.range (n + 1)).map (RetryRule.outcomeAt client.attempt ⟨wire, 0⟩) := by
    rw [List.range_succ, List.map_append, h.failures, h.outcome, List.map_singleton]
  rw [flatMap_failuresOf, houtcomes, List.flatMap_map, ← flatMap_ite_singleton]
  congr 1
  funext i
  rw [outcomeAt_attempt htime, linesOf_receive]

theorem completesWith_of_runsFor (havailable : client.available)
    (h : retryRule.RunsFor client.attempt ⟨wire, 0⟩ retryRule.retries n
      (retryRule.run client.attempt ⟨wire, 0⟩)) :
    CompletesWith client query wire (n + 1) := by
  constructor
  all_goals
    unfold Client.complete
    rw [if_pos havailable]
    dsimp only
  . rw [h.state, behind_attempt htime, Nat.zero_add]
  . rw [h.state, behind_attempt htime]
  . exact pauses_of_runsFor h
  . exact logs_of_runsFor htime h
  . rw [h.outcome, outcomeAt_attempt htime, bind_receive]

end

theorem attempt_without_time (htime : client.timeoutSeconds ≤ 0) (state : State) :
    client.attempt state = (.error client.overtime, state) := by
  unfold Client.attempt
  rw [if_pos htime]

theorem complete_without_time (havailable : client.available) (htime : client.timeoutSeconds ≤ 0) :
    client.complete query wire
      =
    ({ result := .error client.overtime
       requests := []
       pauses := [1, 2]
       logs := [client.overtimeLine, client.overtimeLine, client.overtimeLine] }, wire) := by
  have hrun : retryRule.run client.attempt ⟨wire, 0⟩
      = ⟨[client.overtime, client.overtime], .error client.overtime, ⟨wire, 0⟩⟩ := by
    simp [RetryRule.run, RetryRule.run.go, retryRule, attempt_without_time htime, retryable,
      Client.overtime]
  unfold Client.complete
  rw [if_pos havailable, hrun]
  rfl

/--
For one query a client with a key sends requests up to the first of three that meets a reply or a
failure other than that of the clock or of the connection. All are the same, and each takes one
outcome. It pauses for one second behind the first request and for two behind the second, and writes
one error into the log for each request that has taken too long. The result is that of the last
outcome. A client without any time for a request sends none, and counts all three as too long.
-/
theorem completesWith_of_available (client : Client) (query : Query) (wire : List Outcome)
    (havailable : client.available) :
    (0 < client.timeoutSeconds → ∃ n, LastRequest wire n ∧ CompletesWith client query wire n)
    ∧ (client.timeoutSeconds ≤ 0
      → client.complete query wire
        = (⟨.error (.timedOut s!"Analysis timed out after {client.timeoutSeconds}s"), [], [1, 2],
            [client.overtimeLine, client.overtimeLine, client.overtimeLine]⟩, wire)) := by
  constructor
  . intro htime
    obtain ⟨n, h⟩ := RetryRule.exists_runsFor retryRule client.attempt ⟨wire, 0⟩
    exact ⟨n + 1, lastRequest_of_runsFor htime h, completesWith_of_runsFor htime havailable h⟩
  . exact complete_without_time havailable

/--
A client with a number of seconds for each request.
-/
def timedClient (seconds : Int) : Client :=
  { key := "key", model := "model", temperature := 0, maxTokens := 64, timeoutSeconds := seconds }

theorem completesWith_of_available_timeout :
    (timedClient 30).available ∧ 0 < (timedClient 30).timeoutSeconds
      ∧ ∃ n, LastRequest [.error (.timedOut "late"), .ok none] n
        ∧ CompletesWith (timedClient 30) ⟨"prompt", "system", none⟩
          [.error (.timedOut "late"), .ok none] n := by
  have havailable : (timedClient 30).available := by rfl
  have htime : 0 < (timedClient 30).timeoutSeconds := by decide
  exact ⟨havailable, htime, (completesWith_of_available _ _ _ havailable).1 htime⟩

/--
Without any time for a request no number of requests fits, though the service would reply.
-/
theorem not_completesWith_without_time :
    ¬ ∃ n, LastRequest [.ok (some "\x7b\x7d")] n
      ∧ CompletesWith (timedClient 0) ⟨"prompt", "system", none⟩ [.ok (some "\x7b\x7d")] n := by
  rintro ⟨n, hlast, hcompletes⟩
  have hrequests := congrArg List.length hcompletes.requests
  rw [complete_without_time rfl (Int.le_refl 0), List.length_replicate] at hrequests
  have hpos := hlast.pos
  simp only [List.length_nil] at hrequests
  omega

end CodeGauge.Gemini
