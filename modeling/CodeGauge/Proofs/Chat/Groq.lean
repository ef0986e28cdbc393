import CodeGauge.Chat.Groq
import CodeGauge.Proofs.Chat.Attempts

/-!
This module contains what a client of the Groq service does for one prompt, said by the outcomes
that its requests meet: how many requests it sends, how long it pauses between them, what it writes
to the log, and which outcome its result comes from.
-/

namespace CodeGauge.Groq

open Text


/--
The outcome that a request meets, where requests count from one.
-/
def nth (wire : List Outcome) (i : Nat) : Outcome :=
  wire[i - 1]?.getD exhausted

/--
What a client makes of an outcome, whatever is in its account.
-/
def Outcome.reading (outcome : Outcome) : Except Failure Json :=
  (({} : Usage).receive outcome).2

/--
The result of a prompt whose last request meets an outcome.
-/
def Outcome.answer (outcome : Outcome) : Except Failure Json.Fields :=
  outcome.reading.bind answerOf

/--
Whether no request follows an outcome: a success, or a failure that another attempt does not cure.
-/
def Outcome.isFinal (outcome : Outcome) : Bool :=
  match outcome.reading with
  | .ok _ => true
  | .error failure => !retryable failure

/--
The number of seconds after which an outcome asks for another request. A response does so by its
status 429 and a header that can be read.
-/
def Outcome.wait? : Outcome → Option Binary64
  | .ok response => if response.status == 429 then response.retryAfter? else none
  | .error (.rateLimited _ wait) => wait
  | .error _ => none

/--
The pause behind the given request: the time that its outcome asks for, though no more than 30
seconds, or else twice as long each time, from 1 second up to 10.
-/
def pauseAfter (i : Nat) (outcome : Outcome) : Binary64 :=
  match outcome.wait? with
  | some seconds => seconds.clampAbove 30
  | none => .ofNat (min (Nat.pow 2 (i - 1)) 10)

/--
The number of requests for a prompt: the first of three that meets a final outcome is the last one.
-/
structure LastRequest (wire : List Outcome) (n : Nat) : Prop where
  pos : 1 ≤ n
  le : n ≤ 3
  retried : ∀ i, 1 ≤ i → i < n → (nth wire i).isFinal = false
  final : n < 3 → (nth wire n).isFinal

/--
What a client does for a prompt with `n` requests.
-/
structure CompletesWith (client : Client) (prompt system : String) (state : State) (n : Nat) :
    Prop where
  requests : (client.complete prompt system state).1.requests
    = List.replicate n (client.payload prompt system)
  wire : (client.complete prompt system state).2.wire = state.wire.drop n
  pauses : (client.complete prompt system state).1.pauses
    = (List.range (n - 1)).map fun i => pauseAfter (i + 1) (nth state.wire (i + 1))
  logs : (client.complete prompt system state).1.logs.length = n - 1
  warnings : ∀ line ∈ (client.complete prompt system state).1.logs, line.level = .warning
  result : (client.complete prompt system state).1.result = (nth state.wire n).answer

theorem record_snd (u v : Usage) (data : Json) : (u.record data).2 = (v.record data).2 := by
  unfold Usage.record
  split
  . rfl
  . dsimp only
    split
    . rfl
    . split <;> rfl

theorem receive_snd (u : Usage) (outcome : Outcome) : (u.receive outcome).2 = outcome.reading := by
  unfold Outcome.reading Usage.receive
  split
  . rfl
  . split
    . rfl
    . split
      . rfl
      . next data _ =>
        have hrecord := record_snd u {} data
        split <;> split <;> simp_all

theorem attempt_fst (state : State) :
    (attempt state).1 = (state.wire.head?.getD exhausted).reading :=
  receive_snd state.usage _

theorem attempt_snd_wire (state : State) : (attempt state).2.wire = state.wire.tail := by
  rfl

theorem behind_wire (n : Nat) (state : State) :
    (RetryRule.behind attempt n state).wire = state.wire.drop n := by
  induction n generalizing state with
  | zero => rfl
  | succ n ih =>
    unfold RetryRule.behind
    rw [ih, attempt_snd_wire, List.drop_tail]

theorem outcomeAt_eq (state : State) (i : Nat) :
    RetryRule.outcomeAt attempt state i = (nth state.wire (i + 1)).reading := by
  unfold RetryRule.outcomeAt nth
  rw [attempt_fst, behind_wire, List.head?_drop, Nat.add_sub_cancel]

theorem isFinal_eq (outcome : Outcome) : retryRule.isFinal outcome.reading = outcome.isFinal := by
  unfold RetryRule.isFinal Outcome.isFinal
  split <;> simp_all [retryRule]

theorem backoff_eq (i : Nat) : backoff 10 i = .ofNat (min (Nat.pow 2 (i - 1)) 10) := by
  have hpos : 0 < 2 ^ (i - 1) := Nat.two_pow_pos (i - 1)
  unfold backoff
  rw [Nat.one_shiftLeft, show Nat.pow 2 (i - 1) = 2 ^ (i - 1) from rfl]
  congr 1
  omega

theorem pauseAfter_of_wait?_none {outcome : Outcome} (h : outcome.wait? = none) (i : Nat) :
    pauseAfter i outcome = backoff 10 i := by
  rw [pauseAfter, h, backoff_eq]

theorem pause_failure (i : Nat) (failure : Failure) :
    pause i failure = pauseAfter i (.error failure) := by
  cases failure with
  | rateLimited message wait =>
    cases wait with
    | none => exact (pauseAfter_of_wait?_none rfl i).symm
    | some seconds => rfl
  | _ => exact (pauseAfter_of_wait?_none rfl i).symm

theorem not_retryable_of_readBody {body : List UInt8} {failure : Failure}
    (h : readBody body = .error failure) : retryable failure = false := by
  unfold readBody at h
  split at h
  . cases h
    rfl
  . split at h
    . cases h
      rfl
    . cases h

theorem not_retryable_of_errorDetail {text : String} {body : List UInt8} {failure : Failure}
    (h : errorDetail text body = .error failure) : retryable failure = false := by
  unfold errorDetail at h
  split at h
  . split at h
    . split at h <;> cases h
    . cases h
  . cases h
    rfl
  . cases h

/--
A response is only asked for again if its status has led to the failure, so that the pause follows
its header.
-/
theorem pause_refusal (i : Nat) {response : Response} (h : retryable response.refusal) :
    pause i response.refusal = pauseAfter i (.ok response) := by
  unfold Response.refusal at h ⊢
  split
  . next htext =>
    rw [htext] at h
    cases h
  . next text htext =>
    rw [htext] at h
    dsimp only at h ⊢
    split
    . next hdetail =>
      rw [hdetail] at h
      rw [not_retryable_of_errorDetail hdetail] at h
      cases h
    . split
      . next hstatus =>
        unfold pauseAfter Outcome.wait?
        dsimp only
        rw [if_pos hstatus]
        cases response.retryAfter? with
        | none => exact backoff_eq i
        | some seconds => rfl
      . next hstatus =>
        rw [pauseAfter_of_wait?_none]
        . rfl
        . exact if_neg hstatus

theorem pause_eq {outcome : Outcome} {failure : Failure} (hretry : retryable failure)
    (h : outcome.reading = .error failure) (i : Nat) :
    pause i failure = pauseAfter i outcome := by
  unfold Outcome.reading Usage.receive at h
  split at h
  . cases h
    exact pause_failure i failure
  . next response =>
    split at h
    . cases h
      exact pause_refusal i hretry
    . -- What is wrong with an answer does not lead to another request.
      split at h
      . next hbody =>
        cases h
        rw [not_retryable_of_readBody hbody] at hretry
        cases hretry
      . split at h
        . cases h
          cases hretry
        . cases h

/--
All that a client writes to the log for a prompt are warnings.
-/
theorem level_of_mem_logs {client : Client} {prompt system : String} {state : State} {line : LogLine}
    (h : line ∈ (client.complete prompt system state).1.logs) : line.level = .warning := by
  unfold Client.complete at h
  split at h
  . cases h
  . obtain ⟨i, hi, rfl⟩ := List.mem_mapIdx.1 h
    unfold retryLine
    split <;> rfl

theorem lastRequest_of_runsFor {state : State} {n : Nat} {run : RetryRun State Json}
    (h : retryRule.RunsFor attempt state retryRule.retries n run) :
    LastRequest state.wire (n + 1) := by
  have hfinal : ∀ i, retryRule.isFinal (RetryRule.outcomeAt attempt state (i - 1))
      = (nth state.wire i).isFinal := by
    intro i
    rw [outcomeAt_eq, isFinal_eq]
    rfl
  have hlast := h.isLast
  simp only [hfinal] at hlast
  exact ⟨hlast.pos, hlast.le, hlast.retried, hlast.final⟩

theorem completesWith_of_runsFor {client : Client} {prompt system : String} {state : State}
    {n : Nat} (hkey : asciiFault? client.authorization = none)
    (h : retryRule.RunsFor attempt state retryRule.retries n (retryRule.run attempt state)) :
    CompletesWith client prompt system state (n + 1) := by
  refine ⟨?_, ?_, ?_, ?_, fun _ => level_of_mem_logs, ?_⟩
  all_goals
    unfold Client.complete
    rw [hkey]
    dsimp only
  . rw [h.attempts_eq]
  . rw [h.state, behind_wire]
  . apply h.mapFailures_eq
    intro i failure hretry houtcome
    rw [outcomeAt_eq] at houtcome
    exact pause_eq hretry houtcome (i + 1)
  . have hlen := h.attempts_eq
    simpa [RetryRun.mapFailures, RetryRun.attempts] using hlen
  . rw [h.outcome, outcomeAt_eq]
    rfl

theorem nth_eq_of_take_eq {wire wire' : List Outcome} {n i : Nat}
    (h : wire'.take n = wire.take n) (hi : i < n) : nth wire' (i + 1) = nth wire (i + 1) := by
  unfold nth
  rw [Nat.add_sub_cancel, ← List.getElem?_take_of_lt hi, h, List.getElem?_take_of_lt hi]

/--
What a client does for a prompt depends on the outcomes that it takes alone: neither those behind
them nor the account make a difference.
-/
theorem complete_eq_of_take_eq (client : Client) (prompt system : String) {state state' : State}
    (h : state'.wire.take (client.complete prompt system state).1.requests.length
      = state.wire.take (client.complete prompt system state).1.requests.length) :
    (client.complete prompt system state').1 = (client.complete prompt system state).1 := by
  obtain ⟨n, hruns⟩ := RetryRule.exists_runsFor retryRule attempt state
  obtain ⟨n', hruns'⟩ := RetryRule.exists_runsFor retryRule attempt state'
  unfold Client.complete at h ⊢
  cases hkey : asciiFault? client.authorization with
  | some fault => rfl
  | none =>
    rw [hkey] at h
    dsimp only at h ⊢
    rw [List.length_replicate, hruns.attempts_eq] at h
    obtain ⟨hfailures, houtcome⟩ := hruns.agree hruns' (by
      intro i hi
      rw [outcomeAt_eq, outcomeAt_eq, nth_eq_of_take_eq h (Nat.lt_succ_of_le hi)])
    unfold RetryRun.attempts RetryRule.pauses RetryRun.mapFailures
    rw [hfailures, houtcome]

/--
For one prompt a client sends requests up to the first of three that meets a success or a failure
that another attempt does not cure. All have the same body, and each takes one outcome. Behind each
but the last there is one pause, as long as its outcome asks for or as the doubled one before, and
one warning. The result is that of the last outcome. A client whose key cannot be put into a header
sends nothing.
-/
theorem complete_spec (client : Client) (prompt system : String) (state : State) :
    (asciiFault? client.authorization = none
      → ∃ n, LastRequest state.wire n ∧ CompletesWith client prompt system state n)
    ∧ ∀ fault, asciiFault? client.authorization = some fault
      → client.complete prompt system state
        = (⟨.error (.unencodable fault), [], [], []⟩, state) := by
  constructor
  . intro hkey
    obtain ⟨n, h⟩ := RetryRule.exists_runsFor retryRule attempt state
    exact ⟨n + 1, lastRequest_of_runsFor h, completesWith_of_runsFor hkey h⟩
  . intro fault hkey
    unfold Client.complete
    rw [hkey]

theorem complete_spec_rate_limited :
    asciiFault? (Client.mk "key" "model").authorization = none
      ∧ ∃ n, LastRequest [.ok ⟨429, [("retry-after", "2")], []⟩, .ok ⟨200, [], []⟩] n
        ∧ CompletesWith ⟨"key", "model"⟩ "prompt" "system"
          ⟨{}, [.ok ⟨429, [("retry-after", "2")], []⟩, .ok ⟨200, [], []⟩]⟩ n := by
  have hkey : asciiFault? (Client.mk "key" "model").authorization = none := by decide
  exact ⟨hkey, (complete_spec ⟨"key", "model"⟩ "prompt" "system" ⟨{}, _⟩).1 hkey⟩

/--
With a key that is not in ASCII no number of requests fits, though the service would answer.
-/
theorem not_completesWith_unencodable_key :
    ¬ ∃ n, LastRequest [.ok ⟨200, [], Utf8.encode "\x7b\x7d"⟩] n
      ∧ CompletesWith ⟨"kluč", "model"⟩ "prompt" "system"
        ⟨{}, [.ok ⟨200, [], Utf8.encode "\x7b\x7d"⟩]⟩ n := by
  rintro ⟨n, hlast, hcompletes⟩
  have hkey : asciiFault? (Client.mk "kluč" "model").authorization = some ⟨10, ['č']⟩ := by rfl
  have hrequests := congrArg List.length hcompletes.requests
  rw [List.length_replicate, Client.complete, hkey] at hrequests
  have hpos := hlast.pos
  simp only [List.length_nil] at hrequests
  omega

end CodeGauge.Groq
