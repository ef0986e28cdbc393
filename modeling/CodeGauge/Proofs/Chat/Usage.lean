import CodeGauge.Proofs.Chat.Groq
import CodeGauge.Proofs.Except
import Mathlib.Algebra.GroupWithZero.Nat
import Mathlib.Algebra.Ring.Int.Defs

/-!
This module contains what the account of a client of the Groq service says: what one answer adds to
it, when it takes in only a part of an answer, and what a whole run amounts to.
-/

namespace CodeGauge.Groq

open Json

variable {account : Usage} {fields : Fields} {outcome : Outcome} {state : State}


/--
The whole number that a field stands for. One that is missing or counts as nothing stands for zero.
-/
def number? : Option Json → Option Int
  | none => some 0
  | some value => if value.isTruthy then value.whole.toOption else some 0

/--
The number of tokens of a kind that an answer tells, if it can be read.
-/
def tokensIn? (fields : Fields) (kind : String) : Option Int :=
  match field? fields "usage" with
  | some (.obj usage) => number? (field? usage kind)
  | some usage => if usage.isTruthy then none else some 0
  | none => some 0

/--
Whether an account takes in an answer as a whole, its request and the tokens of both kinds that it
tells, or refuses it and stays as it is.
-/
def Usage.RecordsWhole (account : Usage) (data : Json) : Prop :=
  (∃ fields prompt completion, data = .obj fields
      ∧ tokensIn? fields "prompt_tokens" = some prompt
      ∧ tokensIn? fields "completion_tokens" = some completion
      ∧ account.record data
        = (⟨account.requests + 1, account.promptTokens + prompt,
            account.completionTokens + completion⟩, .ok ()))
    ∨ ∃ fault, account.record data = (account, .error fault)

theorem toOption_tokens_obj (usage : Fields) (kind : String) :
    (tokens (.obj usage) kind).toOption = number? (field? usage kind) := by
  unfold tokens lookup
  dsimp only
  cases field? usage kind with
  | none => rfl
  | some value =>
    dsimp only [truthyOr, number?]
    split <;> rfl

theorem toOption_tokens (fields : Fields) (kind : String) :
    (tokens (truthyOr (.obj []) (field? fields "usage")) kind).toOption
      =
    tokensIn? fields kind := by
  have hempty : (tokens (.obj []) kind).toOption = some 0 := by
    rfl
  unfold tokensIn?
  cases field? fields "usage" with
  | none => exact hempty
  | some usage =>
    cases usage with
    | obj usage =>
      have hobj : truthyOr (.obj []) (some (.obj usage)) = .obj usage := by
        cases usage <;> rfl
      rw [hobj, toOption_tokens_obj]
    | _ =>
      dsimp only [truthyOr]
      split
      . rfl
      . exact hempty

theorem record_of_readable {prompt completion : Int}
    (hprompt : tokensIn? fields "prompt_tokens" = some prompt)
    (hcompletion : tokensIn? fields "completion_tokens" = some completion) :
    account.record (.obj fields)
      =
    (⟨account.requests + 1, account.promptTokens + prompt,
      account.completionTokens + completion⟩, .ok ()) := by
  rw [← toOption_tokens, toOption_eq_some] at hprompt hcompletion
  unfold Usage.record lookup
  dsimp only
  rw [hprompt]
  dsimp only
  rw [hcompletion]

/--
The request is in the account before any tokens are read, and the prompt tokens are in it before the
others are.
-/
theorem exists_record_of_unreadable (account : Usage)
    (h : ¬ ((tokensIn? fields "prompt_tokens").isSome
      ∧ (tokensIn? fields "completion_tokens").isSome)) :
    ∃ fault, account.record (.obj fields)
      =
    (⟨account.requests + 1, account.promptTokens + (tokensIn? fields "prompt_tokens").getD 0,
      account.completionTokens⟩, .error fault) := by
  rw [← toOption_tokens, ← toOption_tokens] at h
  rw [← toOption_tokens]
  unfold Usage.record lookup
  dsimp only
  cases hprompt : tokens (truthyOr (.obj []) (field? fields "usage")) "prompt_tokens" with
  | error fault => exact ⟨fault, by simp [Except.toOption]⟩
  | ok prompt =>
    cases hcompletion : tokens (truthyOr (.obj []) (field? fields "usage")) "completion_tokens" with
    | error fault => exact ⟨fault, rfl⟩
    | ok completion =>
      rw [hprompt, hcompletion] at h
      exact (h ⟨rfl, rfl⟩).elim

theorem exists_record_of_ne_obj {data : Json} (h : ∀ fields, data ≠ .obj fields) :
    ∃ fault, account.record data = (account, .error fault) := by
  cases data with
  | obj fields => exact (h fields rfl).elim
  | _ => exact ⟨_, rfl⟩

theorem not_recordsWhole {after : Usage} {fault : UseFault} {data : Json}
    (h : account.record data = (after, .error fault)) (hafter : after ≠ account) :
    ¬ account.RecordsWhole data := by
  rintro (⟨_, _, _, _, _, _, hwhole⟩ | ⟨_, hwhole⟩)
  . rw [h] at hwhole
    cases hwhole
  . rw [h] at hwhole
    cases hwhole
    exact hafter rfl

/--
An account takes in an answer as a whole unless the answer is an object in which a number of tokens
cannot be read. Then the answer is refused, but its request is in the account, and so are its prompt
tokens if these can be read. There may be white space around a numeral. A surrogate without partner,
which the reader replaces, is no part of one, and neither is what it is replaced by.
-/
theorem recordsWhole_iff (account : Usage) (data : Json) :
    (account.RecordsWhole data
        ↔ ∀ fields, data = .obj fields
          → (tokensIn? fields "prompt_tokens").isSome
            ∧ (tokensIn? fields "completion_tokens").isSome)
      ∧ (¬ account.RecordsWhole data
        → ∃ fields fault, data = .obj fields
          ∧ account.record data
            = (⟨account.requests + 1,
                account.promptTokens + (tokensIn? fields "prompt_tokens").getD 0,
                account.completionTokens⟩, .error fault)) := by
  by_cases hobj : ∃ fields, data = .obj fields
  . obtain ⟨fields, rfl⟩ := hobj
    by_cases hread : (tokensIn? fields "prompt_tokens").isSome
        ∧ (tokensIn? fields "completion_tokens").isSome
    . obtain ⟨prompt, hprompt⟩ := Option.isSome_iff_exists.1 hread.1
      obtain ⟨completion, hcompletion⟩ := Option.isSome_iff_exists.1 hread.2
      have hwhole : account.RecordsWhole (.obj fields) :=
        .inl ⟨fields, prompt, completion, rfl, hprompt, hcompletion,
          record_of_readable hprompt hcompletion⟩
      refine ⟨⟨?_, fun _ => hwhole⟩, fun hnot => (hnot hwhole).elim⟩
      rintro _ _ ⟨⟩
      exact hread
    . obtain ⟨fault, hrecord⟩ := exists_record_of_unreadable account hread
      have hnot : ¬ account.RecordsWhole (.obj fields) := by
        apply not_recordsWhole hrecord
        intro heq
        exact Nat.succ_ne_self _ (congrArg Usage.requests heq)
      exact ⟨⟨fun hwhole => (hnot hwhole).elim, fun h => (hread (h fields rfl)).elim⟩,
        fun _ => ⟨fields, fault, rfl, hrecord⟩⟩
  . rw [not_exists] at hobj
    have hwhole : account.RecordsWhole data := .inr (exists_record_of_ne_obj hobj)
    exact ⟨⟨fun _ fields hfields => (hobj fields hfields).elim, fun _ => hwhole⟩,
      fun hnot => (hnot hwhole).elim⟩

/--
Five tokens of a refused answer stay in the account.
-/
theorem recordsWhole_iff_completion_word :
    let data : Json := .obj [("usage",
      .obj [("prompt_tokens", .int 5), ("completion_tokens", .str "many")])]
    ¬ (Usage.mk 0 0 0).RecordsWhole data
      ∧ ∃ fault, (Usage.mk 0 0 0).record data = (⟨1, 5, 0⟩, .error fault) := by
  intro data
  have hnot : ¬ (Usage.mk 0 0 0).RecordsWhole data := by
    rw [(recordsWhole_iff _ _).1]
    intro h
    have hread := (h _ rfl).2
    revert hread
    decide +kernel
  obtain ⟨fields, fault, heq, hrecord⟩ := (recordsWhole_iff _ _).2 hnot
  obtain rfl := Json.obj.inj heq
  exact ⟨hnot, fault, hrecord⟩

/--
Whether a number of tokens is missing, null or a whole number.
-/
def isCount : Option Json → Bool
  | none | some .null | some (.int _) => true
  | _ => false

/--
A number of tokens, where one that is missing or null stands for none.
-/
def countOf : Option Json → Int
  | some (.int n) => n
  | _ => 0

/--
Whether the usage in an answer is missing, null or an object that counts tokens.
-/
def countsTokens (fields : Fields) : Bool :=
  match field? fields "usage" with
  | none | some .null => true
  | some (.obj usage) =>
    isCount (field? usage "prompt_tokens") && isCount (field? usage "completion_tokens")
  | _ => false

/--
The number of tokens of a kind that an answer counts.
-/
def countIn (kind : String) (fields : Fields) : Int :=
  match field? fields "usage" with
  | some (.obj usage) => countOf (field? usage kind)
  | _ => 0

theorem number?_of_isCount {value : Option Json} (h : isCount value) :
    number? value = some (countOf value) := by
  unfold isCount at h
  split at h
  . rfl
  . rfl
  . next n =>
    unfold number? countOf
    by_cases hn : n = 0 <;> simp [isTruthy, whole, Except.toOption, hn]
  . cases h

theorem tokensIn?_of_countsTokens (h : countsTokens fields) :
    tokensIn? fields "prompt_tokens" = some (countIn "prompt_tokens" fields)
      ∧ tokensIn? fields "completion_tokens" = some (countIn "completion_tokens" fields) := by
  unfold countsTokens at h
  unfold tokensIn? countIn
  split at h
  . next husage => simp [husage]
  . next husage => simp [husage, isTruthy]
  . next husage =>
    rw [Bool.and_eq_true] at h
    simp [husage, number?_of_isCount h.1, number?_of_isCount h.2]
  . cases h

namespace Outcome

/--
Whether an outcome is a response with status 200.
-/
def isAnswer : Outcome → Bool
  | .ok response => response.status == 200
  | .error _ => false

/--
The object in the body of a response.
-/
def fields? : Outcome → Option Fields
  | .ok response =>
    match readBody response.body with
    | .ok (.obj fields) => some fields
    | _ => none
  | .error _ => none

/--
Whether an outcome has an object for its body, in which the usage can be counted.
-/
def countsTokens (outcome : Outcome) : Bool :=
  outcome.fields?.any Groq.countsTokens

/--
The number of tokens of a kind that an outcome counts.
-/
def count (kind : String) (outcome : Outcome) : Int :=
  (outcome.fields?.map (countIn kind)).getD 0

end Outcome

/--
An account with the answers among some outcomes.
-/
def Usage.including (account : Usage) (outcomes : List Outcome) : Usage :=
  let answers := outcomes.filter Outcome.isAnswer
  { requests := account.requests + answers.length
    promptTokens := account.promptTokens + (answers.map (Outcome.count "prompt_tokens")).sum
    completionTokens :=
      account.completionTokens + (answers.map (Outcome.count "completion_tokens")).sum }

@[simp]
theorem including_nil (account : Usage) : account.including [] = account := by
  simp [Usage.including]

theorem including_append (account : Usage) (outcomes outcomes' : List Outcome) :
    account.including (outcomes ++ outcomes')
      =
    (account.including outcomes).including outcomes' := by
  simp [Usage.including, Nat.add_assoc, Int.add_assoc]

theorem receive_of_not_isAnswer (h : outcome.isAnswer = false) :
    (account.receive outcome).1 = account := by
  unfold Usage.receive
  cases outcome with
  | error failure => rfl
  | ok response =>
    have hstatus : response.status != 200 := by
      simpa [Outcome.isAnswer] using h
    dsimp only
    rw [if_pos hstatus]

theorem exists_of_fields? (h : outcome.fields? = some fields) :
    ∃ response, outcome = .ok response ∧ readBody response.body = .ok (.obj fields) := by
  unfold Outcome.fields? at h
  split at h
  . next response =>
    split at h
    . next hbody =>
      cases h
      exact ⟨response, rfl, hbody⟩
    . cases h
  . cases h

theorem receive_of_countsTokens (hanswer : outcome.isAnswer) (h : outcome.countsTokens) :
    (account.receive outcome).1 = account.including [outcome] := by
  obtain ⟨fields, hfields, hcounts⟩ := (Option.any_eq_true _ _).1 h
  obtain ⟨response, rfl, hbody⟩ := exists_of_fields? hfields
  have hstatus : ¬ (response.status != 200) = true := by
    simpa [Outcome.isAnswer] using hanswer
  have hread := tokensIn?_of_countsTokens hcounts
  unfold Usage.receive
  dsimp only
  rw [if_neg hstatus, hbody]
  dsimp only
  rw [record_of_readable hread.1 hread.2]
  simp [Usage.including, hanswer, Outcome.count, hfields]

/--
One request adds to the account what its outcome counts, if it is an answer.
-/
theorem receive_fst (h : outcome.isAnswer → outcome.countsTokens) :
    (account.receive outcome).1 = account.including [outcome] := by
  cases hanswer : outcome.isAnswer with
  | true => exact receive_of_countsTokens hanswer (h hanswer)
  | false => simp [receive_of_not_isAnswer hanswer, Usage.including, hanswer]

/--
Whether the usage can be counted in all the answers among some outcomes.
-/
def AllCounted (outcomes : List Outcome) : Prop :=
  ∀ outcome ∈ outcomes, outcome.isAnswer → outcome.countsTokens

theorem attempt_snd_usage (state : State) (h : AllCounted (state.wire.take 1)) :
    (attempt state).2.usage = state.usage.including (state.wire.take 1) := by
  unfold attempt
  cases hwire : state.wire with
  | nil => simp [exhausted, Usage.receive]
  | cons outcome wire =>
    rw [hwire] at h
    exact receive_fst (h outcome List.mem_cons_self)

theorem take_succ_tail {α : Type} (n : Nat) (xs : List α) :
    xs.take (n + 1) = xs.take 1 ++ xs.tail.take n := by
  rw [Nat.add_comm, List.take_add, List.drop_one]

/--
A number of requests add to the account what the outcomes that they meet count.
-/
theorem behind_usage (n : Nat) (state : State) (h : AllCounted (state.wire.take n)) :
    (RetryRule.behind attempt n state).usage = state.usage.including (state.wire.take n) := by
  induction n generalizing state with
  | zero => simp [RetryRule.behind]
  | succ n ih =>
    rw [take_succ_tail, AllCounted, List.forall_mem_append] at h
    rw [RetryRule.behind, ih (attempt state).2 h.2, attempt_snd_usage state h.1, attempt_snd_wire,
      ← including_append, ← take_succ_tail]

/--
A state behind `n` requests: the outcomes that they met are gone, and counted if they can be.
-/
structure Consumes (before : State) (n : Nat) (after : State) : Prop where
  wire : after.wire = before.wire.drop n
  usage : AllCounted (before.wire.take n)
    → after.usage = before.usage.including (before.wire.take n)

theorem Consumes.refl (state : State) : Consumes state 0 state where
  wire := rfl
  usage := fun _ => by simp

theorem Consumes.trans {a b c : State} {m n : Nat} (hab : Consumes a m b) (hbc : Consumes b n c) :
    Consumes a (m + n) c where
  wire := by rw [hbc.wire, hab.wire, List.drop_drop]
  usage := by
    intro h
    rw [List.take_add, AllCounted, List.forall_mem_append, ← hab.wire] at h
    rw [List.take_add, including_append, ← hab.usage h.1, ← hab.wire, hbc.usage h.2]

/--
A prompt consumes as many outcomes as it sends requests.
-/
theorem complete_consumes (client : Client) (prompt system : String) (state : State) :
    Consumes state (client.complete prompt system state).1.requests.length
      (client.complete prompt system state).2 := by
  unfold Client.complete
  cases Text.asciiFault? client.authorization with
  | some fault => exact Consumes.refl state
  | none =>
    obtain ⟨n, h⟩ := RetryRule.exists_runsFor retryRule attempt state
    dsimp only
    rw [List.length_replicate, h.attempts_eq, h.state]
    exact ⟨behind_wire (n + 1) state, behind_usage (n + 1) state⟩

/--
The number of requests that a report is about.
-/
def Report.sent : Report → Nat
  | .completed call => call.requests.length
  | .closed => 0

theorem perform_consumes (client : Client) (state : State) (action : Action) :
    Consumes state (client.perform state action).1.sent (client.perform state action).2 := by
  cases action with
  | complete prompt system => exact complete_consumes client prompt system state
  | close => exact Consumes.refl state

/--
The number of requests in a run.
-/
def sentIn (run : List (Report × Usage)) : Nat :=
  (run.map (·.1.sent)).sum

/--
The account behind a run that starts with the given one.
-/
def usageBehind (account : Usage) (run : List (Report × Usage)) : Usage :=
  (run.getLast?.map (·.2)).getD account

theorem usageBehind_cons (account : Usage) (entry : Report × Usage) (run : List (Report × Usage)) :
    usageBehind account (entry :: run) = usageBehind entry.2 run := by
  unfold usageBehind
  cases run with
  | nil => rfl
  | cons next run => rw [List.getLast?_cons_cons, List.getLast?_cons, Option.map_some]; rfl

theorem exists_consumes_performAll (client : Client) (state : State) (actions : List Action) :
    ∃ after, Consumes state (sentIn (client.performAll state actions)) after
      ∧ usageBehind state.usage (client.performAll state actions) = after.usage := by
  induction actions generalizing state with
  | nil => exact ⟨state, Consumes.refl state, rfl⟩
  | cons action actions ih =>
    obtain ⟨after, hconsumes, husage⟩ := ih (client.perform state action).2
    refine ⟨after, (perform_consumes client state action).trans hconsumes, ?_⟩
    rw [Client.performAll, usageBehind_cons]
    exact husage

/--
Behind a run the account has one request more for each answer that the run has consumed, and the
tokens that these answers count. All other outcomes add nothing, whatever becomes of them, and what
becomes of the content of an answer makes no difference.
-/
theorem usage_performAll (client : Client) (state : State) (actions : List Action) :
    let run := client.performAll state actions
    let answers := (state.wire.take (sentIn run)).filter Outcome.isAnswer
    (∀ answer ∈ answers, answer.countsTokens)
      → usageBehind state.usage run
        = { requests := state.usage.requests + answers.length
            promptTokens := state.usage.promptTokens
              + (answers.map (Outcome.count "prompt_tokens")).sum
            completionTokens := state.usage.completionTokens
              + (answers.map (Outcome.count "completion_tokens")).sum } := by
  intro run answers h
  obtain ⟨after, hconsumes, husage⟩ := exists_consumes_performAll client state actions
  rw [husage]
  apply hconsumes.usage
  intro outcome houtcome hanswer
  exact h outcome (List.mem_filter.2 ⟨houtcome, hanswer⟩)

/--
A service that asks for a pause, replies without a content, refuses a request, and replies again.
-/
def mixedWire : List Outcome :=
  [.ok ⟨429, [], []⟩,
    .ok ⟨200, [], Text.Utf8.encode "\x7b\"usage\": \x7b\"prompt_tokens\": 7\x7d\x7d"⟩,
    .ok ⟨400, [], []⟩,
    .ok ⟨200, [], Text.Utf8.encode "\x7b\"usage\": null\x7d"⟩]

theorem usage_performAll_mixed :
    let run := (Client.mk "key" "model").performAll { wire := mixedWire }
      [.complete "a" "", .close, .complete "b" "", .complete "c" ""]
    (∀ answer ∈ (mixedWire.take (sentIn run)).filter Outcome.isAnswer, answer.countsTokens)
      ∧ usageBehind {} run = ⟨2, 7, 0⟩ := by
  intro run
  have hcounts : ∀ answer ∈ (mixedWire.take (sentIn run)).filter Outcome.isAnswer,
      answer.countsTokens := by
    decide +kernel
  refine ⟨hcounts, ?_⟩
  rw [usage_performAll ⟨"key", "model"⟩ { wire := mixedWire } _ hcounts]
  decide +kernel

end CodeGauge.Groq
