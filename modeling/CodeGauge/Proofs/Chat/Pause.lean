import CodeGauge.Proofs.Chat.Groq
import CodeGauge.Proofs.Number.Order

/-!
This module contains how long a client of the Groq service pauses. Whatever stands in a header, the
pause is a number of seconds from 0 to 30.
-/

namespace CodeGauge.Groq

variable {response : Response} {outcome : Outcome} {seconds x : Binary64} {text : String}
  {y : WithBot (WithTop ℚ)} {n : Nat}


/--
Whether a failure that says how long to wait says what some response asks for.
-/
def Outcome.AsksByHeader (outcome : Outcome) : Prop :=
  ∀ message seconds, outcome = .error (.rateLimited message (some seconds)) →
    ∃ response : Response, response.retryAfter? = some seconds

theorem asksByHeader_ok (response : Response) : Outcome.AsksByHeader (.ok response) := by
  intro message seconds h
  cases h

theorem asksByHeader_nth {wire : List Outcome} (h : ∀ outcome ∈ wire, outcome.AsksByHeader)
    (i : Nat) : (nth wire i).AsksByHeader := by
  unfold nth
  cases hget : wire[i - 1]? with
  | none =>
    intro message seconds hexhausted
    cases hexhausted
  | some outcome => exact h outcome (List.mem_of_getElem? hget)

theorem exists_of_wait? (h : outcome.AsksByHeader) (hwait : outcome.wait? = some seconds) :
    ∃ response : Response, response.retryAfter? = some seconds := by
  unfold Outcome.wait? at hwait
  split at hwait
  . next response =>
    split at hwait
    . exact ⟨response, hwait⟩
    . cases hwait
  . next message wait =>
    subst hwait
    exact h message seconds rfl
  . cases hwait

theorem retryAfter?_of_header (h : response.header? "retry-after" = some text)
    (hx : Numeral.float? text = some x) : response.retryAfter? = some (.clampBelow 0 x) := by
  rw [Response.retryAfter?, h, Option.bind_some, hx, Option.map_some]

theorem value?_zero : (0 : Binary64).value? = some 0 := by
  apply Binary64.value?_ofNat
  decide

theorem value?_thirty : (30 : Binary64).value? = some 30 := by
  apply Binary64.value?_ofNat
  decide

/--
The time that a response asks for is not negative, nor is it what is not a number.
-/
theorem exists_value_retryAfter (h : response.retryAfter? = some seconds) :
    ∃ y, seconds.value? = some y ∧ 0 ≤ y := by
  obtain ⟨x, _, rfl⟩ := Option.map_eq_some_iff.1 h
  cases hx : x.value? with
  | none =>
    rw [Binary64.eq_nan_of_value? hx, Binary64.clampBelow_nan]
    exact ⟨0, value?_zero, le_refl 0⟩
  | some y => exact ⟨max 0 y, Binary64.value?_clampBelow value?_zero hx, le_max_left 0 y⟩

theorem exists_value_backoff (h : n ≤ 10) :
    ∃ y, (Binary64.ofNat n).value? = some y ∧ 0 ≤ y ∧ y ≤ 30 := by
  refine ⟨n, Binary64.value?_ofNat (by omega), Nat.cast_nonneg' n, ?_⟩
  exact Nat.cast_le_ofNat.2 (by omega)

theorem exists_value_pauseAfter (h : outcome.AsksByHeader) (i : Nat) :
    ∃ y, (pauseAfter i outcome).value? = some y ∧ 0 ≤ y ∧ y ≤ 30 := by
  unfold pauseAfter
  split
  . next seconds hwait =>
    obtain ⟨response, hresponse⟩ := exists_of_wait? h hwait
    obtain ⟨y, hy, hnonneg⟩ := exists_value_retryAfter hresponse
    refine ⟨min y 30, Binary64.value?_clampAbove hy value?_thirty, ?_, min_le_right y 30⟩
    exact le_min hnonneg (Nat.ofNat_nonneg' 30)
  . apply exists_value_backoff
    apply Nat.min_le_right

theorem value?_pauseAfter_of_header (hstatus : response.status = 429)
    (h : response.header? "retry-after" = some text) (hx : Numeral.float? text = some x)
    (hy : x.value? = some y) (i : Nat) :
    (pauseAfter i (.ok response)).value? = some (min (max 0 y) 30) := by
  have hwait : Outcome.wait? (.ok response) = some (.clampBelow 0 x) := by
    rw [← retryAfter?_of_header h hx]
    exact if_pos (by rw [hstatus]; rfl)
  unfold pauseAfter
  rw [hwait]
  apply Binary64.value?_clampAbove _ value?_thirty
  exact Binary64.value?_clampBelow value?_zero hy

/--
Behind each request but the last, a client pauses for a number of seconds from 0 to 30. If the
request is answered with the status 429 and a header that says a number of seconds, this is the
number that the client waits, as far as it lies there.
-/
theorem pauses_bounded (client : Client) (prompt system : String) (state : State)
    (hwire : ∀ outcome ∈ state.wire, outcome.AsksByHeader) :
    let call := (client.complete prompt system state).1
    ∀ i, 1 ≤ i → i < call.requests.length →
      ∃ pause seconds, call.pauses[i - 1]? = some pause ∧ pause.value? = some seconds
        ∧ 0 ≤ seconds ∧ seconds ≤ 30
        ∧ ∀ response text x y, nth state.wire i = .ok response → response.status = 429 →
          response.header? "retry-after" = some text → Numeral.float? text = some x →
          x.value? = some y → seconds = min (max 0 y) 30 := by
  intro call i hpos hlt
  cases hkey : Text.asciiFault? client.authorization with
  | some fault =>
    -- Nothing is sent.
    simp [call, Client.complete, hkey] at hlt
  | none =>
    obtain ⟨n, hruns⟩ := RetryRule.exists_runsFor retryRule attempt state
    have hcompletes : CompletesWith client prompt system state (n + 1) :=
      completesWith_of_runsFor hkey hruns
    have hlen : call.requests.length = n + 1 := by
      unfold call
      rw [hcompletes.requests, List.length_replicate]
    have hpause : call.pauses[i - 1]? = some (pauseAfter i (nth state.wire i)) := by
      have hi : i - 1 < n := by omega
      unfold call
      rw [hcompletes.pauses, Nat.add_sub_cancel, List.getElem?_map, List.getElem?_range hi,
        Option.map_some, Nat.sub_add_cancel hpos]
    obtain ⟨y, hy, hnonneg, hle⟩ := exists_value_pauseAfter (asksByHeader_nth hwire i) i
    refine ⟨_, y, hpause, hy, hnonneg, hle, ?_⟩
    intro response text x z hresponse hstatus hheader hx hz
    rw [hresponse, value?_pauseAfter_of_header hstatus hheader hx hz i] at hy
    exact (Option.some.inj hy).symm

/--
A service that asks for no number of seconds at first, and then for a thousand of them.
-/
def busyState : State where
  wire := [
    .ok ⟨429, [("Retry-After", "nan")], []⟩,
    .ok ⟨429, [("Retry-After", "1e3")], []⟩,
    .ok ⟨200, [], []⟩]

theorem pauses_bounded_thousand :
    let call := ((Client.mk "key" "model").complete "prompt" "system" busyState).1
    (∀ outcome ∈ busyState.wire, outcome.AsksByHeader)
      ∧ ∃ pause, call.pauses[1]? = some pause ∧ pause.value? = some 30 := by
  intro call
  have hwire : ∀ outcome ∈ busyState.wire, outcome.AsksByHeader := by
    simp [busyState, asksByHeader_ok]
  have hlen : 2 < call.requests.length := by decide +kernel
  have hheader : Response.header? ⟨429, [("Retry-After", "1e3")], []⟩ "retry-after" = some "1e3" := by
    decide +kernel
  have hnumeral : Numeral.float? "1e3" = some (.ofNat 1000) := by decide +kernel
  have hvalue : (Binary64.ofNat 1000).value? = some 1000 := Binary64.value?_ofNat (by decide)
  obtain ⟨pause, seconds, hpause, hseconds, _, _, hasked⟩ :=
    pauses_bounded ⟨"key", "model"⟩ "prompt" "system" busyState hwire 2 (by decide) hlen
  rw [hasked _ _ _ _ rfl rfl hheader hnumeral hvalue] at hseconds
  have hmin : min (max 0 1000) 30 = (30 : WithBot (WithTop ℚ)) := by
    rw [max_eq_right (Nat.ofNat_nonneg' 1000)]
    exact min_eq_right (Nat.ofNat_le.2 (by decide))
  exact ⟨hwire, pause, hpause, by rw [hseconds, hmin]⟩

end CodeGauge.Groq
