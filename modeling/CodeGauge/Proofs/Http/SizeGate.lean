import CodeGauge.Proofs.Http.Analyze
import CodeGauge.Proofs.Number.Numeral

/-!
This module contains which requests are refused for their size: those that announce too large a
body, whatever they bring.
-/

namespace CodeGauge.Http

variable {limit : Int} {request : Request} {service : Service} {route : Route} {s : String}


/--
Whether a request announces a body of a size: its first content length is the numeral of this size,
with nothing but digits, and it is not too long to be read.
-/
def Request.Announces (request : Request) (n : Nat) : Prop :=
  ∃ size, request.header? "content-length" = some size ∧ size.toList ≠ []
    ∧ (∀ c ∈ size.toList, c.isDigit) ∧ size.toList.length ≤ maxIntDigits
    ∧ Nat.ofDigitChars 10 size.toList 0 = n

theorem isPlain_of_looksNumeric (h : looksNumeric s) : ∀ c ∈ s.toList, Numeral.isPlain c := by
  intro c hc
  simp only [looksNumeric, Bool.and_eq_true, List.all_eq_true, Bool.or_eq_true, beq_iff_eq] at h
  obtain ((hdigit | rfl) | rfl) | rfl := h.2 c hc
  . exact Numeral.isPlain_of_isDigit hdigit
  . decide
  . decide
  . decide

theorem looksNumeric_of_isDigit (hne : s.toList ≠ []) (h : ∀ c ∈ s.toList, c.isDigit) :
    looksNumeric s := by
  have hempty : s.isEmpty = false := by
    rw [String.isEmpty_eq_false_iff]
    rintro rfl
    exact hne rfl
  simp only [looksNumeric, hempty, Bool.not_false, Bool.true_and, List.all_eq_true, Bool.or_eq_true]
  intro c hc
  exact .inl (.inl (.inl (h c hc)))

theorem gate_eq_refuse_iff :
    gate limit request = .refuse
      ↔
    request.method ∈ bodyMethods ∧ ∃ n : Nat, request.Announces n ∧ limit < n := by
  unfold gate Request.Announces
  cases request.header? "content-length" with
  | none => simp
  | some size =>
    dsimp only
    constructor
    . intro h
      split at h
      . next hlooks =>
        rw [Bool.and_eq_true, List.contains_iff_mem] at hlooks
        split at h
        . next hread =>
          rw [Numeral.int_eq_ok_iff (isPlain_of_looksNumeric hlooks.2)] at hread
          obtain ⟨hne, hdigits, hshort, rfl⟩ := hread
          split at h
          . next hlarge =>
            exact ⟨hlooks.1, _, ⟨size, rfl, hne, hdigits, hshort, rfl⟩, hlarge⟩
          . cases h
        . cases h
      . cases h
    . rintro ⟨hmethod, _, ⟨_, ⟨⟩, hne, hdigits, hshort, rfl⟩, hlarge⟩
      have hlooks := looksNumeric_of_isDigit hne hdigits
      have hread := (Numeral.int_eq_ok_iff (isPlain_of_looksNumeric hlooks)).2
        ⟨hne, hdigits, hshort, rfl⟩
      rw [if_pos (by simp [hmethod, hlooks]), hread]
      exact if_pos hlarge

theorem preflight?_of_refuse (hgate : gate limit request = .refuse) :
    OriginPolicy.Preflight.ofRequest? request = none := by
  have hmethod := (gate_eq_refuse_iff.1 hgate).1
  apply preflight?_eq_none
  intro hoptions
  rw [hoptions] at hmethod
  exact absurd hmethod (by decide)

theorem status_dispatch_ne : (service.dispatch request).response.status ≠ 413 := by
  apply of_dispatch (P := fun handled => handled.response.status ≠ 413)
  . intro body
    unfold Service.analyze
    split <;> nofun
  . apply of_analyzeByModel (P := fun handled => handled.response.status ≠ 413)
    . intro status fields queries hstatus
      exact hstatus
    . nofun
  . intro response hstatus
    exact hstatus

theorem status_answer_ne (policy : OriginPolicy) (preflight : OriginPolicy.Preflight) :
    (policy.answer preflight).status ≠ 413 := by
  unfold OriginPolicy.answer
  dsimp only
  split <;> nofun

theorem guarded_of_refuse (hgate : gate service.settings.maxRequestSize request = .refuse) :
    service.guarded request = ⟨tooLarge service.settings.maxRequestSize, [], none⟩ := by
  simp only [Service.guarded, hgate]

theorem status_guarded_iff :
    (service.guarded request).response.status = 413
      ↔
    gate service.settings.maxRequestSize request = .refuse := by
  constructor
  . intro h
    unfold Service.guarded at h
    dsimp only at h
    split at h
    . exact (status_dispatch_ne h).elim
    . next hgate => exact hgate
    . cases h
  . intro hgate
    rw [guarded_of_refuse hgate]
    rfl

theorem status_handle_iff :
    (service.handle request).response.status = 413
      ↔
    gate service.settings.maxRequestSize request = .refuse := by
  cases hpreflight : OriginPolicy.Preflight.ofRequest? request with
  | none =>
    obtain ⟨headers, hhandle⟩ := handle_eq service hpreflight
    rw [hhandle]
    exact status_guarded_iff
  | some preflight =>
    have hhandle : service.handle request
        = ⟨(OriginPolicy.ofSettings service.settings).answer preflight, [], none⟩ := by
      unfold Service.handle
      rw [hpreflight]
    rw [hhandle]
    constructor
    . intro h
      exact (status_answer_ne _ _ h).elim
    . intro hgate
      rw [preflight?_of_refuse hgate] at hpreflight
      cases hpreflight

/--
A request is refused for its size if and only if it brings a body and announces one above the limit,
and then nothing else is done with it. The body itself does not count.
-/
theorem handle_tooLarge (service : Service) (request : Request) :
    let limit := service.settings.maxRequestSize
    let handled := service.handle request
    (handled.response.status = 413
        ↔ request.method ∈ bodyMethods ∧ ∃ n : Nat, request.Announces n ∧ limit < n)
      ∧ (handled.response.status = 413 →
        handled.response.Answers 413 [
          ("error", .str "request_too_large"),
          ("message", .str s!"Request body exceeds {limit} bytes")]
          ∧ handled.queries = [] ∧ handled.failure = none)
      ∧ ∀ body, (service.handle { request with body := body }).response.status = 413
        ↔ handled.response.status = 413 := by
  intro limit handled
  refine ⟨?_, ?_, ?_⟩
  . rw [status_handle_iff, gate_eq_refuse_iff]
  . intro hstatus
    have hgate := status_handle_iff.1 hstatus
    obtain ⟨headers, hhandled : handled = _⟩ := handle_eq service (preflight?_of_refuse hgate)
    rw [guarded_of_refuse hgate] at hhandled
    rw [hhandled]
    exact ⟨⟨rfl, rfl⟩, rfl, rfl⟩
  . intro body
    rw [status_handle_iff, status_handle_iff]
    rfl

/--
A request whose body is longer than the standard settings allow, but which does not say so.
-/
def silentRequest : Request :=
  { shortRequest with body := shortRequest.body ++ List.replicate 1048576 0x20 }

/--
A request that announces such a body.
-/
def announcedRequest : Request :=
  { silentRequest with headers := ("content-length", "1048577") :: shortRequest.headers }

theorem handle_tooLarge_announced :
    ruleService.settings.maxRequestSize < silentRequest.body.length
      ∧ (ruleService.handle silentRequest).response.status ≠ 413
      ∧ (ruleService.handle announcedRequest).response.Answers 413 [
        ("error", .str "request_too_large"),
        ("message", .str "Request body exceeds 1048576 bytes")] := by
  have hsilent := handle_tooLarge ruleService silentRequest
  have hannounced := handle_tooLarge ruleService announcedRequest
  have hsize : announcedRequest.Announces 1048577 :=
    ⟨"1048577", rfl, by decide, List.all_eq_true.1 (by decide), by decide, by decide⟩
  refine ⟨?_, ?_, ?_⟩
  . have hlimit : ruleService.settings.maxRequestSize = 1048576 := rfl
    have hpos : 0 < shortRequest.body.length := by decide +kernel
    rw [hlimit, silentRequest, List.length_append, List.length_replicate]
    omega
  . intro hstatus
    obtain ⟨_, n, ⟨size, hheader, _⟩, _⟩ := hsilent.1.1 hstatus
    cases hheader
  . exact (hannounced.2.1 (hannounced.1.2 ⟨by decide, _, hsize, by decide⟩)).1

end CodeGauge.Http
