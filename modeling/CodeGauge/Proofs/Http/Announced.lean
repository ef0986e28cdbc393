import CodeGauge.Proofs.Http.SizeGate

/-!
This module contains what an announced size does to a request that brings a body. Apart from the
sizes that look like numbers but cannot be read, with which the gate fails, it either leads to the
refusal of the request or makes no difference.
-/

namespace CodeGauge.Http

variable {limit : Int} {request : Request} {service : Service} {route : Route} {size name : String}
  {fault : NumeralFault}


/--
The same request without an announced size.
-/
def Request.unannounced (request : Request) : Request :=
  { request with headers := request.headers.filter fun header => header.1 != "content-length" }

theorem header?_unannounced (hname : name ≠ "content-length") :
    request.unannounced.header? name = request.header? name := by
  simp only [Request.header?, Request.unannounced]
  induction request.headers with
  | nil => rfl
  | cons header headers ih =>
    obtain ⟨other, value⟩ := header
    by_cases hother : other = "content-length"
    . subst hother
      simp [List.lookup_cons, beq_false_of_ne hname, ih]
    . simp [List.lookup_cons, hother, ih]

theorem header?_unannounced_length : request.unannounced.header? "content-length" = none := by
  rw [Request.header?, List.lookup_eq_none_iff]
  simp [Request.unannounced, @eq_comm _ "content-length"]

theorem gate_unannounced : gate limit request.unannounced = .pass := by
  simp only [gate, header?_unannounced_length]

theorem serve_unannounced :
    service.serve request.unannounced route = service.serve request route := by
  have hbody : AnalyzeRequest.ofRequest service.settings.maxCodeLength request.unannounced
      = AnalyzeRequest.ofRequest service.settings.maxCodeLength request := by
    unfold AnalyzeRequest.ofRequest
    rw [header?_unannounced (by decide)]
    rfl
  cases route with
  | front => rfl
  | health => rfl
  | analyze => simp only [Service.serve, Service.serve.withBody, hbody]
  | analyzeByModel => simp only [Service.serve, Service.serve.withBody, hbody]

theorem dispatch_unannounced : service.dispatch request.unannounced = service.dispatch request := by
  simp only [Service.dispatch, serve_unannounced]
  rfl

theorem guarded_eq_unannounced (hgate : gate service.settings.maxRequestSize request = .pass) :
    service.guarded request = service.guarded request.unannounced := by
  rw [guarded_of_pass hgate, guarded_of_pass gate_unannounced, dispatch_unannounced]

/--
A request that the gate lets pass is answered as if it did not announce a size.
-/
theorem handle_eq_unannounced (hmethod : request.method ≠ "OPTIONS")
    (hgate : gate service.settings.maxRequestSize request = .pass) :
    service.handle request = service.handle request.unannounced := by
  have hunannounced : request.unannounced.method ≠ "OPTIONS" := hmethod
  unfold Service.handle
  rw [preflight?_eq_none hmethod, preflight?_eq_none hunannounced,
    guarded_eq_unannounced hgate, header?_unannounced (by decide)]

/--
The raised digits, which look like digits but stand in no numeral.
-/
def raisedDigits : List Char := ['²', '³', '¹']

/--
Whether a size looks like a number but cannot be read as one: some of its digits are raised, or
there are too many.
-/
structure Confounds (size : String) : Prop where
  ne_nil : size.toList ≠ []
  looks : ∀ c ∈ size.toList, c.isDigit ∨ c ∈ raisedDigits
  unreadable : (∃ c ∈ size.toList, c ∈ raisedDigits) ∨ maxIntDigits < size.toList.length

/--
Whether a size is the numeral of a number, with nothing but ASCII digits.
-/
def Writes (size : String) (n : Nat) : Prop :=
  size.toList ≠ [] ∧ (∀ c ∈ size.toList, c.isDigit) ∧ Nat.ofDigitChars 10 size.toList 0 = n

theorem looksNumeric_iff :
    looksNumeric size ↔ size.toList ≠ [] ∧ ∀ c ∈ size.toList, c.isDigit ∨ c ∈ raisedDigits := by
  simp [looksNumeric, raisedDigits, or_assoc]

/--
Of the sizes that look like numbers, those confound the gate that are not read as one.
-/
theorem confounds_iff :
    Confounds size ↔ looksNumeric size ∧ ∀ i, Numeral.int size ≠ .ok i := by
  constructor
  . rintro ⟨hne, hlooks, hunreadable⟩
    have hnumeric := looksNumeric_iff.2 ⟨hne, hlooks⟩
    refine ⟨hnumeric, ?_⟩
    intro i hread
    obtain ⟨_, hdigits, hshort, _⟩ :=
      (Numeral.int_eq_ok_iff (isPlain_of_looksNumeric hnumeric)).1 hread
    rcases hunreadable with ⟨c, hc, hraised⟩ | hlong
    . have hnot : ∀ c ∈ raisedDigits, c.isDigit = false := by decide
      have hdigit := hdigits c hc
      rw [hnot c hraised] at hdigit
      cases hdigit
    . omega
  . rintro ⟨hnumeric, hread⟩
    obtain ⟨hne, hlooks⟩ := looksNumeric_iff.1 hnumeric
    refine ⟨hne, hlooks, ?_⟩
    by_contra hreadable
    rw [not_or, not_lt] at hreadable
    have hdigits : ∀ c ∈ size.toList, c.isDigit := by
      intro c hc
      rcases hlooks c hc with hdigit | hraised
      . exact hdigit
      . exact (hreadable.1 ⟨c, hc, hraised⟩).elim
    exact hread _ ((Numeral.int_eq_ok_iff (isPlain_of_looksNumeric hnumeric)).2
      ⟨hne, hdigits, hreadable.2, rfl⟩)

theorem exists_gate_eq_fail_iff (hmethod : request.method ∈ bodyMethods)
    (hsize : request.header? "content-length" = some size) :
    (∃ announced fault, gate limit request = .fail announced fault) ↔ Confounds size := by
  rw [confounds_iff]
  unfold gate
  simp only [hsize, List.contains_iff_mem.2 hmethod, Bool.true_and]
  split
  . next hnumeric =>
    cases Numeral.int size with
    | ok i =>
      dsimp only
      split <;> simp
    | error fault => simp [hnumeric]
  . next hnumeric => simp [hnumeric]

theorem announces_of_writes {n : Nat} (hsize : request.header? "content-length" = some size)
    (hwrites : Writes size n) (hread : ¬Confounds size) : request.Announces n := by
  obtain ⟨hne, hdigits, hvalue⟩ := hwrites
  refine ⟨size, hsize, hne, hdigits, ?_, hvalue⟩
  by_contra hlong
  exact hread ⟨hne, fun c hc => .inl (hdigits c hc), .inr (not_le.1 hlong)⟩

theorem writes_of_announces {n : Nat} (hsize : request.header? "content-length" = some size)
    (h : request.Announces n) : Writes size n := by
  obtain ⟨other, hother, hne, hdigits, _, hvalue⟩ := h
  rw [hsize] at hother
  cases hother
  exact ⟨hne, hdigits, hvalue⟩

theorem gate_eq_pass (hmethod : request.method ∈ bodyMethods)
    (hsize : request.header? "content-length" = some size) (hread : ¬Confounds size)
    (hsmall : ∀ n : Nat, Writes size n → n ≤ limit) : gate limit request = .pass := by
  cases hgate : gate limit request with
  | pass => rfl
  | refuse =>
    obtain ⟨_, n, hannounces, hlarge⟩ := gate_eq_refuse_iff.1 hgate
    have hle := hsmall n (writes_of_announces hsize hannounces)
    omega
  | fail announced fault =>
    exact (hread ((exists_gate_eq_fail_iff hmethod hsize).1 ⟨announced, fault, hgate⟩)).elim

theorem guarded_of_fail {announced : String} {fault : NumeralFault}
    (hgate : gate service.settings.maxRequestSize request = .fail announced fault) :
    ∃ fault, service.guarded request
      = .crash [] (.misused fault) := by
  simp only [Service.guarded, hgate]
  exact ⟨_, rfl⟩

theorem failure_guarded_iff :
    (∃ fault, (service.guarded request).failure = some (.misused fault))
      ↔
    ∃ announced fault, gate service.settings.maxRequestSize request = .fail announced fault := by
  cases hgate : gate service.settings.maxRequestSize request with
  | pass => simp [guarded_of_pass hgate, failure_dispatch_ne]
  | refuse => simp [guarded_of_refuse hgate]
  | fail announced fault =>
    obtain ⟨_, hguarded⟩ := guarded_of_fail hgate
    simp [hguarded, Handled.crash]

/--
What the announced size does to a request that brings a body. If the gate can read it or takes no
notice of it, then the request is refused for a number above the limit, and is answered as if the
size were not announced otherwise. The sizes that look like numbers and cannot be read are the only
ones with which the gate fails.
-/
theorem handle_announced (service : Service) (hmethod : request.method ∈ bodyMethods)
    (hsize : request.header? "content-length" = some size) :
    let limit := service.settings.maxRequestSize
    let handled := service.handle request
    ((∃ fault, handled.failure = some (.misused fault)) ↔ Confounds size)
      ∧ (Confounds size →
        handled.response.Answers 500 [("error", .str "Internal server error")]
          ∧ handled.queries = [])
      ∧ (¬Confounds size → (∃ n : Nat, Writes size n ∧ limit < n) →
        handled.response.Answers 413 [
          ("error", .str "request_too_large"),
          ("message", .str s!"Request body exceeds {limit} bytes")]
          ∧ handled.queries = [] ∧ handled.failure = none)
      ∧ (¬Confounds size → (∀ n : Nat, Writes size n → n ≤ limit) →
        handled = service.handle request.unannounced) := by
  intro limit handled
  have hoptions : request.method ≠ "OPTIONS" := by
    intro hmethod'
    rw [hmethod'] at hmethod
    exact absurd hmethod (by decide)
  obtain ⟨headers, hhandled : handled = _⟩ := handle_eq service (preflight?_eq_none hoptions)
  refine ⟨?_, ?_, ?_, ?_⟩
  . rw [hhandled, ← exists_gate_eq_fail_iff hmethod hsize]
    exact failure_guarded_iff
  . intro hconfounds
    obtain ⟨announced, fault, hgate⟩ := (exists_gate_eq_fail_iff hmethod hsize).2 hconfounds
    obtain ⟨_, hguarded⟩ := guarded_of_fail hgate
    rw [hhandled, hguarded]
    exact ⟨⟨rfl, rfl⟩, rfl⟩
  . rintro hread ⟨n, hwrites, hlarge⟩
    have hgate := gate_eq_refuse_iff.2 ⟨hmethod, n, announces_of_writes hsize hwrites hread, hlarge⟩
    rw [hhandled, guarded_of_refuse hgate]
    exact ⟨⟨rfl, rfl⟩, rfl, rfl⟩
  . intro hread hsmall
    exact handle_eq_unannounced hoptions (gate_eq_pass hmethod hsize hread hsmall)

/--
A request that announces a raised two.
-/
def raisedRequest : Request :=
  { shortRequest with headers := ("content-length", "²") :: shortRequest.headers }

/--
A request that announces a single byte, with a plus sign.
-/
def signedRequest : Request :=
  { shortRequest with headers := ("content-length", "+1") :: shortRequest.headers }

theorem handle_announced_raised :
    (ruleService.handle raisedRequest).response.Answers 500
        [("error", .str "Internal server error")]
      ∧ ruleService.handle signedRequest = ruleService.handle signedRequest.unannounced := by
  have hraised : Confounds "²" :=
    ⟨by decide, by decide, .inl ⟨'²', by decide, by decide⟩⟩
  refine ⟨((handle_announced ruleService (by decide) rfl).2.1 hraised).1, ?_⟩
  have hsize : signedRequest.header? "content-length" = some "+1" := rfl
  apply (handle_announced ruleService (by decide) hsize).2.2.2
  . intro h
    cases h.looks '+' (by decide) <;> contradiction
  . intro n hn
    cases hn.2.1 '+' (by decide)

end CodeGauge.Http
