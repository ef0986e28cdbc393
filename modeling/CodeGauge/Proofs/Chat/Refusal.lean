import CodeGauge.Proofs.Chat.Groq
import CodeGauge.Proofs.Except

/-!
This module contains what a client of the Groq service makes of a response that is no answer. The
response is searched for a message before its status counts. The search may fail in several ways,
and none of them gets in the way of the failure that the status means. The text of the body is
needed before that, though, and not every response has one.
-/

namespace CodeGauge.Groq

open Json Text

variable {response : Response} {text : String} {body : List UInt8} {value : Json}
  {failure : Failure} {nest : Nest}


/--
Whether a failure is one that the search for a message is prepared for: a value that is wrong, or
that has no such use.
-/
def isExpected : Failure → Bool
  | .emptyCode | .emptyChunks | .invalid _ => true
  | .undecodable _ | .unencodable _ => true
  | .unreadable fault =>
    match fault with
    | .malformed .. | .tooLong _ => true
    | .tooDeep _ => false
  | .unwritable fault => fault == .tooLong
  | .illegible fault =>
    match fault with
    | .unmarked _ | .noReplacement | .undefined => true
    | .ofBytes | .ofText => false
  | .misused fault =>
    match fault with
    | .noLookup _ | .noText _ => true
    | .notNumeral _ | .tooLong _ | .notANumber => true
    | _ => false
  | _ => false

/--
A field of a value, or what stands in for it if the value does not have it.
-/
def fieldOr (name : String) (default value : Json) : Except Failure Json :=
  match value.lookup name with
  | .error fault => .error (.misused fault)
  | .ok found => .ok (found.getD default)

/--
The search for a message in a body. A given text stands in for a message that is missing.
-/
def search (text : String) (body : List UInt8) : Except Failure Json := do
  let value ← readBody body
  let error ← fieldOr "error" (.obj []) value
  fieldOr "message" (.str text) error

/--
The outcome of the search, where the text also stands in for the message if the search fails in a
way that it is prepared for.
-/
def guardedSearch (text : String) (body : List UInt8) : Except Failure Json :=
  match search text body with
  | .ok message => .ok message
  | .error failure => if isExpected failure then .ok (.str text) else .error failure

/--
The failure that the status of a response means, with what is told about it.
-/
def Response.meaning (response : Response) (detail : String) : Failure :=
  let message := s!"API error ({response.status}): " ++ detail
  if response.status = 429 then
    .rateLimited message response.retryAfter?
  else
    .refused message (some response.status)

/--
The check of the status of a response. It takes what comes of the text of the body before the body
is searched.
-/
def Response.check (response : Response) (text : Except CharsetFault String) :
    Except Failure Unit :=
  if response.status == 200 then
    .ok ()
  else
    match text with
    | .error fault => .error (.illegible fault)
    | .ok text =>
      match guardedSearch text response.body with
      | .error failure => .error failure
      | .ok detail => .error (response.meaning detail.display)

/--
Whether a text is what a body tells about an error: the message in it, or else the given text.
-/
structure Tells (text : String) (body : List UInt8) (detail : String) : Prop where
  message : ∀ fields error value, readBody body = .ok (.obj fields) →
    field? fields "error" = some (.obj error) → field? error "message" = some value →
    detail = value.display
  otherwise : (∀ fields error, readBody body = .ok (.obj fields) →
    field? fields "error" = some (.obj error) → field? error "message" = none) →
    detail = text

theorem message_eq_none {fields inner : Fields}
    (hinner : (field? fields "error").getD (.obj []) = .obj inner)
    (h : ∀ error, field? fields "error" = some (.obj error) → field? error "message" = none) :
    field? inner "message" = none := by
  cases hfield : field? fields "error" with
  | none =>
    rw [hfield] at hinner
    cases hinner
    rfl
  | some found =>
    rw [hfield] at hinner
    cases hinner
    exact h inner hfield

theorem tells_errorDetail {detail : String} (h : errorDetail text body = .ok detail) :
    Tells text body detail := by
  unfold errorDetail at h
  constructor
  . intro fields error value hread herror hvalue
    simp only [hread, herror, Option.getD_some, hvalue] at h
    exact (Except.ok.inj h).symm
  . intro hnone
    split at h
    . next fields hread =>
      split at h
      . next error herror =>
        rw [message_eq_none herror fun error => hnone fields error hread] at h
        exact (Except.ok.inj h).symm
      . exact (Except.ok.inj h).symm
    . cases h
    . exact (Except.ok.inj h).symm

/--
Only a body that is nested too deep tells nothing.
-/
theorem exists_errorDetail (text : String)
    (hdeep : ∀ nest, readBody body ≠ .error (.unreadable (.tooDeep nest))) :
    ∃ detail, errorDetail text body = .ok detail := by
  unfold errorDetail
  split
  . split
    . split <;> exact ⟨_, rfl⟩
    . exact ⟨_, rfl⟩
  . next hread => exact (hdeep _ hread).elim
  . exact ⟨_, rfl⟩

/--
Reading a body fails in a way that the search is prepared for, or because of the nesting.
-/
theorem isExpected_or_of_readBody (h : readBody body = .error failure) :
    isExpected failure ∨ ∃ nest, failure = .unreadable (.tooDeep nest) := by
  unfold readBody at h
  split at h
  . cases h
    exact .inl rfl
  . split at h
    . next fault _ =>
      cases h
      cases fault with
      | tooDeep nest => exact .inr ⟨nest, rfl⟩
      | _ => exact .inl rfl
    . cases h

theorem guardedSearch_of_error (h : readBody body = .error failure) :
    guardedSearch text body
      =
    if isExpected failure then .ok (.str text) else .error failure := by
  unfold guardedSearch search
  rw [h]
  rfl

theorem guardedSearch_of_obj {fields : Fields} (h : readBody body = .ok (.obj fields)) :
    guardedSearch text body
      =
    match (field? fields "error").getD (.obj []) with
    | .obj error => .ok ((field? error "message").getD (.str text))
    | _ => .ok (.str text) := by
  unfold guardedSearch search
  simp only [h, bind, Except.bind, fieldOr, lookup]
  cases (field? fields "error").getD (.obj []) <;> rfl

theorem guardedSearch_of_not_obj (h : readBody body = .ok value)
    (hobject : ∀ fields, value ≠ .obj fields) : guardedSearch text body = .ok (.str text) := by
  unfold guardedSearch search
  rw [h]
  cases value with
  | obj fields => exact (hobject fields rfl).elim
  | _ => rfl

/--
What comes of the guarded search shows as what the body tells.
-/
theorem map_guardedSearch (text : String) (body : List UInt8) :
    (guardedSearch text body).map display = errorDetail text body := by
  unfold errorDetail
  cases hread : readBody body with
  | error failure =>
    rw [guardedSearch_of_error hread]
    obtain hexpected | ⟨nest, rfl⟩ := isExpected_or_of_readBody hread
    . rw [if_pos hexpected]
      split
      . next heq => cases heq
      . next heq =>
        cases heq
        cases hexpected
      . rfl
    . rfl
  | ok value =>
    cases value with
    | obj fields =>
      rw [guardedSearch_of_obj hread]
      dsimp only
      cases (field? fields "error").getD (.obj []) with
      | obj error => cases hmessage : field? error "message" <;> simp [hmessage, Except.map, display]
      | _ => rfl
    | _ => rw [guardedSearch_of_not_obj hread (by simp)]; rfl

theorem check_of_text (h : response.status ≠ 200) (text : String) :
    response.check (.ok text)
      =
    match errorDetail text response.body with
    | .error failure => .error failure
    | .ok detail => .error (response.meaning detail) := by
  unfold Response.check
  rw [if_neg (by rwa [beq_iff_eq]), ← map_guardedSearch]
  dsimp only
  cases guardedSearch text response.body <;> rfl

theorem check_of_fault (h : response.status ≠ 200) (fault : CharsetFault) :
    response.check (.error fault) = .error (.illegible fault) := by
  unfold Response.check
  rw [if_neg (by rwa [beq_iff_eq])]

/--
The check of the status comes to the failure that the client makes of the response.
-/
theorem check_text (h : response.status ≠ 200) :
    response.check response.text = .error response.refusal := by
  unfold Response.refusal
  cases response.text with
  | error fault => exact check_of_fault h fault
  | ok text =>
    rw [check_of_text h]
    dsimp only
    cases errorDetail text response.body with
    | error failure => rfl
    | ok detail => simp only [Response.meaning, beq_iff_eq]

theorem retryable_meaning_iff (response : Response) (detail : String) :
    retryable (response.meaning detail) ↔ response.status = 429 ∨ 500 ≤ response.status := by
  unfold Response.meaning
  split
  . next hlimited => simp [retryable, hlimited]
  . simp [retryable]

theorem receive_of_status_ne (h : response.status ≠ 200) (account : Usage) :
    account.receive (.ok response) = (account, .error response.refusal) := by
  have hstatus : response.status != 200 := by
    rwa [bne_iff_ne]
  exact if_pos hstatus

/--
The check of a response with a status other than 200 fails with this status if the body has a text,
whatever its headers and its body are and whatever text is made of the body. The requests for the
prompt go on if and only if the status gives reason to. If the body has no text, the check fails for
that, and there is no other request. A client does as the check of the text in the encoding that the
response names.
-/
theorem check_of_status_ne (response : Response) (text : Except CharsetFault String)
    (h : response.status ≠ 200) :
    (∀ content, text = .ok content →
      (∀ nest, readBody response.body ≠ .error (.unreadable (.tooDeep nest))) →
      ∃ detail, Tells content response.body detail ∧
        let message := s!"API error ({response.status}): " ++ detail
        let failure : Failure :=
          if response.status = 429 then
            .rateLimited message response.retryAfter?
          else
            .refused message (some response.status)
        response.check text = .error failure
          ∧ (retryable failure ↔ response.status = 429 ∨ 500 ≤ response.status))
    ∧ (∀ fault, text = .error fault →
      response.check text = .error (.illegible fault) ∧ ¬ retryable (.illegible fault))
    ∧ (text = response.text → ∀ account : Usage, ∃ failure,
      response.check text = .error failure
        ∧ account.receive (.ok response) = (account, .error failure)) := by
  refine ⟨?_, ?_, ?_⟩
  . rintro content rfl hdeep
    obtain ⟨detail, hdetail⟩ := exists_errorDetail content hdeep
    refine ⟨detail, tells_errorDetail hdetail, ?_, retryable_meaning_iff response detail⟩
    rw [check_of_text h, hdetail]
    rfl
  . rintro fault rfl
    exact ⟨check_of_fault h fault, Bool.false_ne_true⟩
  . rintro rfl account
    exact ⟨_, check_text h, receive_of_status_ne h account⟩

/--
A response with status 503 whose body is a list.
-/
def busyResponse : Response where
  status := 503
  headers := []
  body := [0x5b, 0x5d]

/--
A response that asks for fewer requests, in plain words that it says are in UTF-16.
-/
def misnamedResponse : Response where
  status := 429
  headers := [("content-type", "text/plain; charset=utf-16")]
  body := Utf8.encode "slow down"

theorem check_of_status_ne_misnamed :
    (∃ failure, busyResponse.check (.ok "[]") = .error failure ∧ retryable failure)
      ∧ misnamedResponse.text = .error (.unmarked 16)
      ∧ misnamedResponse.check misnamedResponse.text = .error (.illegible (.unmarked 16))
      ∧ ¬ retryable (.illegible (.unmarked 16)) := by
  have hread : readBody busyResponse.body = .ok (.arr []) := by rfl
  have htext : misnamedResponse.text = .error (.unmarked 16) := by decide +kernel
  obtain ⟨detail, _, hcheck, hretryable⟩ :=
    (check_of_status_ne busyResponse (.ok "[]") (by decide)).1 "[]" rfl (by simp [hread])
  obtain ⟨hfault, hretry⟩ :=
    (check_of_status_ne misnamedResponse _ (by decide)).2.1 _ htext
  exact ⟨⟨_, hcheck, hretryable.2 (.inr (by decide))⟩, htext, hfault, hretry⟩

end CodeGauge.Groq
