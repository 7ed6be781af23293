import CodeFlow.Flow.Consent
import CodeFlow.Flow.Exchange
import CodeFlow.Proofs.Flow.Conversation

/-!
# Trips

Each call of a client makes at most one request: what it asks is settled before anything is sent,
and what it yields is read from the one reply. A `Trip` holds these two halves apart, and the six
calls of a login and that of a registration are shown to be trips. Behind this module no proof
opens a call again.
-/

namespace CodeFlow

open CodeFlow.Http

/-! ## One request and its reply -/

/-- One request and what is read from its answer. A request that cannot be made is an error. -/
structure Trip (α : Type) where
  step : Step
  request : Except FlowError Request
  /-- What is logged about an answer. -/
  remark : Answer → Option Warning
  /-- What the answer to a request yields. -/
  read : Request → Answer → Except FlowError α

namespace Trip

variable {α : Type}

/-- What the reply to a request yields. -/
def outcome (t : Trip α) (q : Request) : Reply → Except FlowError α
  | .answer a => t.read q a
  | .unreachable => .error (.network t.step .unreachable)
  | .dropped => .error (.network t.step .closed)
  | .silent => .error (.protocol t.step .timeout)

/-- What is logged about a reply. -/
def remarks (t : Trip α) : Reply → List Warning
  | .answer a => (t.remark a).toList
  | _ => []

/-- A result behind a warning, if there is one. -/
def behind (w : Option Warning) (a : α) : Dialogue α :=
  match w with
  | none => .done a
  | some w => .warn w (.done a)

/-- What follows the request. -/
def rest (t : Trip α) (q : Request) : Reply → Dialogue (Except FlowError α)
  | .answer a => behind (t.remark a) (t.read q a)
  | reply => .done (t.outcome q reply)

/-- The session that makes a trip. -/
def session (t : Trip α) : Session α :=
  match t.request with
  | .error e => .mk (.done (.error e))
  | .ok q => .mk (.send q (t.rest q))

theorem outcome_eq_ok_iff {t : Trip α} {q : Request} {reply : Reply} {v : α} :
    t.outcome q reply = .ok v ↔ ∃ a, reply = .answer a ∧ t.read q a = .ok v := by
  cases reply <;> simp [outcome]

/-- What a trip yields when it goes wrong is an error at its step, if reading keeps to that. -/
theorem outcome_error_step {t : Trip α} {q : Request} {reply : Reply} {e : FlowError}
    (hread : ∀ a e, t.read q a = .error e → e.step? = some t.step)
    (h : t.outcome q reply = .error e) : e.step? = some t.step := by
  cases reply with
  | answer a => exact hread a e h
  | unreachable | dropped | silent => cases h; rfl

theorem holds_rest_iff {t : Trip α} {q : Request} {reply : Reply} {log : Log} {ws : List Warning}
    {result : Except FlowError α} :
    (t.rest q reply).Holds log ws result ↔
      log = [] ∧ ws = t.remarks reply ∧ result = t.outcome q reply := by
  cases reply with
  | answer a =>
    simp only [rest, remarks, outcome, behind]
    cases t.remark a <;> simp [Dialogue.holds_warn_iff, and_left_comm]
  | unreachable | dropped | silent => exact Dialogue.holds_done_iff

/-- A trip that is made is refused before anything is sent, or leaves one entry in the log. -/
theorem holds_session_iff {t : Trip α} {log : Log} {ws : List Warning}
    {result : Except FlowError α} :
    t.session.run.Holds log ws result ↔
      (∃ e, t.request = .error e ∧ log = [] ∧ ws = [] ∧ result = .error e) ∨
      ∃ q reply, t.request = .ok q ∧ log = [(q, reply)] ∧ ws = t.remarks reply ∧
        result = t.outcome q reply := by
  unfold session
  cases t.request with
  | error e => simp [ExceptT.run, ExceptT.mk]
  | ok q =>
    simp only [ExceptT.run, ExceptT.mk, Dialogue.holds_send_iff, holds_rest_iff]
    constructor
    · rintro ⟨reply, _, rfl, rfl, rfl, rfl⟩
      exact .inr ⟨q, reply, rfl, rfl, rfl, rfl⟩
    · rintro (⟨e, he, -⟩ | ⟨_, reply, hq, rfl, rfl, rfl⟩)
      · cases he
      · cases hq
        exact ⟨reply, [], rfl, rfl, rfl, rfl⟩

/-- The request of a trip is refused, or the reply to it is of no use. -/
def Fails (t : Trip α) (reply : Reply) (e : FlowError) : Prop :=
  t.request = .error e ∨ ∃ q, t.request = .ok q ∧ t.outcome q reply = .error e

/-- The only request of a trip, if it can be made. -/
def requests (t : Trip α) : List Request :=
  match t.request with
  | .ok q => [q]
  | .error _ => []

theorem requests_of_request {t : Trip α} {q : Request} (h : t.request = .ok q) :
    t.requests = [q] := by
  rw [requests, h]

theorem mem_requests_iff {t : Trip α} {q : Request} :
    q ∈ t.requests ↔ t.request = .ok q ∧ t.requests = [q] := by
  unfold requests
  cases t.request <;> simp [eq_comm]

theorem requests_play (t : Trip α) (script : List Reply) :
    (t.session.run.play script).requests = t.requests := by
  have hholds := Dialogue.holds_play t.session.run script
  rw [← Dialogue.Transcript.map_fst_log _ script]
  unfold requests
  rcases holds_session_iff.mp hholds with ⟨e, hrequest, hlog, -⟩ | ⟨q, reply, hrequest, hlog, -⟩
  · rw [hlog, hrequest]
    rfl
  · rw [hlog, hrequest]
    rfl

end Trip

/-! ## What is settled before sending -/

/-- The checks that a request has to pass before it is sent. -/
def Client.checked (c : Client) (step : Step) (r : Request) : Except FlowError Request :=
  if !r.isWellFormed then .error (.network step .refused)
  else if c.timeout = 0 then .error (.protocol step .timeout)
  else .ok r

/-- A request passes the checks. -/
structure Client.Admits (c : Client) (r : Request) : Prop where
  isWellFormed : r.isWellFormed = true
  timeout : c.timeout ≠ 0

/-- Why a request is not sent: it has not the form of one, or there is no time for it. -/
inductive Unsent (c : Client) (step : Step) (q : Request) : FlowError → Prop where
  | malformed : q.isWellFormed = false → Unsent c step q (.network step .refused)
  | late : q.isWellFormed = true → c.timeout = 0 → Unsent c step q (.protocol step .timeout)

/-- A client can ask an address without cookies: it has time left, speaks the scheme, can name the
host, and the address is not too long. -/
def Client.Reaches (c : Client) (u : Url) : Prop :=
  c.timeout ≠ 0 ∧ isSpoken u.scheme = true ∧ hasSendableHost u = true ∧
    (bareUrl u).write.length ≤ addressLimit

instance (c : Client) (u : Url) : Decidable (c.Reaches u) :=
  inferInstanceAs (Decidable (_ ∧ _ ∧ _ ∧ _))

/-- Without cookies, only the address decides whether a request passes the checks. -/
theorem Client.admits_iff_reaches {c : Client} {q : Request} (h : q.cookie = none) :
    c.Admits q ↔ c.Reaches q.url := by
  have hformed : q.isWellFormed = true ↔ isSpoken q.url.scheme = true ∧
      hasSendableHost q.url = true ∧ (bareUrl q.url).write.length ≤ addressLimit := by
    simp [Request.isWellFormed, h, and_assoc]
  constructor
  · intro hadmits
    exact ⟨hadmits.timeout, hformed.mp hadmits.isWellFormed⟩
  · rintro ⟨htime, hrest⟩
    exact ⟨hformed.mpr hrest, htime⟩

theorem Client.checked_eq_ok_iff {c : Client} {step : Step} {r q : Request} :
    c.checked step r = .ok q ↔ c.Admits q ∧ q = r := by
  unfold Client.checked
  constructor
  · intro h
    split at h
    · cases h
    · rename_i hw
      split at h
      · cases h
      · rename_i ht
        cases h
        exact ⟨⟨by simpa using hw, ht⟩, rfl⟩
  · rintro ⟨⟨hw, ht⟩, rfl⟩
    simp [hw, ht]

theorem Client.checked_eq_error_iff {c : Client} {step : Step} {q : Request} {e : FlowError} :
    c.checked step q = .error e ↔ Unsent c step q e := by
  unfold Client.checked
  constructor
  · intro h
    split at h
    · rename_i hformed
      cases h
      exact .malformed (by simpa using hformed)
    · rename_i hformed
      split at h
      · rename_i htime
        cases h
        exact .late (by simpa using hformed) htime
      · cases h
  · rintro (hformed | ⟨hformed, htime⟩)
    · simp [hformed]
    · simp [hformed, htime]

theorem Unsent.step {c : Client} {step : Step} {q : Request} {e : FlowError}
    (h : Unsent c step q e) : e.step? = some step := by
  cases h <;> rfl

/-- The address of an endpoint, or the refusal of its text. -/
def addressed (step : Step) (endpoint : String) : Except FlowError Url :=
  match Url.parse endpoint with
  | .ok url => .ok url
  | .error _ => .error (.network step .refused)

theorem addressed_eq_error_iff {step : Step} {endpoint : String} {e : FlowError} :
    addressed step endpoint = .error e ↔
      (∃ fault, Url.parse endpoint = .error fault) ∧ e = .network step .refused := by
  unfold addressed
  cases Url.parse endpoint <;> simp [eq_comm]

theorem addressed_eq_ok_iff {step : Step} {endpoint : String} {url : Url} :
    addressed step endpoint = .ok url ↔ Url.parse endpoint = .ok url := by
  unfold addressed
  cases Url.parse endpoint <;> simp

/-- What is read at a step. -/
def atStep {α : Type} (step : Step) : Except ProtocolError α → Except FlowError α
  | .ok a => .ok a
  | .error e => .error (.protocol step e)

theorem atStep_eq_ok_iff {α : Type} {step : Step} {result : Except ProtocolError α} {a : α} :
    atStep step result = .ok a ↔ result = .ok a := by
  cases result <;> simp [atStep]

theorem atStep_eq_error_iff {α : Type} {step : Step} {result : Except ProtocolError α}
    {e : FlowError} :
    atStep step result = .error e ↔ ∃ fault, result = .error fault ∧ e = .protocol step fault := by
  cases result <;> simp [atStep, eq_comm]

theorem atStep_eq_protocol_iff {α : Type} {step : Step} {result : Except ProtocolError α}
    {fault : ProtocolError} :
    atStep step result = .error (.protocol step fault) ↔ result = .error fault := by
  cases result <;> simp [atStep]

/-- What two steps yield one after the other comes from both. -/
theorem bind_eq_ok_iff {ε α β : Type} {x : Except ε α} {f : α → Except ε β} {b : β} :
    x.bind f = .ok b ↔ ∃ a, x = .ok a ∧ f a = .ok b := by
  cases x <;> simp [Except.bind]

/-- A fault of two steps is a fault of the first or of the second. -/
theorem bind_eq_error_iff {ε α β : Type} {x : Except ε α} {f : α → Except ε β} {e : ε} :
    x.bind f = .error e ↔ x = .error e ∨ ∃ a, x = .ok a ∧ f a = .error e := by
  cases x <;> simp [Except.bind]

/-- Why an endpoint is not asked: it cannot be read, or the request to it is not sent. -/
inductive Unasked (c : Client) (step : Step) (endpoint : String) (f : Url → Request) :
    FlowError → Prop where
  | unreadable {fault : Url.Fault} :
      Url.parse endpoint = .error fault → Unasked c step endpoint f (.network step .refused)
  | unsent {url : Url} {e : FlowError} :
      Url.parse endpoint = .ok url → Unsent c step (f url) e → Unasked c step endpoint f e

theorem Unasked.step {c : Client} {step : Step} {endpoint : String} {f : Url → Request}
    {e : FlowError} (h : Unasked c step endpoint f e) : e.step? = some step := by
  cases h with
  | unreadable => rfl
  | unsent _ hunsent => exact hunsent.step

/-- The address of an endpoint and the checks together settle why it is not asked. -/
theorem Client.addressed_bind_eq_error_iff {c : Client} {step : Step} {endpoint : String}
    (f : Url → Request) {e : FlowError} :
    ((addressed step endpoint).bind fun url => c.checked step (f url)) = .error e ↔
      Unasked c step endpoint f e := by
  simp only [bind_eq_error_iff, addressed_eq_error_iff, addressed_eq_ok_iff, checked_eq_error_iff]
  constructor
  · rintro (⟨⟨fault, hfault⟩, rfl⟩ | ⟨url, hurl, hunsent⟩)
    · exact .unreadable hfault
    · exact .unsent hurl hunsent
  · rintro (hfault | ⟨hurl, hunsent⟩)
    · exact .inl ⟨⟨_, hfault⟩, rfl⟩
    · exact .inr ⟨_, hurl, hunsent⟩

theorem map_eq_error_iff {ε α β : Type} {x : Except ε α} {f : α → β} {e : ε} :
    x.map f = .error e ↔ x = .error e := by
  cases x <;> simp [Except.map]

theorem Session.run_ofRead {α : Type} (step : Step) (result : Except ProtocolError α) :
    (Session.ofRead step result).run = .done (atStep step result) := by
  cases result <;> rfl

/-- Sending a request and reading its answer is a trip. -/
theorem Client.send_bind_eq {α : Type} {c : Client} {t : Trip α} {r : Request}
    {k : Answer → Session α} (hrequest : t.request = c.checked t.step r)
    (hread : ∀ a, (k a).run = Trip.behind (t.remark a) (t.read r a)) :
    c.send t.step r >>= k = t.session := by
  unfold Trip.session
  rw [hrequest]
  unfold Client.send Client.checked
  split
  · rfl
  · split
    · rfl
    -- both sides send the request; they agree on each kind of reply
    · refine congrArg (Dialogue.send r) (funext fun reply => ?_)
      cases reply with
      | answer a => exact hread a
      | unreachable | dropped | silent => rfl

/-! ## The trips of a login -/

/-- What is read from a redirect that answers a request. -/
def readThrough {α : Type} (step : Step) (read : Redirect → Except ProtocolError α) (q : Request)
    (a : Answer) : Except FlowError α :=
  atStep step ((readRedirect q.url a).bind read)

/-- What is read from a JSON body. -/
def readBody {α : Type} (step : Step) (form : Json.Form α) (a : Answer) : Except FlowError α :=
  match a.text? with
  | none => .error (.network step .interrupted)
  | some body => atStep step (readJson form a.status a.isSuccess body)

theorem readBody_error_step {α : Type} {step : Step} {form : Json.Form α} {a : Answer}
    {e : FlowError} (h : readBody step form a = .error e) : e.step? = some step := by
  unfold readBody at h
  split at h
  · cases h
    rfl
  · obtain ⟨fault, -, rfl⟩ := atStep_eq_error_iff.mp h
    rfl

theorem run_expectJson {α : Type} (step : Step) (form : Json.Form α) (a : Answer) :
    (expectJson step form a).run = .done (readBody step form a) := by
  unfold expectJson readBody
  cases a.text? with
  | none => rfl
  | some body => exact Session.run_ofRead ..

namespace Client

/-- Asking the provider to authorize a login. -/
def authorizeTrip (c : Client) (r : AuthorizationRequest) : Trip AuthorizationGrant where
  step := .authorize
  request := (addressed .authorize r.endpoint).bind fun url =>
    c.checked .authorize ⟨.get, url.addPairs r.query, none, none⟩
  remark _ := none
  read := readThrough .authorize readGrant

theorem authorizeTrip_request_iff {c : Client} {r : AuthorizationRequest} {q : Request} :
    (c.authorizeTrip r).request = .ok q ↔
      ∃ url, Url.parse r.endpoint = .ok url ∧ c.Admits q ∧
        q = ⟨.get, url.addPairs r.query, none, none⟩ := by
  simp only [authorizeTrip, bind_eq_ok_iff, addressed_eq_ok_iff, checked_eq_ok_iff]

/-- The request that asks an endpoint with parameters. -/
def asking (c : Client) (step : Step) (endpoint : String) (ps : List (String × String)) :
    Except FlowError Request :=
  (addressed step endpoint).bind fun url => c.checked step ⟨.get, url.addPairs ps, none, none⟩

theorem asking_eq_ok_iff {c : Client} {step : Step} {endpoint : String}
    {ps : List (String × String)} {q : Request} :
    c.asking step endpoint ps = .ok q ↔
      ∃ url, Url.parse endpoint = .ok url ∧ c.Admits q ∧
        q = ⟨.get, url.addPairs ps, none, none⟩ := by
  simp only [asking, bind_eq_ok_iff, addressed_eq_ok_iff, checked_eq_ok_iff]

theorem asking_eq_error_iff {c : Client} {step : Step} {endpoint : String}
    {ps : List (String × String)} {e : FlowError} :
    c.asking step endpoint ps = .error e ↔
      Unasked c step endpoint (fun url => ⟨.get, url.addPairs ps, none, none⟩) e :=
  addressed_bind_eq_error_iff fun url => ⟨.get, url.addPairs ps, none, none⟩

/-- Asking with parameters and reading the answer is a trip. -/
theorem get_bind_eq {α : Type} {c : Client} {t : Trip α} {endpoint : String}
    {ps : List (String × String)} {k : Url × Answer → Session α}
    (hrequest : t.request = c.asking t.step endpoint ps)
    (hread : ∀ url a, (k (url, a)).run =
      Trip.behind (t.remark a) (t.read ⟨.get, url, none, none⟩ a)) :
    c.get t.step endpoint ps >>= k = t.session := by
  unfold get endpointUrl
  cases hurl : Url.parse endpoint with
  | error fault =>
    rw [asking, addressed, hurl] at hrequest
    simp only [Trip.session, hrequest]
    rfl
  | ok url =>
    simp only [pure_bind, bind_assoc]
    refine send_bind_eq (t := t) ?_ fun a => hread (url.addPairs ps) a
    rw [hrequest, asking, addressed, hurl]
    rfl

theorem authorize_eq (c : Client) (r : AuthorizationRequest) :
    c.authorize r = (c.authorizeTrip r).session :=
  get_bind_eq (t := c.authorizeTrip r) rfl fun _ _ => Session.run_ofRead ..

/-- Verifying an account. -/
def verifyTrip (c : Client) (endpoint code : String) : Trip Unit where
  step := .verifyAccount
  request := c.asking .verifyAccount endpoint [("code", code)]
  remark _ := none
  read _ a :=
    if a.isSuccess then .ok ()
    else .error (.protocol .verifyAccount (.unexpectedStatus a.status a.text))

theorem verifyAccount_eq (c : Client) (endpoint code : String) :
    c.verifyAccount endpoint code = (c.verifyTrip endpoint code).session := by
  refine get_bind_eq (t := c.verifyTrip endpoint code) rfl fun url a => ?_
  change ExceptT.run (if a.isSuccess then _ else _) = Dialogue.done (if a.isSuccess then _ else _)
  cases a.isSuccess <;> rfl

/-- Posting a body to an endpoint. -/
def postTrip {α : Type} (c : Client) (step : Step) (endpoint : String) (body : Json)
    (remark : Answer → Option Warning) (read : Answer → Except FlowError α) : Trip α where
  step
  request := (addressed step endpoint).bind fun url =>
    c.checked step ⟨.post, url, none, some body.compact⟩
  remark
  read _ := read

theorem postTrip_request_iff {α : Type} {c : Client} {step : Step} {endpoint : String} {body : Json}
    {remark : Answer → Option Warning} {read : Answer → Except FlowError α} {q : Request} :
    (c.postTrip step endpoint body remark read).request = .ok q ↔
      ∃ url, Url.parse endpoint = .ok url ∧ c.Admits q ∧
        q = ⟨.post, url, none, some body.compact⟩ := by
  simp only [postTrip, bind_eq_ok_iff, addressed_eq_ok_iff, checked_eq_ok_iff]

theorem postTrip_request_of_reaches {α : Type} {c : Client} {step : Step} {endpoint : String}
    {body : Json} {remark : Answer → Option Warning} {read : Answer → Except FlowError α}
    {url : Url} (hurl : Url.parse endpoint = .ok url) (hreaches : c.Reaches url) :
    (c.postTrip step endpoint body remark read).request =
      .ok ⟨.post, url, none, some body.compact⟩ :=
  postTrip_request_iff.mpr ⟨url, hurl, (admits_iff_reaches rfl).mpr hreaches, rfl⟩

theorem postTrip_request_error_iff {α : Type} {c : Client} {step : Step} {endpoint : String}
    {body : Json} {remark : Answer → Option Warning} {read : Answer → Except FlowError α}
    {e : FlowError} :
    (c.postTrip step endpoint body remark read).request = .error e ↔
      Unasked c step endpoint (fun url => ⟨.post, url, none, some body.compact⟩) e :=
  addressed_bind_eq_error_iff fun url => ⟨.post, url, none, some body.compact⟩

/-- Posting and reading the answer is a trip. -/
theorem post_bind_eq {α : Type} {c : Client} {step : Step} {endpoint : String} {body : Json}
    {remark : Answer → Option Warning} {read : Answer → Except FlowError α}
    {k : Answer → Session α} (hread : ∀ a, (k a).run = Trip.behind (remark a) (read a)) :
    c.post step endpoint body >>= k = (c.postTrip step endpoint body remark read).session := by
  unfold post endpointUrl
  cases hurl : Url.parse endpoint with
  | error fault => simp [postTrip, addressed, hurl, Trip.session]; rfl
  | ok url =>
    rw [pure_bind]
    refine send_bind_eq (t := c.postTrip step endpoint body remark read) ?_ hread
    simp [postTrip, addressed, hurl, Except.bind]

/-- What is read from the answer to credentials. -/
def readLoginReply (a : Answer) : Except FlowError LoginReply :=
  if a.status = 401 then
    .ok (.rejected ⟨(BackendMessage.ofBody a.text).text?.getD usualRejection⟩)
  else (readBody .submitLogin RedirectBody.form a).map fun body => .accepted body.redirectTo

theorem readLoginReply_error {a : Answer} {e : FlowError} (h : readLoginReply a = .error e) :
    e.step? = some .submitLogin := by
  unfold readLoginReply at h
  split at h
  · cases h
  · exact readBody_error_step (map_eq_error_iff.mp h)

/-- Posting credentials to the backend. -/
def submitTrip (c : Client) (endpoint : String) (s : LoginSubmission) : Trip LoginReply :=
  c.postTrip .submitLogin endpoint s.toJson (fun _ => none) readLoginReply

theorem submitLogin_eq (c : Client) (endpoint : String) (s : LoginSubmission) :
    c.submitLogin endpoint s = (c.submitTrip endpoint s).session := by
  refine post_bind_eq fun a => ?_
  unfold readLoginReply
  split
  · rfl
  · rw [ExceptT.run_bind, run_expectJson]
    cases readBody .submitLogin RedirectBody.form a <;> rfl

/-- Bringing the query of an address to the endpoint, with cookies. -/
def replayTrip {α : Type} (c : Client) (step : Step) (endpoint redirectTo : String)
    (cookies : List Cookie) (read : Redirect → Except ProtocolError α) : Trip α where
  step
  request := (atStep step (replayUrl endpoint redirectTo)).bind fun url =>
    c.checked step ⟨.get, url, some (Cookie.line cookies), none⟩
  remark _ := none
  read := readThrough step read

theorem replayTrip_request_iff {α : Type} {c : Client} {step : Step} {endpoint redirectTo : String}
    {cookies : List Cookie} {read : Redirect → Except ProtocolError α} {q : Request} :
    (c.replayTrip step endpoint redirectTo cookies read).request = .ok q ↔
      ∃ url, replayUrl endpoint redirectTo = .ok url ∧ c.Admits q ∧
        q = ⟨.get, url, some (Cookie.line cookies), none⟩ := by
  simp only [replayTrip, bind_eq_ok_iff, atStep_eq_ok_iff, checked_eq_ok_iff]

/-- An address cannot be replayed if it or the endpoint cannot be read. -/
theorem replayUrl_error {endpoint redirectTo : String} {e : ProtocolError}
    (h : replayUrl endpoint redirectTo = .error e) : ∃ fault, e = .invalidRedirect fault := by
  unfold replayUrl at h
  split at h
  · cases h
    exact ⟨_, rfl⟩
  · split at h
    · cases h
      exact ⟨_, rfl⟩
    · cases h

theorem replayTrip_request_error_iff {α : Type} {c : Client} {step : Step}
    {endpoint redirectTo : String} {cookies : List Cookie}
    {read : Redirect → Except ProtocolError α} {e : FlowError} :
    (c.replayTrip step endpoint redirectTo cookies read).request = .error e ↔
      (∃ fault, replayUrl endpoint redirectTo = .error fault ∧ e = .protocol step fault) ∨
      ∃ url, replayUrl endpoint redirectTo = .ok url ∧
        Unsent c step ⟨.get, url, some (Cookie.line cookies), none⟩ e := by
  simp only [replayTrip, bind_eq_error_iff, atStep_eq_error_iff, atStep_eq_ok_iff,
    checked_eq_error_iff]

theorem replay_bind_eq {α : Type} (c : Client) (step : Step) (endpoint redirectTo : String)
    (cookies : List Cookie) (read : Redirect → Except ProtocolError α) :
    (c.replay step endpoint redirectTo cookies >>= fun r => Session.ofRead step (read r)) =
      (c.replayTrip step endpoint redirectTo cookies read).session := by
  unfold replay
  cases hurl : replayUrl endpoint redirectTo with
  | error fault => simp [replayTrip, atStep, hurl, Trip.session]; rfl
  | ok url =>
    simp only [Session.ofRead, pure_bind, bind_assoc]
    refine send_bind_eq (t := c.replayTrip step endpoint redirectTo cookies read) ?_ fun a => ?_
    · simp [replayTrip, atStep, hurl, Except.bind]
    · change _ = Dialogue.done (atStep step ((readRedirect url a).bind read))
      cases readRedirect url a with
      | error e => rfl
      | ok redirect => exact Session.run_ofRead step (read redirect)

/-- The provider accepting the login. -/
def acceptLoginTrip (c : Client) (r : ConsentRequest) : Trip LoginAcceptance :=
  c.replayTrip .acceptLogin r.authorizeEndpoint r.redirectTo [r.csrfCookie]
    (readAcceptance r.cookieNames)

theorem acceptLogin_eq (c : Client) (r : ConsentRequest) :
    c.acceptLogin r = (c.acceptLoginTrip r).session :=
  replay_bind_eq ..

/-- The backend accepting the consent. -/
def fetchConsentTrip (c : Client) (url : Url) (cookies : List Cookie) : Trip String where
  step := .fetchConsent
  request := c.checked .fetchConsent ⟨.get, url, some (Cookie.line cookies), none⟩
  remark _ := none
  read _ a := (readBody .fetchConsent RedirectBody.form a).map RedirectBody.redirectTo

theorem fetchConsentTrip_request_iff {c : Client} {url : Url} {cookies : List Cookie}
    {q : Request} :
    (c.fetchConsentTrip url cookies).request = .ok q ↔
      c.Admits q ∧ q = ⟨.get, url, some (Cookie.line cookies), none⟩ :=
  checked_eq_ok_iff

theorem fetchConsent_eq (c : Client) (url : Url) (cookies : List Cookie) :
    c.fetchConsent url cookies = (c.fetchConsentTrip url cookies).session := by
  refine send_bind_eq (t := c.fetchConsentTrip url cookies) rfl fun a => ?_
  rw [ExceptT.run_bind, run_expectJson]
  change _ = Dialogue.done ((readBody .fetchConsent RedirectBody.form a).map _)
  cases readBody .fetchConsent RedirectBody.form a <;> rfl

/-- The provider accepting the consent. -/
def acceptConsentTrip (c : Client) (endpoint redirectTo : String) (cookies : List Cookie) :
    Trip String :=
  c.replayTrip .acceptConsent endpoint redirectTo cookies readCode

theorem acceptConsent_eq (c : Client) (endpoint redirectTo : String) (cookies : List Cookie) :
    c.acceptConsent endpoint redirectTo cookies =
      (c.acceptConsentTrip endpoint redirectTo cookies).session :=
  replay_bind_eq ..

/-- What is read from the answer to a code. -/
def readTokenAnswer (names : CookieNames) (a : Answer) : Except FlowError Tokens :=
  if a.isSuccess then
    atStep .tokenExchange (readTokens names (Cookie.capture a.headers) a)
  else .error (.protocol .tokenExchange (.exchangeFailed a.status a.text))

theorem readTokenAnswer_error {names : CookieNames} {a : Answer} {e : FlowError}
    (h : readTokenAnswer names a = .error e) : e.step? = some .tokenExchange := by
  unfold readTokenAnswer at h
  split at h
  · obtain ⟨fault, -, rfl⟩ := atStep_eq_error_iff.mp h
    rfl
  · cases h
    rfl

/-- What is logged about the answer to a code. -/
def exchangeRemark (names : CookieNames) (a : Answer) : Option Warning :=
  if a.isSuccess then positionWarning? names (Cookie.capture a.headers) else none

/-- Redeeming a code. -/
def exchangeTrip (c : Client) (endpoint : String) (r : ExchangeRequest) (names : CookieNames) :
    Trip Tokens :=
  c.postTrip .tokenExchange endpoint r.toJson (exchangeRemark names) (readTokenAnswer names)

theorem exchange_eq (c : Client) (endpoint : String) (r : ExchangeRequest) (names : CookieNames) :
    c.exchange endpoint r names = (c.exchangeTrip endpoint r names).session := by
  refine post_bind_eq fun a => ?_
  unfold exchangeRemark readTokenAnswer
  cases a.isSuccess with
  | false => rfl
  | true =>
    simp only [Bool.not_true, Bool.false_eq_true, if_true, if_false]
    -- the warning comes before anything is read, so it is logged also if reading fails
    cases positionWarning? names (Cookie.capture a.headers) with
    | none => exact Session.run_ofRead ..
    | some w =>
      rw [ExceptT.run_bind]
      exact congrArg (Dialogue.warn w) (Session.run_ofRead ..)

/-- What is read from the answer to a registration. -/
def readRegistration (a : Answer) : Except FlowError RegistrationOutcome :=
  if a.isSuccess then .ok .created
  else if a.status = 422 then
    .ok (.alreadyRegistered ((BackendMessage.ofBody a.text).text?.getD usualRefusal))
  else .error (.protocol .register (.unexpectedStatus a.status a.text))

/-- What is logged about the answer to a registration. -/
def registrationRemark (a : Answer) : Option Warning :=
  if !a.isSuccess ∧ a.status = 422 then
    some (.alreadyRegistered ((BackendMessage.ofBody a.text).text?.getD usualRefusal))
  else none

/-- Posting a registration to the backend. -/
def registerTrip (c : Client) (endpoint : String) (s : RegistrationSubmission) :
    Trip RegistrationOutcome :=
  c.postTrip .register endpoint s.toJson registrationRemark readRegistration

theorem registerTrip_request_iff {c : Client} {endpoint : String} {s : RegistrationSubmission}
    {q : Request} :
    (c.registerTrip endpoint s).request = .ok q ↔
      ∃ url, Url.parse endpoint = .ok url ∧ c.Admits q ∧
        q = ⟨.post, url, none, some s.toJson.compact⟩ :=
  postTrip_request_iff

theorem register_eq (c : Client) (endpoint : String) (s : RegistrationSubmission) :
    c.register endpoint s = (c.registerTrip endpoint s).session := by
  refine post_bind_eq fun a => ?_
  unfold registrationRemark readRegistration
  cases a.isSuccess with
  | true => rfl
  | false =>
    simp only [Bool.false_eq_true, if_false, Bool.not_false, true_and]
    -- the status decides both whether there is a warning and what is read
    by_cases hstatus : a.status = 422
    · rw [if_pos hstatus, if_pos hstatus, if_pos hstatus]
      rfl
    · rw [if_neg hstatus, if_neg hstatus, if_neg hstatus]
      rfl

end Client

end CodeFlow
