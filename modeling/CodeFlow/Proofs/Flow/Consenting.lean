import CodeFlow.Proofs.Flow.Redirecting
import CodeFlow.Proofs.Flow.Succession

/-!
# Consents

Three requests lead from an accepted login to a code, and each needs what the answer before it
brought. A consent is given if each of them can be made, is sent, is answered, and everything is in
order with its answer. Otherwise the first thing that is not ends it there: its error names the
request that it belongs to, and no other request is sent (`consent_settled`).
-/

namespace CodeFlow

open CodeFlow.Http

/-! ## Replayed queries -/

/-- A request brings the query of an address to the endpoint, with cookies. -/
def IsReplay (endpoint redirectTo : String) (cookies : List Cookie) (q : Request) : Prop :=
  ∃ base redirect, Url.parse redirectTo = .ok redirect ∧ Url.parse endpoint = .ok base ∧
    q = ⟨.get, base.withQuery redirect.query, some (Cookie.line cookies), none⟩

/-- Why there is no such request. -/
inductive Unreadable (endpoint redirectTo : String) : Url.Fault → Prop where
  | redirect {fault : Url.Fault} :
      Url.parse redirectTo = .error fault → Unreadable endpoint redirectTo fault
  | endpoint {redirect : Url} {fault : Url.Fault} :
      Url.parse redirectTo = .ok redirect → Url.parse endpoint = .error fault →
      Unreadable endpoint redirectTo fault

/-- The query of an address is brought to the endpoint, and the answer is a redirect in order. -/
structure Replays (c : Client) (endpoint redirectTo : String) (cookies : List Cookie)
    (reply : Reply) (q : Request) (a : Answer) (location : Url) : Prop where
  made : IsReplay endpoint redirectTo cookies q
  sent : c.Admits q
  answered : reply = .answer a
  redirects : RedirectsTo q.url a location

/-- Why the query of an address is not brought to the endpoint or is not answered by a redirect in
order, with what was sent until then. -/
inductive ReplayBreaks (c : Client) (step : Step) (endpoint redirectTo : String)
    (cookies : List Cookie) (reply : Reply) : List Request → FlowError → Prop where
  | unmade {fault : Url.Fault} :
      Unreadable endpoint redirectTo fault →
      ReplayBreaks c step endpoint redirectTo cookies reply []
        (.protocol step (.invalidRedirect fault))
  | unsent {q : Request} {e : FlowError} :
      IsReplay endpoint redirectTo cookies q → Unsent c step q e →
      ReplayBreaks c step endpoint redirectTo cookies reply [] e
  | unanswered {q : Request} {e : FlowError} :
      IsReplay endpoint redirectTo cookies q → c.Admits q → Unanswered step reply e →
      ReplayBreaks c step endpoint redirectTo cookies reply [q] e
  | misled {q : Request} {a : Answer} {fault : ProtocolError} :
      IsReplay endpoint redirectTo cookies q → c.Admits q → reply = .answer a →
      RedirectFault q.url a fault →
      ReplayBreaks c step endpoint redirectTo cookies reply [q] (.protocol step fault)

section

variable {α : Type} {c : Client} {step : Step} {endpoint redirectTo : String}
  {cookies : List Cookie} {reply : Reply} {q : Request} {sent : List Request} {e : FlowError}
  {read : Redirect → Except ProtocolError α} {v : α}

theorem replayUrl_eq_ok_iff {url : Url} :
    replayUrl endpoint redirectTo = .ok url ↔
      ∃ base redirect, Url.parse redirectTo = .ok redirect ∧ Url.parse endpoint = .ok base ∧
        url = base.withQuery redirect.query := by
  unfold replayUrl
  cases Url.parse redirectTo with
  | error fault => simp
  | ok redirect => cases Url.parse endpoint <;> simp [eq_comm]

theorem replayUrl_eq_error_iff {e : ProtocolError} :
    replayUrl endpoint redirectTo = .error e ↔
      ∃ fault, Unreadable endpoint redirectTo fault ∧ e = .invalidRedirect fault := by
  unfold replayUrl
  constructor
  · intro h
    split at h
    · rename_i fault hredirect
      cases h
      exact ⟨fault, .redirect hredirect, rfl⟩
    · rename_i redirect hredirect
      split at h
      · rename_i fault hendpoint
        cases h
        exact ⟨fault, .endpoint hredirect hendpoint, rfl⟩
      · cases h
  · rintro ⟨fault, hredirect | ⟨hredirect, hendpoint⟩, rfl⟩
    · simp [hredirect]
    · simp [hredirect, hendpoint]

/-- The request that a replay makes is sent. -/
theorem Client.replayTrip_request_eq_ok_iff :
    (c.replayTrip step endpoint redirectTo cookies read).request = .ok q ↔
      IsReplay endpoint redirectTo cookies q ∧ c.Admits q := by
  rw [replayTrip_request_iff]
  simp only [replayUrl_eq_ok_iff]
  constructor
  · rintro ⟨url, ⟨base, redirect, hredirect, hbase, rfl⟩, hadmits, rfl⟩
    exact ⟨⟨base, redirect, hredirect, hbase, rfl⟩, hadmits⟩
  · rintro ⟨⟨base, redirect, hredirect, hbase, rfl⟩, hadmits⟩
    exact ⟨_, ⟨base, redirect, hredirect, hbase, rfl⟩, hadmits, rfl⟩

theorem Client.replayTrip_request_eq_error_iff :
    (c.replayTrip step endpoint redirectTo cookies read).request = .error e ↔
      (∃ fault, Unreadable endpoint redirectTo fault ∧
        e = .protocol step (.invalidRedirect fault)) ∨
      ∃ q, IsReplay endpoint redirectTo cookies q ∧ Unsent c step q e := by
  simp only [replayTrip_request_error_iff, replayUrl_eq_error_iff, replayUrl_eq_ok_iff]
  refine or_congr ⟨?_, ?_⟩ ⟨?_, ?_⟩
  · rintro ⟨_, ⟨fault, hunreadable, rfl⟩, rfl⟩
    exact ⟨fault, hunreadable, rfl⟩
  · rintro ⟨fault, hunreadable, rfl⟩
    exact ⟨_, ⟨fault, hunreadable, rfl⟩, rfl⟩
  · rintro ⟨_, ⟨base, redirect, hredirect, hbase, rfl⟩, hunsent⟩
    exact ⟨_, ⟨base, redirect, hredirect, hbase, rfl⟩, hunsent⟩
  · rintro ⟨_, ⟨base, redirect, hredirect, hbase, rfl⟩, hunsent⟩
    exact ⟨_, ⟨base, redirect, hredirect, hbase, rfl⟩, hunsent⟩

/-- A replay yields what is read from a redirect in order. -/
theorem Client.replayTrip_yields_iff :
    (c.replayTrip step endpoint redirectTo cookies read).Yields reply q v ↔
      ∃ a location, Replays c endpoint redirectTo cookies reply q a location ∧
        read ⟨location, Cookie.capture a.headers⟩ = .ok v := by
  unfold Trip.Yields
  rw [replayTrip_request_eq_ok_iff, Trip.outcome_eq_ok_iff]
  change _ ∧ (∃ a, reply = .answer a ∧ readThrough step read q a = .ok v) ↔ _
  simp only [readThrough_eq_ok_iff, readRedirect_eq_ok_iff_redirectsTo]
  constructor
  · rintro ⟨⟨hmade, hsent⟩, a, hanswered, ⟨location, cookies⟩, ⟨hredirects, rfl⟩, hread⟩
    exact ⟨a, location, ⟨hmade, hsent, hanswered, hredirects⟩, hread⟩
  · rintro ⟨a, location, ⟨hmade, hsent, hanswered, hredirects⟩, hread⟩
    exact ⟨⟨hmade, hsent⟩, a, hanswered, _, ⟨hredirects, rfl⟩, hread⟩

/-- A replay breaks by itself, or in what is read from a redirect in order. -/
theorem Client.replayTrip_breaks_iff :
    (c.replayTrip step endpoint redirectTo cookies read).Breaks reply sent e ↔
      ReplayBreaks c step endpoint redirectTo cookies reply sent e ∨
      ∃ q a location fault, Replays c endpoint redirectTo cookies reply q a location ∧
        read ⟨location, Cookie.capture a.headers⟩ = .error fault ∧ sent = [q] ∧
        e = .protocol step fault := by
  have hread (q : Request) (a : Answer) :
      readThrough step read q a = .error e ↔
        (∃ fault, RedirectFault q.url a fault ∧ e = .protocol step fault) ∨
        ∃ location fault, RedirectsTo q.url a location ∧
          read ⟨location, Cookie.capture a.headers⟩ = .error fault ∧ e = .protocol step fault := by
    simp only [readThrough, atStep_eq_error_iff, bind_eq_error_iff, readRedirect_eq_error_iff,
      readRedirect_eq_ok_iff_redirectsTo]
    constructor
    · rintro ⟨fault, hfault | ⟨⟨location, cookies⟩, ⟨hredirects, rfl⟩, hread⟩, rfl⟩
      · exact .inl ⟨fault, hfault, rfl⟩
      · exact .inr ⟨location, fault, hredirects, hread, rfl⟩
    · rintro (⟨fault, hfault, rfl⟩ | ⟨location, fault, hredirects, hread, rfl⟩)
      · exact ⟨fault, .inl hfault, rfl⟩
      · exact ⟨fault, .inr ⟨_, ⟨hredirects, rfl⟩, hread⟩, rfl⟩
  constructor
  · rintro (hrequest | ⟨hrequest, houtcome⟩)
    · rcases replayTrip_request_eq_error_iff.mp hrequest with
        ⟨fault, hunreadable, rfl⟩ | ⟨q, hmade, hunsent⟩
      · exact .inl (.unmade hunreadable)
      · exact .inl (.unsent hmade hunsent)
    · obtain ⟨hmade, hsent⟩ := replayTrip_request_eq_ok_iff.mp hrequest
      rcases Trip.outcome_eq_error_iff.mp houtcome with hunanswered | ⟨a, hanswered, houtcome⟩
      · exact .inl (.unanswered hmade hsent hunanswered)
      · rcases (hread _ a).mp houtcome with
          ⟨fault, hfault, rfl⟩ | ⟨location, fault, hredirects, hfault, rfl⟩
        · exact .inl (.misled hmade hsent hanswered hfault)
        · exact .inr ⟨_, a, location, fault, ⟨hmade, hsent, hanswered, hredirects⟩, hfault, rfl,
            rfl⟩
  · rintro ((hunreadable | ⟨hmade, hunsent⟩ | ⟨hmade, hsent, hunanswered⟩ |
      ⟨hmade, hsent, hanswered, hfault⟩) | ⟨q, a, location, fault, hreplays, hfault, rfl, rfl⟩)
    · exact .unsent (replayTrip_request_eq_error_iff.mpr (.inl ⟨_, hunreadable, rfl⟩))
    · exact .unsent (replayTrip_request_eq_error_iff.mpr (.inr ⟨_, hmade, hunsent⟩))
    · exact .sent (replayTrip_request_eq_ok_iff.mpr ⟨hmade, hsent⟩)
        (Trip.outcome_eq_error_iff.mpr (.inl hunanswered))
    · exact .sent (replayTrip_request_eq_ok_iff.mpr ⟨hmade, hsent⟩)
        (Trip.outcome_eq_error_iff.mpr
          (.inr ⟨_, hanswered, (hread _ _).mpr (.inl ⟨_, hfault, rfl⟩)⟩))
    · exact .sent (replayTrip_request_eq_ok_iff.mpr ⟨hreplays.made, hreplays.sent⟩)
        (Trip.outcome_eq_error_iff.mpr (.inr ⟨a, hreplays.answered,
          (hread _ _).mpr (.inr ⟨location, fault, hreplays.redirects, hfault, rfl⟩)⟩))

end

/-! ## The login is accepted -/

/-- The provider accepts the login: it redirects to the consent and sets a cookie of either kind. -/
def AcceptsLogin (c : Client) (r : ConsentRequest) (reply : Reply) (q : Request)
    (accepted : LoginAcceptance) : Prop :=
  ∃ a, Replays c r.authorizeEndpoint r.redirectTo [r.csrfCookie] reply q a accepted.consentUrl ∧
    a.SetsFirst (Cookie.Begins r.cookieNames.sessionPrefix) accepted.authenticationSession ∧
    a.SetsFirst (Cookie.Begins r.cookieNames.consentPrefix) accepted.consentCookie

/-- Why the provider does not accept the login. The session is looked for before the consent. -/
inductive LoginUnaccepted (c : Client) (r : ConsentRequest) (reply : Reply) :
    List Request → FlowError → Prop where
  | replay {sent : List Request} {e : FlowError} :
      ReplayBreaks c .acceptLogin r.authorizeEndpoint r.redirectTo [r.csrfCookie] reply sent e →
      LoginUnaccepted c r reply sent e
  | withoutSession {q : Request} {a : Answer} {location : Url} :
      Replays c r.authorizeEndpoint r.redirectTo [r.csrfCookie] reply q a location →
      (¬∃ session, a.SetsFirst (Cookie.Begins r.cookieNames.sessionPrefix) session) →
      LoginUnaccepted c r reply [q]
        (.protocol .acceptLogin (.missingCookie r.cookieNames.sessionPrefix))
  | withoutConsent {q : Request} {a : Answer} {location : Url} {session : Cookie} :
      Replays c r.authorizeEndpoint r.redirectTo [r.csrfCookie] reply q a location →
      a.SetsFirst (Cookie.Begins r.cookieNames.sessionPrefix) session →
      (¬∃ consent, a.SetsFirst (Cookie.Begins r.cookieNames.consentPrefix) consent) →
      LoginUnaccepted c r reply [q]
        (.protocol .acceptLogin (.missingCookie r.cookieNames.consentPrefix))

section

variable {c : Client} {r : ConsentRequest} {reply : Reply} {q : Request} {a : Answer}
  {accepted : LoginAcceptance} {sent : List Request} {e : FlowError}

theorem findPrefix?_capture_eq_none_iff {front : String} :
    Cookie.findPrefix? (Cookie.capture a.headers) front = none ↔
      ¬∃ d, a.SetsFirst (Cookie.Begins front) d :=
  eq_none_iff_of_eq_some_iff fun _ => Cookie.findPrefix?_capture_eq_some_iff

theorem acceptLoginTrip_yields_iff :
    (c.acceptLoginTrip r).Yields reply q accepted ↔ AcceptsLogin c r reply q accepted := by
  unfold Client.acceptLoginTrip AcceptsLogin
  simp only [Client.replayTrip_yields_iff, readAcceptance_eq_ok_iff,
    Cookie.findPrefix?_capture_eq_some_iff]
  constructor
  · rintro ⟨a, location, hreplays, hlocation, hcookies⟩
    exact ⟨a, hlocation ▸ hreplays, hcookies⟩
  · rintro ⟨a, hreplays, hcookies⟩
    exact ⟨a, _, hreplays, rfl, hcookies⟩

theorem acceptLoginTrip_breaks_iff :
    (c.acceptLoginTrip r).Breaks reply sent e ↔ LoginUnaccepted c r reply sent e := by
  unfold Client.acceptLoginTrip
  simp only [Client.replayTrip_breaks_iff, readAcceptance_eq_error_iff,
    Cookie.findPrefix?_capture_eq_some_iff, findPrefix?_capture_eq_none_iff]
  constructor
  · rintro (hreplay | ⟨q, a, location, fault, hreplays,
      ⟨hnone, rfl⟩ | ⟨session, hsession, hnone, rfl⟩, rfl, rfl⟩)
    · exact .replay hreplay
    · exact .withoutSession hreplays hnone
    · exact .withoutConsent hreplays hsession hnone
  · rintro (hreplay | ⟨hreplays, hnone⟩ | ⟨hreplays, hsession, hnone⟩)
    · exact .inl hreplay
    · exact .inr ⟨_, _, _, _, hreplays, .inl ⟨hnone, rfl⟩, rfl, rfl⟩
    · exact .inr ⟨_, _, _, _, hreplays, .inr ⟨_, hsession, hnone, rfl⟩, rfl, rfl⟩

end

/-! ## The consent is fetched -/

/-- The two cookies of the provider that are sent from here on. -/
def LoginAcceptance.cookies (accepted : LoginAcceptance) : List Cookie :=
  [accepted.authenticationSession, accepted.consentCookie]

/-- The request for the consent. -/
def LoginAcceptance.request (accepted : LoginAcceptance) : Request :=
  ⟨.get, accepted.consentUrl, some (Cookie.line accepted.cookies), none⟩

/-- The backend gives its consent: its answer is whole, a success, and names where to go. -/
structure FetchesConsent (c : Client) (accepted : LoginAcceptance) (reply : Reply) (q : Request)
    (redirectTo : String) : Prop where
  made : q = accepted.request
  sent : c.Admits q
  answered : ∃ a body, reply = .answer a ∧ a.text? = some body ∧ a.isSuccess = true ∧
    RedirectBody.form.ofText body = .ok ⟨redirectTo⟩

/-- Why the backend does not give its consent. -/
inductive ConsentUnfetched (c : Client) (accepted : LoginAcceptance) (reply : Reply) :
    List Request → FlowError → Prop where
  | unsent {e : FlowError} :
      Unsent c .fetchConsent accepted.request e → ConsentUnfetched c accepted reply [] e
  | unanswered {e : FlowError} :
      c.Admits accepted.request → Unanswered .fetchConsent reply e →
      ConsentUnfetched c accepted reply [accepted.request] e
  | interrupted {a : Answer} :
      c.Admits accepted.request → reply = .answer a → a.text? = none →
      ConsentUnfetched c accepted reply [accepted.request] (.network .fetchConsent .interrupted)
  | unexpected {a : Answer} {body : String} :
      c.Admits accepted.request → reply = .answer a → a.text? = some body → a.isSuccess = false →
      ConsentUnfetched c accepted reply [accepted.request]
        (.protocol .fetchConsent (.unexpectedStatus a.status body))
  | undecodable {a : Answer} {body message : String} :
      c.Admits accepted.request → reply = .answer a → a.text? = some body → a.isSuccess = true →
      RedirectBody.form.ofText body = .error message →
      ConsentUnfetched c accepted reply [accepted.request]
        (.protocol .fetchConsent (.invalidBody message))

section

variable {c : Client} {accepted : LoginAcceptance} {reply : Reply} {q : Request}
  {redirectTo : String} {sent : List Request} {e : FlowError}

theorem fetchConsentTrip_yields_iff :
    (c.fetchConsentTrip accepted.consentUrl accepted.cookies).Yields reply q redirectTo ↔
      FetchesConsent c accepted reply q redirectTo := by
  have hread (a : Answer) :
      (readBody .fetchConsent RedirectBody.form a).map RedirectBody.redirectTo = .ok redirectTo ↔
        readBody .fetchConsent RedirectBody.form a = .ok ⟨redirectTo⟩ := by
    cases readBody .fetchConsent RedirectBody.form a with
    | error e => simp [Except.map]
    | ok body => cases body; simp [Except.map]
  unfold Trip.Yields
  rw [Client.fetchConsentTrip_request_iff, Trip.outcome_eq_ok_iff]
  change _ ∧ (∃ a, reply = .answer a ∧ (readBody .fetchConsent RedirectBody.form a).map _ = _) ↔ _
  simp only [hread, readBody_eq_ok_iff]
  constructor
  · rintro ⟨⟨hsent, hmade⟩, a, hanswered, hsuccess, body, htext, hbody⟩
    exact ⟨hmade, hsent, a, body, hanswered, htext, hsuccess, hbody⟩
  · rintro ⟨hmade, hsent, a, body, hanswered, htext, hsuccess, hbody⟩
    exact ⟨⟨hsent, hmade⟩, a, hanswered, hsuccess, body, htext, hbody⟩

theorem fetchConsentTrip_breaks_iff :
    (c.fetchConsentTrip accepted.consentUrl accepted.cookies).Breaks reply sent e ↔
      ConsentUnfetched c accepted reply sent e := by
  have hrequest {q : Request} :
      (c.fetchConsentTrip accepted.consentUrl accepted.cookies).request = .ok q ↔
        c.Admits q ∧ q = accepted.request :=
    Client.fetchConsentTrip_request_iff
  have hrefused : (c.fetchConsentTrip accepted.consentUrl accepted.cookies).request = .error e ↔
      Unsent c .fetchConsent accepted.request e :=
    Client.checked_eq_error_iff
  have houtcome {q : Request} :
      (c.fetchConsentTrip accepted.consentUrl accepted.cookies).outcome q reply = .error e ↔
        Unanswered .fetchConsent reply e ∨
        ∃ a, reply = .answer a ∧ readBody .fetchConsent RedirectBody.form a = .error e := by
    rw [Trip.outcome_eq_error_iff]
    exact or_congr_right (exists_congr fun a => and_congr_right fun _ => map_eq_error_iff)
  simp only [readBody_eq_error_iff] at houtcome
  constructor
  · rintro (hfault | ⟨hsent, hfault⟩)
    · exact .unsent (hrefused.mp hfault)
    · obtain ⟨hadmits, rfl⟩ := hrequest.mp hsent
      rcases houtcome.mp hfault with hunanswered | ⟨a, hanswered, ⟨hcut, rfl⟩ |
        ⟨body, htext, ⟨hstatus, rfl⟩ | ⟨hstatus, message, hbody, rfl⟩⟩⟩
      · exact .unanswered hadmits hunanswered
      · exact .interrupted hadmits hanswered hcut
      · exact .unexpected hadmits hanswered htext hstatus
      · exact .undecodable hadmits hanswered htext hstatus hbody
  · have hsent (hadmits : c.Admits accepted.request) := hrequest.mpr ⟨hadmits, rfl⟩
    rintro (hunsent | ⟨hadmits, hunanswered⟩ | ⟨hadmits, hanswered, hcut⟩ |
      ⟨hadmits, hanswered, htext, hstatus⟩ | ⟨hadmits, hanswered, htext, hstatus, hbody⟩)
    · exact .unsent (hrefused.mpr hunsent)
    · exact .sent (hsent hadmits) (houtcome.mpr (.inl hunanswered))
    · exact .sent (hsent hadmits) (houtcome.mpr (.inr ⟨_, hanswered, .inl ⟨hcut, rfl⟩⟩))
    · exact .sent (hsent hadmits)
        (houtcome.mpr (.inr ⟨_, hanswered, .inr ⟨_, htext, .inl ⟨hstatus, rfl⟩⟩⟩))
    · exact .sent (hsent hadmits)
        (houtcome.mpr (.inr ⟨_, hanswered, .inr ⟨_, htext, .inr ⟨hstatus, _, hbody, rfl⟩⟩⟩))

end

/-! ## The consent is accepted -/

/-- The provider accepts the consent: it redirects to an address that bears the code. -/
def AcceptsConsent (c : Client) (endpoint redirectTo : String) (cookies : List Cookie)
    (reply : Reply) (q : Request) (code : String) : Prop :=
  ∃ a location, Replays c endpoint redirectTo cookies reply q a location ∧
    location.Bears "code" code

/-- Why the provider does not accept the consent. -/
inductive ConsentUnaccepted (c : Client) (endpoint redirectTo : String) (cookies : List Cookie)
    (reply : Reply) : List Request → FlowError → Prop where
  | replay {sent : List Request} {e : FlowError} :
      ReplayBreaks c .acceptConsent endpoint redirectTo cookies reply sent e →
      ConsentUnaccepted c endpoint redirectTo cookies reply sent e
  | withoutCode {q : Request} {a : Answer} {location : Url} :
      Replays c endpoint redirectTo cookies reply q a location →
      (¬∃ code, location.Bears "code" code) →
      ConsentUnaccepted c endpoint redirectTo cookies reply [q]
        (.protocol .acceptConsent .missingCode)

section

variable {c : Client} {endpoint redirectTo : String} {cookies : List Cookie} {reply : Reply}
  {q : Request} {code : String} {sent : List Request} {e : FlowError}

theorem acceptConsentTrip_yields_iff :
    (c.acceptConsentTrip endpoint redirectTo cookies).Yields reply q code ↔
      AcceptsConsent c endpoint redirectTo cookies reply q code := by
  simp only [Client.acceptConsentTrip, Client.replayTrip_yields_iff, readCode_eq_ok_iff,
    parameter?_eq_some_iff]
  rfl

theorem acceptConsentTrip_breaks_iff :
    (c.acceptConsentTrip endpoint redirectTo cookies).Breaks reply sent e ↔
      ConsentUnaccepted c endpoint redirectTo cookies reply sent e := by
  simp only [Client.acceptConsentTrip, Client.replayTrip_breaks_iff, readCode_eq_error_iff,
    parameter?_eq_none_iff]
  constructor
  · rintro (hreplay | ⟨q, a, location, fault, hreplays, ⟨hnone, rfl⟩, rfl, rfl⟩)
    · exact .replay hreplay
    · exact .withoutCode hreplays hnone
  · rintro (hreplay | ⟨hreplays, hnone⟩)
    · exact .inl hreplay
    · exact .inr ⟨_, _, _, _, hreplays, ⟨hnone, rfl⟩, rfl, rfl⟩

end

/-! ## The whole consent -/

/-- The consent is asked for while servers answer by a script. -/
def consent (c : Client) (r : ConsentRequest) (script : List Reply) :
    Dialogue.Transcript (Except FlowError ConsentGrant) :=
  (c.completeConsent r).run.play script

/-- The consent is given, behind three requests. -/
inductive Consents (c : Client) (r : ConsentRequest) (script : List Reply) :
    List Request → ConsentGrant → Prop where
  | given {q₁ q₂ q₃ : Request} {accepted : LoginAcceptance} {redirectTo code : String} :
      AcceptsLogin c r (replyAt script 0) q₁ accepted →
      FetchesConsent c accepted (replyAt script 1) q₂ redirectTo →
      AcceptsConsent c r.authorizeEndpoint redirectTo accepted.cookies (replyAt script 2) q₃ code →
      Consents c r script [q₁, q₂, q₃]
        ⟨accepted.authenticationSession, accepted.consentCookie, code⟩

/-- Why the consent is not given, with what was sent until then. -/
inductive ConsentBreaks (c : Client) (r : ConsentRequest) (script : List Reply) :
    List Request → FlowError → Prop where
  | acceptLogin {sent : List Request} {e : FlowError} :
      LoginUnaccepted c r (replyAt script 0) sent e → ConsentBreaks c r script sent e
  | fetchConsent {q₁ : Request} {accepted : LoginAcceptance} {sent : List Request}
      {e : FlowError} :
      AcceptsLogin c r (replyAt script 0) q₁ accepted →
      ConsentUnfetched c accepted (replyAt script 1) sent e →
      ConsentBreaks c r script (q₁ :: sent) e
  | acceptConsent {q₁ q₂ : Request} {accepted : LoginAcceptance} {redirectTo : String}
      {sent : List Request} {e : FlowError} :
      AcceptsLogin c r (replyAt script 0) q₁ accepted →
      FetchesConsent c accepted (replyAt script 1) q₂ redirectTo →
      ConsentUnaccepted c r.authorizeEndpoint redirectTo accepted.cookies (replyAt script 2)
        sent e →
      ConsentBreaks c r script (q₁ :: q₂ :: sent) e

section

variable {c : Client} {r : ConsentRequest} {script : List Reply} {sent : List Request}
  {grant : ConsentGrant} {e : FlowError}

theorem completeConsent_eq :
    c.completeConsent r = (c.acceptLoginTrip r).session >>= fun accepted =>
      (c.fetchConsentTrip accepted.consentUrl accepted.cookies).session >>= fun redirectTo =>
      (c.acceptConsentTrip r.authorizeEndpoint redirectTo accepted.cookies).session >>= fun code =>
      pure ⟨accepted.authenticationSession, accepted.consentCookie, code⟩ := by
  unfold Client.completeConsent
  simp only [Client.acceptLogin_eq, Client.fetchConsent_eq, Client.acceptConsent_eq]
  rfl

theorem comes_completeConsent_ok_iff :
    (c.completeConsent r).Comes script sent (.ok grant) ↔ Consents c r script sent grant := by
  simp only [completeConsent_eq, Trip.comes_bind_ok_iff, Session.comes_pure_iff,
    acceptLoginTrip_yields_iff, fetchConsentTrip_yields_iff, acceptConsentTrip_yields_iff,
    replyAt_tail]
  constructor
  · rintro ⟨q₁, accepted, _, h₁, ⟨q₂, redirectTo, _, h₂,
      ⟨q₃, code, _, h₃, ⟨rfl, hgrant⟩, rfl⟩, rfl⟩, rfl⟩
    cases hgrant
    exact .given h₁ h₂ h₃
  · rintro ⟨h₁, h₂, h₃⟩
    exact ⟨_, _, _, h₁, ⟨_, _, _, h₂, ⟨_, _, _, h₃, ⟨rfl, rfl⟩, rfl⟩, rfl⟩, rfl⟩

theorem comes_completeConsent_error_iff :
    (c.completeConsent r).Comes script sent (.error e) ↔ ConsentBreaks c r script sent e := by
  simp only [completeConsent_eq, Trip.comes_bind_error_iff, Session.comes_pure_iff,
    acceptLoginTrip_yields_iff, acceptLoginTrip_breaks_iff, fetchConsentTrip_yields_iff,
    fetchConsentTrip_breaks_iff, acceptConsentTrip_breaks_iff, replyAt_tail]
  constructor
  · rintro (h₁ | ⟨q₁, accepted, _, h₁, h₂ | ⟨q₂, redirectTo, _, h₂,
      h₃ | ⟨_, _, _, -, ⟨-, h⟩, -⟩, rfl⟩, rfl⟩)
    · exact .acceptLogin h₁
    · exact .fetchConsent h₁ h₂
    · exact .acceptConsent h₁ h₂ h₃
    · cases h
  · rintro (h₁ | ⟨h₁, h₂⟩ | ⟨h₁, h₂, h₃⟩)
    · exact .inl h₁
    · exact .inr ⟨_, _, _, h₁, .inl h₂, rfl⟩
    · exact .inr ⟨_, _, _, h₁, .inr ⟨_, _, _, h₂, .inl h₃, rfl⟩, rfl⟩

/-! ### Where a consent breaks -/

/-- The steps of a consent, in the order of their requests. -/
def Step.ofConsent : List Step := [.acceptLogin, .fetchConsent, .acceptConsent]

theorem Unanswered.step {step : Step} {reply : Reply} (h : Unanswered step reply e) :
    e.step? = some step := by
  cases h <;> rfl

theorem ReplayBreaks.step {step : Step} {endpoint redirectTo : String} {cookies : List Cookie}
    {reply : Reply} (h : ReplayBreaks c step endpoint redirectTo cookies reply sent e) :
    e.step? = some step ∧ sent.length ≤ 1 := by
  cases h with
  | unmade => exact ⟨rfl, Nat.zero_le 1⟩
  | unsent hmade hunsent => exact ⟨hunsent.step, Nat.zero_le 1⟩
  | unanswered hmade hsent hunanswered => exact ⟨hunanswered.step, Nat.le_refl 1⟩
  | misled => exact ⟨rfl, Nat.le_refl 1⟩

theorem LoginUnaccepted.step {reply : Reply} (h : LoginUnaccepted c r reply sent e) :
    e.step? = some .acceptLogin ∧ sent.length ≤ 1 := by
  cases h with
  | replay hreplay => exact hreplay.step
  | withoutSession => exact ⟨rfl, Nat.le_refl 1⟩
  | withoutConsent => exact ⟨rfl, Nat.le_refl 1⟩

theorem ConsentUnfetched.step {accepted : LoginAcceptance} {reply : Reply}
    (h : ConsentUnfetched c accepted reply sent e) :
    e.step? = some .fetchConsent ∧ sent.length ≤ 1 := by
  cases h with
  | unsent hunsent => exact ⟨hunsent.step, Nat.zero_le 1⟩
  | unanswered hsent hunanswered => exact ⟨hunanswered.step, Nat.le_refl 1⟩
  | interrupted => exact ⟨rfl, Nat.le_refl 1⟩
  | unexpected => exact ⟨rfl, Nat.le_refl 1⟩
  | undecodable => exact ⟨rfl, Nat.le_refl 1⟩

theorem ConsentUnaccepted.step {endpoint redirectTo : String} {cookies : List Cookie}
    {reply : Reply} (h : ConsentUnaccepted c endpoint redirectTo cookies reply sent e) :
    e.step? = some .acceptConsent ∧ sent.length ≤ 1 := by
  cases h with
  | replay hreplay => exact hreplay.step
  | withoutCode => exact ⟨rfl, Nat.le_refl 1⟩

/-- A consent breaks at the step of the last request that was sent, or of the one that was not. -/
theorem ConsentBreaks.place (h : ConsentBreaks c r script sent e) :
    ∃ place step, Step.ofConsent[place]? = some step ∧ e.step? = some step ∧
      place ≤ sent.length ∧ sent.length ≤ place + 1 := by
  cases h with
  | acceptLogin h₁ => exact ⟨0, _, rfl, h₁.step.1, Nat.zero_le _, h₁.step.2⟩
  | fetchConsent h₁ h₂ =>
    exact ⟨1, _, rfl, h₂.step.1, Nat.le_add_left 1 _, Nat.succ_le_succ h₂.step.2⟩
  | acceptConsent h₁ h₂ h₃ =>
    exact ⟨2, _, rfl, h₃.step.1, Nat.le_add_left 2 _,
      Nat.succ_le_succ (Nat.succ_le_succ h₃.step.2)⟩

/-! ### The two cookies -/

/-- Cookies whose names begin with different texts have different names, unless one of the texts
begins with the other. -/
theorem Cookie.name_ne_of_begins {front front' : String} {d d' : Cookie}
    (hfront : ¬ front.toList <+: front'.toList) (hfront' : ¬ front'.toList <+: front.toList)
    (h : d.Begins front) (h' : d'.Begins front') : d.name ≠ d'.name := by
  intro hname
  rw [Begins, ← hname] at h'
  rcases List.prefix_or_prefix_of_prefix h h' with hprefix | hprefix
  · exact hfront hprefix
  · exact hfront' hprefix

theorem Consents.name_ne (h : Consents c r script sent grant)
    (hsession : ¬ r.cookieNames.sessionPrefix.toList <+: r.cookieNames.consentPrefix.toList)
    (hconsent : ¬ r.cookieNames.consentPrefix.toList <+: r.cookieNames.sessionPrefix.toList) :
    grant.authenticationSession.name ≠ grant.consentCookie.name := by
  obtain ⟨⟨a, -, ⟨-, -, -, hbegins⟩, ⟨-, -, -, hbegins'⟩⟩, -, -⟩ := h
  exact Cookie.name_ne_of_begins hsession hconsent hbegins hbegins'

/-! ### Every script -/

/-- Whatever the servers answer, what comes of a consent and what was sent for it are settled: it is
given where all is in order, and breaks at the first thing that is not, at the step of its request.
The two cookies that it yields have different names, unless what their names are to begin with does
not tell them apart. -/
theorem consent_settled (c : Client) (r : ConsentRequest) (script : List Reply) :
    let t := consent c r script
    (∀ sent grant, (t.requests = sent ∧ t.result = .ok grant) ↔ Consents c r script sent grant) ∧
      (∀ sent e, (t.requests = sent ∧ t.result = .error e) ↔ ConsentBreaks c r script sent e) ∧
      (∀ e, t.result = .error e →
        ∃ place step, Step.ofConsent[place]? = some step ∧ e.step? = some step ∧
          place ≤ t.requests.length ∧ t.requests.length ≤ place + 1) ∧
      t.unread = script.drop t.requests.length ∧
      ∀ grant, t.result = .ok grant →
        ¬ r.cookieNames.sessionPrefix.toList <+: r.cookieNames.consentPrefix.toList →
        ¬ r.cookieNames.consentPrefix.toList <+: r.cookieNames.sessionPrefix.toList →
        grant.authenticationSession.name ≠ grant.consentCookie.name := by
  intro t
  refine ⟨fun sent grant => comes_completeConsent_ok_iff, fun sent e =>
    comes_completeConsent_error_iff, fun e hresult => ?_, Dialogue.play_unread _ script,
    fun grant hresult hsession hconsent => ?_⟩
  · exact (comes_completeConsent_error_iff.mp ⟨rfl, hresult⟩).place
  · exact (comes_completeConsent_ok_iff.mp ⟨rfl, hresult⟩).name_ne hsession hconsent

/-- An address that the backend gives for the consent belongs to the request that it is for. -/
example :
    let t := consent ⟨5⟩ ⟨"http://idp/auth", "http://idp/?v=1", ⟨"csrf", "x", "csrf=x"⟩, .usual⟩
      [redirecting "/consent" ["oauth2_consent_csrf_1=a", "oauth2_authentication_session_1=b"],
        succeeding "\x7b\"redirect_to\":\"nowhere\"\x7d" []]
    t.requests.length = 2 ∧
      (match t.result with | .ok _ => none | .error e => e.step?) = some .acceptConsent := by
  decide +kernel

end

end CodeFlow
