import CodeFlow.Proofs.Flow.Registration
import CodeFlow.Proofs.Flow.Stopping

/-!
# Errors that the provider reports

A redirect of the provider may report an error in its address. Such a report wins over all else
that the redirect holds: the login ends with it, as if the redirect had brought nothing, and no
other request is sent. And a login ends with a reported error in no other case
(`reported_errors_win`).
-/

namespace CodeFlow

open CodeFlow.Http

/-! ## Reports -/

/-- The steps whose requests are answered by a redirect of the provider. -/
def Step.redirected : List Step := [.authorize, .acceptLogin, .acceptConsent]

/-- An answer redirects to an address in which the provider reports an error: the first parameter
of that name has a value. What is said about it is the first description, if there is one. -/
structure ReportsError (asked : Url) (a : Answer) (error description : String) : Prop where
  isRedirect : a.isRedirect = true
  location : ∃ location, redirectTarget? asked a = some location ∧
    location.pairs.lookup "error" = some error ∧ error ≠ "" ∧
    description = (location.pairs.lookup "error_description").getD ""

/-- The error of a login that the provider has ended at a step. -/
def FlowError.reported (step : Step) (error description : String) : FlowError :=
  .protocol step (.providerRejected error description)

section

variable {asked location : Url} {a : Answer} {error description : String}

/-- An empty parameter is as good as none. -/
theorem parameter?_getD (u : Url) (name : String) :
    (u.parameter? name).getD "" = (u.pairs.lookup name).getD "" := by
  unfold Url.parameter?
  cases u.pairs.lookup name with
  | none => rfl
  | some value =>
    by_cases hempty : value = "" <;> simp [Option.filter, hempty]

theorem providerError?_eq_some_iff {e : ProtocolError} :
    providerError? location = some e ↔
      ∃ error, location.pairs.lookup "error" = some error ∧ error ≠ "" ∧
        .providerRejected error ((location.pairs.lookup "error_description").getD "") = e := by
  unfold providerError?
  simp only [Option.map_eq_some_iff, parameter?_eq_some_iff, parameter?_getD, and_assoc]

/-- A reported error is read from a redirect before anything else. -/
theorem readRedirect_rejected_iff :
    readRedirect asked a = .error (.providerRejected error description) ↔
      ReportsError asked a error description := by
  have hreports : ReportsError asked a error description ↔
      a.isRedirect = true ∧ ∃ location, redirectTarget? asked a = some location ∧
        providerError? location = some (.providerRejected error description) := by
    constructor
    · rintro ⟨hstatus, location, htarget, herror, hne, rfl⟩
      exact ⟨hstatus, location, htarget, providerError?_eq_some_iff.mpr ⟨error, herror, hne, rfl⟩⟩
    · rintro ⟨hstatus, location, htarget, herror⟩
      obtain ⟨_, hlookup, hne, heq⟩ := providerError?_eq_some_iff.mp herror
      cases heq
      exact ⟨hstatus, location, htarget, hlookup, hne, rfl⟩
  rw [hreports]
  unfold readRedirect redirectTarget?
  cases a.isRedirect with
  | false => simp
  | true =>
    cases a.header? "location" with
    | none => simp
    | some text =>
      cases hjoin : (bareUrl asked).join text with
      | error fault => simp [hjoin, Except.toOption]
      | ok location =>
        cases herror : providerError? location with
        | none => simp [hjoin, herror, Except.toOption]
        | some e => simp [hjoin, herror, Except.toOption]

end

/-! ## What reading can report -/

section

variable {α : Type} {step : Step} {error description : String} {a : Answer} {q : Request}

theorem readThrough_reported_iff {read : Redirect → Except ProtocolError α} {step' : Step}
    (hread : ∀ redirect, read redirect ≠ .error (.providerRejected error description)) :
    readThrough step read q a = .error (.reported step' error description) ↔
      step' = step ∧ ReportsError q.url a error description := by
  unfold readThrough
  rw [atStep_eq_error_iff, ← readRedirect_rejected_iff]
  constructor
  · rintro ⟨fault, hfault, heq⟩
    cases heq
    rcases bind_eq_error_iff.mp hfault with hredirect | ⟨redirect, -, hrejected⟩
    · exact ⟨rfl, hredirect⟩
    · exact absurd hrejected (hread redirect)
  · rintro ⟨rfl, hredirect⟩
    exact ⟨_, bind_eq_error_iff.mpr (.inl hredirect), rfl⟩

theorem readGrant_ne_rejected (redirect : Redirect) :
    readGrant redirect ≠ .error (.providerRejected error description) := by
  unfold readGrant
  cases redirect.location.parameter? "login_challenge" with
  | none => simp
  | some challenge => cases redirect.cookies.head? <;> simp

theorem requireCookie_ne_rejected (cookies : List Cookie) (front : String) :
    requireCookie cookies front ≠ .error (.providerRejected error description) := by
  unfold requireCookie
  cases Cookie.findPrefix? cookies front <;> simp

theorem readAcceptance_ne_rejected (names : CookieNames) (redirect : Redirect) :
    readAcceptance names redirect ≠ .error (.providerRejected error description) := by
  intro h
  unfold readAcceptance at h
  split at h
  · rename_i hsession
    cases h
    exact requireCookie_ne_rejected _ _ hsession
  · split at h
    · rename_i hconsent
      cases h
      exact requireCookie_ne_rejected _ _ hconsent
    · cases h

theorem readCode_ne_rejected (redirect : Redirect) :
    readCode redirect ≠ .error (.providerRejected error description) := by
  unfold readCode
  cases redirect.location.parameter? "code" <;> simp

/-- No report is read from a body. -/
theorem readBody_ne_reported {form : Json.Form α} {step' : Step} :
    readBody step form a ≠ .error (.reported step' error description) := by
  unfold readBody readJson FlowError.reported
  cases a.text? with
  | none => simp
  | some text =>
    cases a.isSuccess with
    | false => simp [atStep]
    | true => cases hbody : form.ofText text <;> simp [atStep, hbody]

theorem readLoginReply_ne_reported :
    Client.readLoginReply a ≠ .error (.reported step error description) := by
  unfold Client.readLoginReply
  split
  · simp
  · rw [ne_eq, map_eq_error_iff]
    exact readBody_ne_reported

theorem readTokenAnswer_ne_reported {names : CookieNames} :
    Client.readTokenAnswer names a ≠ .error (.reported step error description) := by
  unfold Client.readTokenAnswer readTokens readExchange sessionId FlowError.reported
  cases a.isSuccess with
  | false => simp
  | true =>
    cases Cookie.position? (Cookie.capture a.headers) names.session with
    | none => simp [atStep]
    | some found =>
      by_cases hempty : found.2.value = ""
      · simp [atStep, hempty]
      · cases a.content?.map ExchangeBody.form.read with
        | none => simp [atStep, hempty]
        | some body => cases body <;> simp [atStep, hempty]

theorem Client.readRegistration_ne_reported :
    Client.readRegistration a ≠ .error (.reported step error description) := by
  unfold Client.readRegistration FlowError.reported
  split
  · simp
  · split <;> simp

/-- A connection that breaks or falls silent reports nothing. -/
theorem Trip.outcome_eq_reported_iff {t : Trip α} {reply : Reply} :
    t.outcome q reply = .error (.reported step error description) ↔
      ∃ a, reply = .answer a ∧ t.read q a = .error (.reported step error description) := by
  cases reply <;> simp [Trip.outcome, FlowError.reported]

theorem Trip.not_fails_reported {t : Trip α} {reply : Reply}
    (hrequest : t.request ≠ .error (.reported step error description))
    (hread : ∀ q a, t.read q a ≠ .error (.reported step error description)) :
    ¬ t.Fails reply (.reported step error description) := by
  rintro (hfault | ⟨q, -, houtcome⟩)
  · exact hrequest hfault
  · obtain ⟨a, -, hreported⟩ := Trip.outcome_eq_reported_iff.mp houtcome
    exact hread q a hreported

theorem Unsent.ne_reported {c : Client} {step' : Step} :
    ¬ Unsent c step q (.reported step' error description) := by
  intro h
  cases h

/-- An address that cannot be read is another error. -/
theorem Client.addressed_bind_ne_reported {c : Client} {endpoint : String} {step' : Step}
    {request : Url → Request} :
    (addressed step endpoint).bind (fun url => c.checked step (request url)) ≠
      .error (.reported step' error description) := by
  intro h
  cases (addressed_bind_eq_error_iff request).mp h with
  | unsent _ hunsent => exact Unsent.ne_reported hunsent

theorem Client.verifyTrip_request_ne_reported {c : Client} {endpoint code : String} :
    (c.verifyTrip endpoint code).request ≠ .error (.reported step error description) :=
  addressed_bind_ne_reported

theorem Client.postTrip_request_ne_reported {c : Client} {endpoint : String} {body : Json}
    {remark : Answer → Option Warning} {read : Answer → Except FlowError α} {step' : Step} :
    (c.postTrip step endpoint body remark read).request ≠
      .error (.reported step' error description) :=
  addressed_bind_ne_reported

/-- A registration ends in other ways. -/
theorem LoginFlow.register_ne_reported (f : LoginFlow) (seed : Draw 32) (c : Credentials)
    (script : List Reply) :
    ((f.register seed c).run.play script).result ≠ .error (.reported step error description) := by
  rw [f.register_eq, ne_eq, Trip.result_play_eq_error_iff]
  refine Trip.not_fails_reported (fun h => ?_) fun _ _ => Client.readRegistration_ne_reported
  rcases bind_eq_error_iff.mp h with hencrypt | ⟨password, -, hrequest⟩
  · cases hsealed : encrypt f.key seed c.password <;>
      simp [hsealed, Except.mapError, FlowError.reported] at hencrypt
  · exact Client.postTrip_request_ne_reported hrequest

/-- The verification of an account ends in other ways. -/
theorem LoginFlow.verifyAccount_ne_reported (f : LoginFlow) (code : String) (script : List Reply) :
    ((f.verifyAccount code).run.play script).result ≠ .error (.reported step error description) := by
  rw [f.verifyAccount_eq, ne_eq, Trip.result_play_eq_error_iff]
  refine Trip.not_fails_reported Client.verifyTrip_request_ne_reported fun _ a => ?_
  change (if a.isSuccess then _ else _) ≠ _
  split <;> simp [FlowError.reported]

end

/-! ## Reports on a leg -/

namespace LoginRun

variable {r : LoginRun} {script : List Reply} {leg : Leg} {q : Request} {step : Step}
  {error description : String}

/-- What keeps a request from being sent is another error. -/
theorem request_ne_reported : (r.trip leg).request ≠ .error (.reported step error description) := by
  intro h
  rcases request_eq_error_iff.mp h with haddress | ⟨url, -, hunsent⟩
  · rcases Leg.address_error haddress with heq | ⟨fault, heq⟩ <;> cases heq
  · exact Unsent.ne_reported hunsent

/-- An answer ends the login with a reported error just where it is a redirect that reports one. -/
theorem read_reported_iff {a : Answer} :
    (r.trip leg).read q a = .error (.reported step error description) ↔
      step = leg.step ∧ leg.step ∈ Step.redirected ∧ ReportsError q.url a error description := by
  cases leg with
  | authorize =>
    change readThrough .authorize readGrant q a = _ ↔ _
    rw [readThrough_reported_iff readGrant_ne_rejected]
    simp [Leg.step, Step.redirected]
  | submitLogin grant password =>
    change Client.readLoginReply a = _ ↔ _
    simp [readLoginReply_ne_reported, Leg.step, Step.redirected]
  | acceptLogin grant redirectTo =>
    change readThrough .acceptLogin (readAcceptance r.flow.config.cookies) q a = _ ↔ _
    rw [readThrough_reported_iff (readAcceptance_ne_rejected _)]
    simp [Leg.step, Step.redirected]
  | fetchConsent grant redirectTo accepted =>
    change (readBody .fetchConsent RedirectBody.form a).map _ = _ ↔ _
    simp [map_eq_error_iff, readBody_ne_reported, Leg.step, Step.redirected]
  | acceptConsent grant redirectTo accepted consentTo =>
    change readThrough .acceptConsent readCode q a = _ ↔ _
    rw [readThrough_reported_iff readCode_ne_rejected]
    simp [Leg.step, Step.redirected]
  | tokenExchange grant redirectTo consent =>
    change Client.readTokenAnswer r.flow.config.cookies a = _ ↔ _
    simp [readTokenAnswer_ne_reported, Leg.step, Step.redirected]

theorem fails_reported_iff :
    (r.trip leg).Fails (replyAt script leg.index) (.reported step error description) ↔
      ∃ q a, (r.trip leg).request = .ok q ∧ script[leg.index]? = some (.answer a) ∧
        step = leg.step ∧ leg.step ∈ Step.redirected ∧ ReportsError q.url a error description := by
  constructor
  · rintro (hrequest | ⟨q, hrequest, houtcome⟩)
    · exact absurd hrequest request_ne_reported
    · obtain ⟨a, hanswer, hread⟩ := Trip.outcome_eq_reported_iff.mp houtcome
      exact ⟨q, a, hrequest, replyAt_eq_answer_iff.mp hanswer, read_reported_iff.mp hread⟩
  · rintro ⟨q, a, hrequest, hanswer, hreports⟩
    refine .inr ⟨q, hrequest, Trip.outcome_eq_reported_iff.mpr ⟨a, ?_, ?_⟩⟩
    · exact replyAt_of_answer hanswer
    · exact read_reported_iff.mpr hreports

end LoginRun

/-! ## Runs -/

/-- What a run comes to if an error is reported in a place. -/
structure LoginRun.EndsReported (r : LoginRun) (script : List Reply) (place : Nat) (step : Step)
    (error description : String) : Prop where
  result : (r.dialogue.play script).result.1 = .error (.reported step error description)
  /-- No other request follows, and no other reply is read. -/
  requests : (r.dialogue.play script).requests.length = place + 1
  unread : (r.dialogue.play script).unread = script.drop (place + 1)
  stage : (r.dialogue.play script).result.2.state.stage =
    .failed (FlowError.reported step error description).message
  /-- Nothing is known but what was known before the answer. -/
  known : ∀ field, (r.dialogue.play script).result.2.state.isSet field = true ↔ field ∈ step.known
  /-- What is known is what would be known if the answer had never come. -/
  unrecorded : ∀ field, (r.dialogue.play script).result.2.state.get? field =
    (r.dialogue.play (script.take place)).result.2.state.get? field

theorem FlowState.get?_fail (s : FlowState) (reason : String) (field : Field) :
    (s.fail reason).get? field = s.get? field := by
  rw [fail_eq]
  cases field <;> rfl

theorem LoginRun.BreaksAt.endsReported {r : LoginRun} {script : List Reply} {leg : Leg}
    {q : Request} {error description : String} (hfresh : r.attempt.state = .new)
    (hvisits : r.Visits script leg) (hrequest : (r.trip leg).request = .ok q)
    (h : r.BreaksAt script leg.index leg.state (.reported leg.step error description)) :
    r.EndsReported script leg.index leg.step error description where
  result := h.result
  requests := h.requests
  unread := h.unread
  stage := by rw [h.state, FlowState.fail_of_open leg.isTerminal_state]
  known field := by rw [h.state, FlowState.isSet_fail, leg.isSet_state]
  unrecorded field := by
    rw [h.state, (broken_of_take hfresh hvisits hrequest).state, FlowState.get?_fail,
      FlowState.get?_fail]

/-- A reported error ends the login there and then, whatever else the redirect holds; and only a
redirect that reports an error ends a login in this way. No other call ends so at all. -/
theorem reported_errors_win {r : LoginRun} (harises : r.attempt.Arises) (script : List Reply) :
    (∀ (place : Nat) (step : Step) (q : Request) (a : Answer) (error description : String),
      Step.ofLogin[place]? = some step → step ∈ Step.redirected →
      (r.dialogue.play script).requests[place]? = some q → script[place]? = some (.answer a) →
      ReportsError q.url a error description →
      r.EndsReported script place step error description) ∧
    ∀ (step : Step) (error description : String),
      ((r.dialogue.play script).result.1 =
          .error (.protocol step (.providerRejected error description)) →
        ∃ (place : Nat) (q : Request) (a : Answer), Step.ofLogin[place]? = some step ∧
          step ∈ Step.redirected ∧ (r.dialogue.play script).requests[place]? = some q ∧
          script[place]? = some (.answer a) ∧ ReportsError q.url a error description) ∧
      (∀ seed credentials, ((r.flow.register seed credentials).run.play script).result ≠
        .error (.protocol step (.providerRejected error description))) ∧
      ∀ code, ((r.flow.verifyAccount code).run.play script).result ≠
        .error (.protocol step (.providerRejected error description)) := by
  constructor
  · intro place step q a error description hstep hredirected hq hanswer hreports
    obtain ⟨leg, hvisits, rfl, hrequest⟩ := LoginRun.visits_of_request harises hq
    rw [leg.ofLogin_index, Option.some.injEq] at hstep
    subst hstep
    have hfresh := LoginRun.fresh_of_request harises hq
    have houtcome : (r.trip leg).outcome q (replyAt script leg.index) =
        .error (.reported leg.step error description) := by
      rw [replyAt_of_answer hanswer]
      exact LoginRun.read_reported_iff.mpr ⟨rfl, hredirected, hreports⟩
    exact (LoginRun.broken_of_visits hfresh hvisits hrequest houtcome).endsReported hfresh hvisits
      hrequest
  · intro step error description
    refine ⟨fun hresult => ?_, fun seed c => r.flow.register_ne_reported seed c script,
      fun code => r.flow.verifyAccount_ne_reported code script⟩
    rcases harises.new_or_terminal with hfresh | hterminal
    · rcases LoginRun.exists_break hfresh hresult with ⟨fault, hfault⟩ | ⟨leg, hvisits, hfails⟩
      · cases hfault
      · obtain ⟨q, a, hrequest, hanswer, rfl, hredirected, hreports⟩ :=
          LoginRun.fails_reported_iff.mp hfails
        exact ⟨leg.index, q, a, leg.ofLogin_index, hredirected,
          (LoginRun.requests_getElem?_iff hfresh).mpr ⟨leg, hvisits, rfl, hrequest⟩, hanswer,
          hreports⟩
    -- a login that was run before is refused, and asks nobody
    · rw [LoginRun.dialogue, Attempt.run_of_terminal hterminal] at hresult
      cases hresult

/-- A redirect that brings a code next to an error. -/
def unwillingAnswer : Answer :=
  { status := 302
    headers := [⟨"Location", Text.Utf8.bytesOf
      "/cb?code=7&error=access%5Fdenied&error_description=no+thanks&error=x"⟩]
    body := some []
    received := .epoch }

theorem reported_errors_win_unwilling :
    simplestRun.attempt.Arises ∧
      simplestRun.EndsReported (willingServers.set 4 (.answer unwillingAnswer)) 4 .acceptConsent
        "access_denied" "no thanks" := by
  have harises : simplestRun.attempt.Arises := ⟨_, _, .same⟩
  have htarget : ((simplestRun.dialogue.play
      (willingServers.set 4 (.answer unwillingAnswer))).requests[4]?.bind fun q =>
        (redirectTarget? q.url unwillingAnswer).map fun location =>
          (location.pairs.lookup "error", location.pairs.lookup "error_description")) =
      some (some "access_denied", some "no thanks") := by
    decide +kernel
  obtain ⟨q, hq, hlookup⟩ := Option.bind_eq_some_iff.mp htarget
  obtain ⟨location, hlocation, hpair⟩ := Option.map_eq_some_iff.mp hlookup
  obtain ⟨herror, hdescription⟩ := Prod.mk.inj hpair
  refine ⟨harises, (reported_errors_win harises _).1 4 .acceptConsent q unwillingAnswer _ _ rfl
    (by decide) hq rfl ⟨rfl, location, hlocation, herror, by decide, ?_⟩⟩
  rw [hdescription, Option.getD_some]

end CodeFlow
