import CodeFlow.Flow.Attempt
import CodeFlow.Proofs.Flow.Trip

/-!
# The course of a login

A login goes from leg to leg: each leg is a trip, and what the trip yields leads to the next leg or
ends the login. `Course` lists the ways in which this can go, and `course_of_holds` says that a run
of a fresh login goes in one of them. What holds of every run is shown by induction on its course.
-/

namespace CodeFlow

open CodeFlow.Http

/-! ## Driving a login -/

namespace Drive

variable {α β : Type} {log : Log} {ws : List Warning} {s s' : FlowState}

theorem holds_say_iff {session : Session α} {result : Except FlowError α} :
    ((Drive.say session).run.run s).Holds log ws (result, s') ↔
      session.run.Holds log ws result ∧ s' = s := by
  change (session.run >>= fun result => pure (result, s)).Holds _ _ _ ↔ _
  rw [Dialogue.holds_bind_iff]
  constructor
  · rintro ⟨_, log₁, _, ws₁, _, h, hpure, rfl, rfl⟩
    obtain ⟨rfl, rfl, heq⟩ := Dialogue.holds_pure_iff.mp hpure
    cases heq
    simpa using h
  · rintro ⟨h, rfl⟩
    exact ⟨result, log, [], ws, [], h, .done _, by simp, by simp⟩

/-- A drive in two parts breaks off in the first, or goes on from the state that the first left. -/
theorem holds_bind_iff {m : Drive α} {k : α → Drive β} {result : Except FlowError β} :
    ((m >>= k).run.run s).Holds log ws (result, s') ↔
      (∃ e, (m.run.run s).Holds log ws (.error e, s') ∧ result = .error e) ∨
      ∃ a s₁ log₁ log₂ ws₁ ws₂, (m.run.run s).Holds log₁ ws₁ (.ok a, s₁) ∧
        ((k a).run.run s₁).Holds log₂ ws₂ (result, s') ∧ log = log₁ ++ log₂ ∧ ws = ws₁ ++ ws₂ := by
  rw [ExceptT.run_bind, StateT.run_bind, Dialogue.holds_bind_iff]
  constructor
  · rintro ⟨⟨_ | a, s₁⟩, log₁, log₂, ws₁, ws₂, h₁, h₂, rfl, rfl⟩
    -- behind an error nothing more is said, but the state that was left is kept
    · obtain ⟨rfl, rfl, heq⟩ := Dialogue.holds_pure_iff.mp h₂
      cases heq
      simp only [List.append_nil]
      exact .inl ⟨_, h₁, rfl⟩
    · exact .inr ⟨a, s₁, log₁, log₂, ws₁, ws₂, h₁, h₂, rfl, rfl⟩
  · rintro (⟨e, h, rfl⟩ | ⟨a, s₁, log₁, log₂, ws₁, ws₂, h₁, h₂, rfl, rfl⟩)
    · exact ⟨_, log, [], ws, [], h, .done _, by simp, by simp⟩
    · exact ⟨_, log₁, log₂, ws₁, ws₂, h₁, h₂, rfl, rfl⟩

/-- A transition that is made says nothing. -/
theorem run_record_bind {transition : Transition} {k : Unit → Drive β}
    (h : transition.run.run s = (.ok (), s')) :
    ((Drive.record transition >>= k).run.run s) = (k ()).run.run s' := by
  have hrecord : (Drive.record transition).run.run s = pure (.ok (), s') := by
    change pure (transition.run.run s) = _
    rw [h]
  rw [ExceptT.run_bind, StateT.run_bind, hrecord, pure_bind]

/-- A transition that is refused breaks off. -/
theorem run_record_refused_bind {transition : Transition} {e : FlowError} {k : Unit → Drive β}
    (h : transition.run.run s = (.error e, s')) :
    ((Drive.record transition >>= k).run.run s) = .done (.error e, s') := by
  have hrecord : (Drive.record transition).run.run s = pure (.error e, s') := by
    change pure (transition.run.run s) = _
    rw [h]
  rw [ExceptT.run_bind, StateT.run_bind, hrecord, pure_bind]
  rfl

theorem say_pure (a : α) : Drive.say (pure a) = pure a := by
  refine ExceptT.ext (StateT.ext fun s => ?_)
  exact pure_bind ..

/-- Breaking off leaves the state as it is. -/
theorem run_say_throw_bind {e : FlowError} {k : α → Drive β} :
    ((Drive.say (throw e) >>= k).run.run s) = .done (.error e, s) := rfl

/-- Saying two things one after the other is saying both at once. -/
theorem say_bind {session : Session α} {k : α → Session β} :
    Drive.say (session >>= k) = Drive.say session >>= fun a => Drive.say (k a) := by
  refine ExceptT.ext (StateT.ext fun s => ?_)
  rw [ExceptT.run_bind, StateT.run_bind]
  change ((session >>= k).run >>= fun result => pure (result, s)) =
    (session.run >>= fun result => pure (result, s)) >>= _
  rw [ExceptT.run_bind, bind_assoc, bind_assoc]
  refine bind_congr fun result => ?_
  cases result with
  | error e => rw [pure_bind, pure_bind]; rfl
  | ok a => rw [pure_bind]; rfl

end Drive

/-! ## Legs -/

/-- What a run is given. -/
structure LoginRun where
  flow : LoginFlow
  attempt : Attempt
  seed : Draw 32
  credentials : Credentials

/-- The steps of a login in their order. -/
def Step.ofLogin : List Step :=
  [.authorize, .submitLogin, .acceptLogin, .fetchConsent, .acceptConsent, .tokenExchange]

/-- Where a login stands between two requests: the step that comes next, with what the steps
before it have brought. -/
inductive Leg where
  | authorize
  | submitLogin (grant : AuthorizationGrant) (password : String)
  | acceptLogin (grant : AuthorizationGrant) (redirectTo : String)
  | fetchConsent (grant : AuthorizationGrant) (redirectTo : String) (accepted : LoginAcceptance)
  | acceptConsent (grant : AuthorizationGrant) (redirectTo : String) (accepted : LoginAcceptance)
      (consentTo : String)
  | tokenExchange (grant : AuthorizationGrant) (redirectTo : String) (consent : ConsentGrant)

namespace FlowState

/-- The state once the provider knows of the login. -/
def authorized (grant : AuthorizationGrant) : FlowState :=
  { new with
    stage := .authorized
    loginChallenge := some grant.loginChallenge
    authenticationCookie := some grant.csrfCookie }

/-- The state once the backend has accepted the credentials. -/
def submitted (grant : AuthorizationGrant) (redirectTo : String) : FlowState :=
  { authorized grant with
    stage := .credentialsSubmitted
    redirectTo := some redirectTo }

/-- The state once the provider has handed out a code. -/
def consented (grant : AuthorizationGrant) (redirectTo : String) (consent : ConsentGrant) :
    FlowState :=
  { submitted grant redirectTo with
    stage := .consented
    authenticationSession := some consent.authenticationSession
    consentCookie := some consent.consentCookie
    authorizationCode := some consent.authorizationCode }

/-- The state once the code was redeemed. -/
def exchanged (grant : AuthorizationGrant) (redirectTo : String) (consent : ConsentGrant)
    (tokens : Tokens) : FlowState :=
  { consented grant redirectTo consent with
    stage := .tokenExchanged
    accessToken := some tokens.accessToken
    sessionId := some tokens.sessionId
    expiresIn := tokens.expiresIn
    expiresAt := tokens.expiresAt }

/-- The state once the credentials were refused. -/
def refused (grant : AuthorizationGrant) : FlowState :=
  { authorized grant with stage := .rejected }

theorem expect_new : (expect .init).run.run new = (.ok (), new) := rfl

theorem recordAuthorization_new (grant : AuthorizationGrant) :
    (recordAuthorization grant.loginChallenge grant.csrfCookie).run.run new =
      (.ok (), authorized grant) := rfl

theorem recordRejection_authorized (grant : AuthorizationGrant) :
    recordRejection.run.run (authorized grant) = (.ok (), refused grant) := rfl

theorem recordLogin_authorized (grant : AuthorizationGrant) (redirectTo : String) :
    (recordLogin redirectTo).run.run (authorized grant) = (.ok (), submitted grant redirectTo) := rfl

theorem recordConsent_submitted (grant : AuthorizationGrant) (redirectTo : String)
    (consent : ConsentGrant) :
    (recordConsent consent.authenticationSession consent.consentCookie
      consent.authorizationCode).run.run (submitted grant redirectTo) =
      (.ok (), consented grant redirectTo consent) := rfl

theorem recordTokens_consented (grant : AuthorizationGrant) (redirectTo : String)
    (consent : ConsentGrant) (tokens : Tokens) :
    (recordTokens tokens).run.run (consented grant redirectTo consent) =
      (.ok (), exchanged grant redirectTo consent tokens) := rfl

end FlowState

namespace Leg

/-- The step of a leg. -/
def step : Leg → Step
  | .authorize => .authorize
  | .submitLogin .. => .submitLogin
  | .acceptLogin .. => .acceptLogin
  | .fetchConsent .. => .fetchConsent
  | .acceptConsent .. => .acceptConsent
  | .tokenExchange .. => .tokenExchange

theorem step_mem_ofLogin (leg : Leg) : leg.step ∈ Step.ofLogin := by
  cases leg <;> simp [step, Step.ofLogin]

/-- The state of the login on a leg. -/
def state : Leg → FlowState
  | .authorize => .new
  | .submitLogin grant _ => .authorized grant
  | .acceptLogin grant redirectTo => .submitted grant redirectTo
  | .fetchConsent grant redirectTo _ => .submitted grant redirectTo
  | .acceptConsent grant redirectTo _ _ => .submitted grant redirectTo
  | .tokenExchange grant redirectTo consent => .consented grant redirectTo consent

/-- What the trip of a leg yields. -/
@[reducible]
def Yield : Leg → Type
  | .authorize => AuthorizationGrant
  | .submitLogin .. => LoginReply
  | .acceptLogin .. => LoginAcceptance
  | .fetchConsent .. => String
  | .acceptConsent .. => String
  | .tokenExchange .. => Tokens

end Leg

/-- What a leg leads to: another leg, or the end of the login. -/
inductive Landing where
  | onward (leg : Leg)
  | last (result : Except FlowError LoginOutcome) (state : FlowState)

namespace LoginRun

/-- The trip of a leg. -/
def trip (r : LoginRun) : (leg : Leg) → Trip leg.Yield
  | .authorize =>
    r.flow.client.authorizeTrip (r.attempt.authorizationRequest r.flow.config)
  | .submitLogin grant password =>
    r.flow.client.submitTrip r.flow.config.backend.login
      ⟨r.credentials.email, password, grant.loginChallenge⟩
  | .acceptLogin grant redirectTo =>
    r.flow.client.acceptLoginTrip
      ⟨r.flow.config.authorizeEndpoint, redirectTo, grant.csrfCookie, r.flow.config.cookies⟩
  | .fetchConsent _ _ accepted =>
    r.flow.client.fetchConsentTrip accepted.consentUrl
      [accepted.authenticationSession, accepted.consentCookie]
  | .acceptConsent _ _ accepted consentTo =>
    r.flow.client.acceptConsentTrip r.flow.config.authorizeEndpoint consentTo
      [accepted.authenticationSession, accepted.consentCookie]
  | .tokenExchange _ _ consent =>
    r.flow.client.exchangeTrip r.flow.config.backend.tokenExchange
      (r.attempt.exchangeRequest r.flow.config consent.authorizationCode) r.flow.config.cookies

/-- What the yield of a leg leads to. The password is encrypted behind the first leg. -/
def next (r : LoginRun) : (leg : Leg) → leg.Yield → Landing
  | .authorize, grant =>
    match LoginFlow.encrypt r.flow.key r.seed r.credentials.password with
    | .error e => .last (.error (.crypto e)) (.authorized grant)
    | .ok password => .onward (.submitLogin grant password)
  | .submitLogin grant _, reply =>
    match reply with
    | .rejected rejection =>
      .last (.ok (.invalidCredentials rejection)) (.refused grant)
    | .accepted redirectTo => .onward (.acceptLogin grant redirectTo)
  | .acceptLogin grant redirectTo, accepted => .onward (.fetchConsent grant redirectTo accepted)
  | .fetchConsent grant redirectTo accepted, consentTo =>
    .onward (.acceptConsent grant redirectTo accepted consentTo)
  | .acceptConsent grant redirectTo accepted _, code =>
    .onward (.tokenExchange grant redirectTo
      ⟨accepted.authenticationSession, accepted.consentCookie, code⟩)
  | .tokenExchange grant redirectTo consent, tokens =>
    .last (.ok (.authenticated tokens)) (.exchanged grant redirectTo consent tokens)

/-- The dialogue of a run. -/
def dialogue (r : LoginRun) : Dialogue (Except FlowError LoginOutcome × Attempt) :=
  r.attempt.run r.flow r.seed r.credentials

theorem dialogue_mk (f : LoginFlow) (a : Attempt) (seed : Draw 32) (credentials : Credentials) :
    (LoginRun.mk f a seed credentials).dialogue = a.run f seed credentials := rfl

end LoginRun

/-! ## Where legs lead -/

/-- A login is over in one of three ways: by a fault of the encryption behind the first request, by
refused credentials, or with tokens. -/
theorem LoginRun.next_last {r : LoginRun} {leg : Leg} {y : leg.Yield}
    {result : Except FlowError LoginOutcome} {state : FlowState}
    (h : r.next leg y = .last result state) :
    (∃ grant fault, leg = .authorize ∧ result = .error (.crypto fault) ∧
      state = .authorized grant) ∨
    (∃ grant password rejection, leg = .submitLogin grant password ∧
      result = .ok (.invalidCredentials rejection) ∧ state = .refused grant) ∨
    ∃ grant redirectTo consent tokens, leg = .tokenExchange grant redirectTo consent ∧
      result = .ok (.authenticated tokens) ∧ state = .exchanged grant redirectTo consent tokens := by
  cases leg with
  | authorize =>
    simp only [next] at h
    split at h
    · cases h
      exact .inl ⟨_, _, rfl, rfl, rfl⟩
    · cases h
  | submitLogin grant password =>
    cases y with
    | rejected rejection =>
      cases h
      exact .inr (.inl ⟨_, _, _, rfl, rfl, rfl⟩)
    | accepted redirectTo => cases h
  | acceptLogin => cases h
  | fetchConsent => cases h
  | acceptConsent => cases h
  | tokenExchange grant redirectTo consent =>
    cases h
    exact .inr (.inr ⟨_, _, _, _, rfl, rfl, rfl⟩)

/-! ## What goes wrong on a leg -/

theorem LoginRun.trip_step (r : LoginRun) (leg : Leg) : (r.trip leg).step = leg.step := by
  cases leg <;> rfl

/-- A reply of no use is reported at the step of the leg. -/
theorem LoginRun.outcome_error_step {r : LoginRun} {leg : Leg} {q : Request} {reply : Reply}
    {e : FlowError} (h : (r.trip leg).outcome q reply = .error e) : e.step? = some leg.step := by
  rw [← r.trip_step leg]
  refine Trip.outcome_error_step (fun a e h => ?_) h
  -- each leg reads its answers in its own way, and each way reports at its own step
  cases leg with
  | authorize =>
    obtain ⟨fault, -, rfl⟩ := atStep_eq_error_iff.mp h
    rfl
  | submitLogin grant password => exact Client.readLoginReply_error h
  | acceptLogin grant redirectTo =>
    obtain ⟨fault, -, rfl⟩ := atStep_eq_error_iff.mp h
    rfl
  | fetchConsent grant redirectTo accepted => exact readBody_error_step (map_eq_error_iff.mp h)
  | acceptConsent grant redirectTo accepted consentTo =>
    obtain ⟨fault, -, rfl⟩ := atStep_eq_error_iff.mp h
    rfl
  | tokenExchange grant redirectTo consent => exact Client.readTokenAnswer_error h

/-! ## Courses -/

/-- The ways in which a login goes from a leg to its end: the log of its requests, its warnings,
its result, and the state before an error closes it. -/
inductive Course (r : LoginRun) :
    Leg → Log → List Warning → Except FlowError LoginOutcome → FlowState → Prop where
  /-- The request is refused before it is sent. -/
  | refused {leg : Leg} {e : FlowError} :
      (r.trip leg).request = .error e → Course r leg [] [] (.error e) leg.state
  /-- The reply is of no use. -/
  | broken {leg : Leg} {q : Request} {reply : Reply} {e : FlowError} :
      (r.trip leg).request = .ok q → (r.trip leg).outcome q reply = .error e →
      Course r leg [(q, reply)] ((r.trip leg).remarks reply) (.error e) leg.state
  /-- The reply ends the login. -/
  | last {leg : Leg} {q : Request} {reply : Reply} {y : leg.Yield}
      {result : Except FlowError LoginOutcome} {state : FlowState} :
      (r.trip leg).request = .ok q → (r.trip leg).outcome q reply = .ok y →
      r.next leg y = .last result state →
      Course r leg [(q, reply)] ((r.trip leg).remarks reply) result state
  /-- The reply leads to another leg. -/
  | onward {leg leg' : Leg} {q : Request} {reply : Reply} {y : leg.Yield} {log : Log}
      {ws : List Warning} {result : Except FlowError LoginOutcome} {state : FlowState} :
      (r.trip leg).request = .ok q → (r.trip leg).outcome q reply = .ok y →
      r.next leg y = .onward leg' → Course r leg' log ws result state →
      Course r leg ((q, reply) :: log) ((r.trip leg).remarks reply ++ ws) result state

/-- How a login goes on from a landing. -/
def Landing.Goes (r : LoginRun) (log : Log) (ws : List Warning)
    (result : Except FlowError LoginOutcome) (state : FlowState) : Landing → Prop
  | .onward leg => Course r leg log ws result state
  | .last result' state' => log = [] ∧ ws = [] ∧ result = result' ∧ state = state'

/-- A login that makes the trip of a leg, and then goes on as the leg says, has a course. -/
theorem Course.of_say {r : LoginRun} (leg : Leg) {k : leg.Yield → Drive LoginOutcome} {log : Log}
    {ws : List Warning} {result : Except FlowError LoginOutcome} {state : FlowState}
    (hk : ∀ y log ws, ((k y).run.run leg.state).Holds log ws (result, state) →
      (r.next leg y).Goes r log ws result state)
    (h : ((Drive.say (r.trip leg).session >>= k).run.run leg.state).Holds log ws (result, state)) :
    Course r leg log ws result state := by
  rcases Drive.holds_bind_iff.mp h with
    ⟨e, hsay, rfl⟩ | ⟨y, s₁, log₁, log₂, ws₁, ws₂, hsay, hrest, rfl, rfl⟩
  -- the trip breaks off, before its request or behind its reply
  · obtain ⟨htrip, rfl⟩ := Drive.holds_say_iff.mp hsay
    rcases Trip.holds_session_iff.mp htrip with
      ⟨e', hrequest, rfl, rfl, he⟩ | ⟨q, reply, hrequest, rfl, rfl, he⟩
    · cases he
      exact .refused hrequest
    · exact .broken hrequest he.symm
  -- the trip yields something, and the landing says what follows
  · obtain ⟨htrip, rfl⟩ := Drive.holds_say_iff.mp hsay
    rcases Trip.holds_session_iff.mp htrip with
      ⟨e', hrequest, rfl, rfl, he⟩ | ⟨q, reply, hrequest, rfl, rfl, hy⟩
    · cases he
    · have hgoes := hk y log₂ ws₂ hrest
      cases hnext : r.next leg y with
      | onward leg' =>
        rw [hnext] at hgoes
        exact .onward hrequest hy.symm hnext hgoes
      | last result' state' =>
        rw [hnext] at hgoes
        obtain ⟨rfl, rfl, rfl, rfl⟩ := hgoes
        rw [List.append_nil, List.append_nil]
        exact .last hrequest hy.symm hnext

namespace LoginRun

variable {r : LoginRun} {log : Log} {ws : List Warning} {result : Except FlowError LoginOutcome}
  {state : FlowState}

/-- The last leg: the code is redeemed. -/
theorem course_of_redeeming {grant : AuthorizationGrant} {redirectTo : String}
    {consent : ConsentGrant}
    (h : ((Drive.say (r.flow.client.exchange r.flow.config.backend.tokenExchange
        (r.attempt.exchangeRequest r.flow.config consent.authorizationCode) r.flow.config.cookies) >>=
      fun tokens => Drive.record (FlowState.recordTokens tokens) >>= fun _ =>
        pure (.authenticated tokens)).run.run (.consented grant redirectTo consent)).Holds
      log ws (result, state)) :
    Course r (.tokenExchange grant redirectTo consent) log ws result state := by
  rw [Client.exchange_eq] at h
  refine Course.of_say (.tokenExchange grant redirectTo consent) (fun tokens log ws h => ?_) h
  rw [Leg.state, Drive.run_record_bind (FlowState.recordTokens_consented ..)] at h
  obtain ⟨rfl, rfl, heq⟩ := Dialogue.holds_pure_iff.mp h
  cases heq
  exact ⟨rfl, rfl, rfl, rfl⟩

/-- The three legs of the consent, and the last one. -/
theorem course_of_redeem {grant : AuthorizationGrant} {redirectTo : String}
    (h : ((r.attempt.redeem r.flow grant.csrfCookie redirectTo).run.run
      (.submitted grant redirectTo)).Holds log ws (result, state)) :
    Course r (.acceptLogin grant redirectTo) log ws result state := by
  unfold Attempt.redeem Client.completeConsent at h
  -- each call is brought in front of all that follows it, where `Course.of_say` takes it
  simp only [Drive.say_bind, bind_assoc, Client.acceptLogin_eq, Client.fetchConsent_eq,
    Client.acceptConsent_eq] at h
  refine Course.of_say (.acceptLogin grant redirectTo) (fun accepted log ws h => ?_) h
  refine Course.of_say (.fetchConsent grant redirectTo accepted) (fun consentTo log ws h => ?_) h
  refine Course.of_say (.acceptConsent grant redirectTo accepted consentTo)
    (fun code log ws h => ?_) h
  rw [Drive.say_pure, pure_bind, Leg.state,
    Drive.run_record_bind (FlowState.recordConsent_submitted _ _
      ⟨accepted.authenticationSession, accepted.consentCookie, code⟩)] at h
  exact course_of_redeeming h

/-- From the first leg on. -/
theorem course_of_drive
    (h : ((r.attempt.drive r.flow r.seed r.credentials).run.run .new).Holds log ws (result, state)) :
    Course r .authorize log ws result state := by
  unfold Attempt.drive at h
  rw [Drive.run_record_bind FlowState.expect_new, Client.authorize_eq] at h
  refine Course.of_say .authorize (fun grant log ws h => ?_) h
  rw [Leg.state, Drive.run_record_bind (FlowState.recordAuthorization_new grant)] at h
  unfold LoginFlow.encrypted at h
  -- the encryption makes no request, so it belongs to what the first leg leads to
  cases hencrypt : LoginFlow.encrypt r.flow.key r.seed r.credentials.password with
  | error e =>
    rw [hencrypt, Drive.run_say_throw_bind] at h
    obtain ⟨rfl, rfl, heq⟩ := Dialogue.holds_done_iff.mp h
    cases heq
    simp only [next, hencrypt]
    exact ⟨rfl, rfl, rfl, rfl⟩
  | ok password =>
    rw [hencrypt, Drive.say_pure, pure_bind, Client.submitLogin_eq] at h
    simp only [next, hencrypt]
    refine Course.of_say (.submitLogin grant password) (fun reply log ws h => ?_) h
    cases reply with
    | rejected rejection =>
      rw [Leg.state, Drive.run_record_bind (FlowState.recordRejection_authorized grant)] at h
      obtain ⟨rfl, rfl, heq⟩ := Dialogue.holds_pure_iff.mp h
      cases heq
      exact ⟨rfl, rfl, rfl, rfl⟩
    | accepted redirectTo =>
      rw [Leg.state, Drive.run_record_bind (FlowState.recordLogin_authorized grant redirectTo)] at h
      exact course_of_redeem h

/-- A run of a fresh login goes in one of the courses; an error then closes its state. -/
theorem course_of_holds {a : Attempt} (hfresh : r.attempt.state = .new)
    (h : r.dialogue.Holds log ws (result, a)) :
    ∃ state, Course r .authorize log ws result state ∧
      a = { r.attempt with state := Attempt.close result state } := by
  unfold dialogue Attempt.run at h
  -- what follows the drive only closes the state
  rw [hfresh, Dialogue.holds_bind_iff] at h
  obtain ⟨⟨result', state⟩, log₁, _, ws₁, _, hdrive, hpure, rfl, rfl⟩ := h
  obtain ⟨rfl, rfl, heq⟩ := Dialogue.holds_pure_iff.mp hpure
  cases heq
  simp only [List.append_nil]
  exact ⟨state, course_of_drive hdrive, rfl⟩

/-- A fresh login that is played against a script goes in one of the courses. -/
theorem course_of_play (hfresh : r.attempt.state = .new) (script : List Reply) :
    ∃ state, Course r .authorize ((r.dialogue.play script).log script)
        (r.dialogue.play script).warnings (r.dialogue.play script).result.1 state ∧
      (r.dialogue.play script).result.2 =
        { r.attempt with state := Attempt.close (r.dialogue.play script).result.1 state } := by
  have hheld := r.dialogue.holds_play script
  generalize (r.dialogue.play script).result = out at hheld
  exact course_of_holds hfresh hheld

end LoginRun

end CodeFlow
