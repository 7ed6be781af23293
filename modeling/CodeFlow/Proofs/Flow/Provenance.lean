import CodeFlow.Proofs.Flow.Bodies
import CodeFlow.Proofs.Flow.Course
import CodeFlow.Proofs.Flow.Reading

/-!
# Where the values of a login come from

Each value that a completed login has recorded was read from one answer, and what was sent on was
that value. All of it agrees: what the answers hold, what the state holds, what the requests carry,
and the tokens that are returned.
-/

namespace CodeFlow

open CodeFlow.Http

/-! ## What answers hold -/

/-- The first parameter with a name in the address that an answer redirects to. -/
def redirectParameter? (e : Request × Answer) (name : String) : Option String :=
  (redirectTarget? e.1.url e.2).bind fun location => location.pairs.lookup name

/-! ## Completed logins -/

/-- What was asked and answered at each step of a completed login. -/
structure Itinerary where
  authorize : Request × Answer
  submitLogin : Request × Answer
  acceptLogin : Request × Answer
  fetchConsent : Request × Answer
  acceptConsent : Request × Answer
  tokenExchange : Request × Answer

namespace Itinerary

/-- All of it in its order. -/
def exchanges (i : Itinerary) : List (Request × Answer) :=
  [i.authorize, i.submitLogin, i.acceptLogin, i.fetchConsent, i.acceptConsent, i.tokenExchange]

def requests (i : Itinerary) : List Request :=
  i.exchanges.map Prod.fst

def replies (i : Itinerary) : List Reply :=
  i.exchanges.map fun e => .answer e.2

/-- The state of a completed login and its tokens agree with what was asked and answered. -/
structure Traced (i : Itinerary) (names : CookieNames) (state : FlowState) (tokens : Tokens) :
    Prop where
  challenge : ∃ challenge, state.loginChallenge = some challenge ∧ challenge ≠ "" ∧
    redirectParameter? i.authorize "login_challenge" = some challenge ∧
    i.submitLogin.1.member? "loginChallenge" = some (.str challenge)
  csrf : ∃ csrf, state.authenticationCookie = some csrf ∧
    (Cookie.capture i.authorize.2.headers).head? = some csrf
  redirect : ∃ redirectTo text, state.redirectTo = some redirectTo ∧
    i.submitLogin.2.text? = some text ∧ RedirectBody.form.ofText text = .ok ⟨redirectTo⟩
  session : ∃ session, state.authenticationSession = some session ∧
    Cookie.findPrefix? (Cookie.capture i.acceptLogin.2.headers) names.sessionPrefix = some session
  consent : ∃ consent, state.consentCookie = some consent ∧
    Cookie.findPrefix? (Cookie.capture i.acceptLogin.2.headers) names.consentPrefix = some consent
  code : ∃ code, state.authorizationCode = some code ∧ code ≠ "" ∧
    redirectParameter? i.acceptConsent "code" = some code ∧
    i.tokenExchange.1.member? "code" = some (.str code)
  /-- What is returned is what the last answer holds and what the state holds. -/
  tokens : ∃ body sessionId,
    i.tokenExchange.2.content?.map ExchangeBody.form.read = some (.ok body) ∧
    (Cookie.find? (Cookie.capture i.tokenExchange.2.headers) names.session).map Cookie.value =
      some sessionId ∧ sessionId ≠ "" ∧
    state.accessToken = some body.accessToken ∧ state.sessionId = some sessionId ∧
    state.expiresIn = body.expiresIn ∧ state.expiresAt = body.expiresAt ∧
    tokens.accessToken = body.accessToken ∧ tokens.sessionId = sessionId ∧
    tokens.expiresIn = body.expiresIn ∧ tokens.expiresAt = body.expiresAt

end Itinerary

/-! ## What each leg has read -/

/-- A parameter that was read from a redirect is the first of its name, and is not empty. -/
theorem redirectParameter?_of_readRedirect {q : Request} {a : Answer} {redirect : Redirect}
    {name value : String} (hredirect : readRedirect q.url a = .ok redirect)
    (h : redirect.location.parameter? name = some value) :
    redirectParameter? (q, a) name = some value ∧ value ≠ "" := by
  obtain ⟨-, htarget, -, -⟩ := readRedirect_eq_ok_iff.mp hredirect
  obtain ⟨hlookup, hne⟩ := parameter?_eq_some_iff.mp h
  refine ⟨?_, hne⟩
  rw [redirectParameter?, htarget, Option.bind_some, hlookup]

namespace LoginRun

variable {r : LoginRun} {q : Request} {a : Answer} {grant : AuthorizationGrant}
  {redirectTo : String}

/-- The grant comes from the first answer. -/
theorem read_authorize (h : (r.trip .authorize).read q a = .ok grant) :
    redirectParameter? (q, a) "login_challenge" = some grant.loginChallenge ∧
      grant.loginChallenge ≠ "" ∧
      (Cookie.capture a.headers).head? = some grant.csrfCookie := by
  obtain ⟨redirect, hredirect, hgrant⟩ := readThrough_eq_ok_iff.mp h
  obtain ⟨hchallenge, hcsrf⟩ := readGrant_eq_ok_iff.mp hgrant
  obtain ⟨-, -, -, hcookies⟩ := readRedirect_eq_ok_iff.mp hredirect
  obtain ⟨hparameter, hne⟩ := redirectParameter?_of_readRedirect hredirect hchallenge
  exact ⟨hparameter, hne, hcookies ▸ hcsrf⟩

/-- The address to go to comes from the second answer. -/
theorem read_submitLogin {password : String}
    (h : (r.trip (.submitLogin grant password)).read q a = .ok (.accepted redirectTo)) :
    ∃ text, a.text? = some text ∧ RedirectBody.form.ofText text = .ok ⟨redirectTo⟩ := by
  obtain ⟨-, hbody⟩ := readLoginReply_accepted_iff.mp h
  exact (readBody_eq_ok_iff.mp hbody).2

/-- Both cookies of the provider come from the third answer. -/
theorem read_acceptLogin {accepted : LoginAcceptance}
    (h : (r.trip (.acceptLogin grant redirectTo)).read q a = .ok accepted) :
    Cookie.findPrefix? (Cookie.capture a.headers) r.flow.config.cookies.sessionPrefix =
        some accepted.authenticationSession ∧
      Cookie.findPrefix? (Cookie.capture a.headers) r.flow.config.cookies.consentPrefix =
        some accepted.consentCookie := by
  obtain ⟨redirect, hredirect, haccepted⟩ := readThrough_eq_ok_iff.mp h
  obtain ⟨-, hsession, hconsent⟩ := readAcceptance_eq_ok_iff.mp haccepted
  obtain ⟨-, -, -, hcookies⟩ := readRedirect_eq_ok_iff.mp hredirect
  exact ⟨hcookies ▸ hsession, hcookies ▸ hconsent⟩

/-- The code comes from the fifth answer. -/
theorem read_acceptConsent {accepted : LoginAcceptance} {consentTo code : String}
    (h : (r.trip (.acceptConsent grant redirectTo accepted consentTo)).read q a = .ok code) :
    redirectParameter? (q, a) "code" = some code ∧ code ≠ "" := by
  obtain ⟨redirect, hredirect, hcode⟩ := readThrough_eq_ok_iff.mp h
  exact redirectParameter?_of_readRedirect hredirect (readCode_eq_ok_iff.mp hcode)

/-- The tokens come from the last answer. -/
theorem read_tokenExchange {consent : ConsentGrant} {tokens : Tokens}
    (h : (r.trip (.tokenExchange grant redirectTo consent)).read q a = .ok tokens) :
    a.content?.map ExchangeBody.form.read =
        some (.ok ⟨tokens.accessToken, tokens.expiresIn, tokens.expiresAt⟩) ∧
      (Cookie.find? (Cookie.capture a.headers) r.flow.config.cookies.session).map Cookie.value =
        some tokens.sessionId ∧ tokens.sessionId ≠ "" := by
  obtain ⟨-, htokens⟩ := readTokenAnswer_eq_ok_iff.mp h
  obtain ⟨hsession, hbody, -⟩ := readTokens_eq_ok_iff.mp htokens
  obtain ⟨hfound, hne⟩ := sessionId_eq_ok_iff.mp hsession
  exact ⟨readExchange_eq_ok_iff.mp hbody, hfound, hne⟩

end LoginRun

/-! ## Completed courses -/

/-- A leg is passed: its request is made, and its answer yields something. -/
def LoginRun.Passes (r : LoginRun) (leg : Leg) (e : Request × Answer) (y : leg.Yield) : Prop :=
  (r.trip leg).request = .ok e.1 ∧ (r.trip leg).read e.1 e.2 = .ok y

/-- A login that does not end in an error passes the leg that it is on. -/
theorem Course.passes {r : LoginRun} {leg : Leg} {log : Log} {ws : List Warning}
    {outcome : LoginOutcome} {state : FlowState} (h : Course r leg log ws (.ok outcome) state) :
    ∃ e y log', r.Passes leg e y ∧ log = (e.1, .answer e.2) :: log' ∧
      ((r.next leg y = .last (.ok outcome) state ∧ log' = []) ∨
        ∃ leg' ws', r.next leg y = .onward leg' ∧ Course r leg' log' ws' (.ok outcome) state) := by
  cases h with
  | last hrequest houtcome hnext =>
    obtain ⟨a, rfl, hread⟩ := Trip.outcome_eq_ok_iff.mp houtcome
    exact ⟨(_, a), _, [], ⟨hrequest, hread⟩, rfl, .inl ⟨hnext, rfl⟩⟩
  | onward hrequest houtcome hnext hcourse =>
    obtain ⟨a, rfl, hread⟩ := Trip.outcome_eq_ok_iff.mp houtcome
    exact ⟨(_, a), _, _, ⟨hrequest, hread⟩, rfl, .inr ⟨_, _, hnext, hcourse⟩⟩

/-- Behind a leg that leads to another in any case, the login goes on there. -/
theorem Course.passes_onward {r : LoginRun} {leg : Leg} {log : Log} {ws : List Warning}
    {outcome : LoginOutcome} {state : FlowState} (h : Course r leg log ws (.ok outcome) state)
    {next : leg.Yield → Leg} (hnext : ∀ y, r.next leg y = .onward (next y)) :
    ∃ e y log' ws', r.Passes leg e y ∧ log = (e.1, .answer e.2) :: log' ∧
      Course r (next y) log' ws' (.ok outcome) state := by
  obtain ⟨e, y, log', hpasses, hlog, ⟨hlast, -⟩ | ⟨leg', ws', honward, hcourse⟩⟩ := h.passes
  · rw [hnext] at hlast
    cases hlast
  · rw [hnext] at honward
    cases honward
    exact ⟨e, y, log', ws', hpasses, hlog, hcourse⟩

/-- A login that yields tokens passes all six legs. -/
theorem Course.completed {r : LoginRun} {log : Log} {ws : List Warning} {tokens : Tokens}
    {state : FlowState} (h : Course r .authorize log ws (.ok (.authenticated tokens)) state) :
    ∃ (i : Itinerary) (grant : AuthorizationGrant) (password redirectTo : String)
      (accepted : LoginAcceptance) (consentTo code : String),
      log = i.exchanges.map (fun e => (e.1, .answer e.2)) ∧
      state = .exchanged grant redirectTo
        ⟨accepted.authenticationSession, accepted.consentCookie, code⟩ tokens ∧
      r.Passes .authorize i.authorize grant ∧
      r.Passes (.submitLogin grant password) i.submitLogin (.accepted redirectTo) ∧
      r.Passes (.acceptLogin grant redirectTo) i.acceptLogin accepted ∧
      r.Passes (.fetchConsent grant redirectTo accepted) i.fetchConsent consentTo ∧
      r.Passes (.acceptConsent grant redirectTo accepted consentTo) i.acceptConsent code ∧
      r.Passes (.tokenExchange grant redirectTo
        ⟨accepted.authenticationSession, accepted.consentCookie, code⟩) i.tokenExchange tokens := by
  -- the first two legs may end the login, so their landings are looked at
  obtain ⟨e₁, grant, log₁, h₁, rfl, hnext₁⟩ := h.passes
  simp only [LoginRun.next] at hnext₁
  cases hencrypt : LoginFlow.encrypt r.flow.key r.seed r.credentials.password with
  | error fault => simp [hencrypt] at hnext₁
  | ok password =>
    simp only [hencrypt, reduceCtorEq, false_and, false_or, Landing.onward.injEq] at hnext₁
    obtain ⟨_, ws₁, rfl, hcourse₁⟩ := hnext₁
    obtain ⟨e₂, reply, log₂, h₂, rfl, hnext₂⟩ := hcourse₁.passes
    cases reply with
    | rejected rejection => simp [LoginRun.next] at hnext₂
    | accepted redirectTo =>
      simp only [LoginRun.next, reduceCtorEq, false_and, false_or, Landing.onward.injEq] at hnext₂
      obtain ⟨_, ws₂, rfl, hcourse₂⟩ := hnext₂
      -- from here on each leg has only one that follows it
      obtain ⟨e₃, accepted, log₃, ws₃, h₃, rfl, hcourse₃⟩ := hcourse₂.passes_onward fun _ => rfl
      obtain ⟨e₄, consentTo, log₄, ws₄, h₄, rfl, hcourse₄⟩ := hcourse₃.passes_onward fun _ => rfl
      obtain ⟨e₅, code, log₅, ws₅, h₅, rfl, hcourse₅⟩ := hcourse₄.passes_onward fun _ => rfl
      obtain ⟨e₆, tokens', log₆, h₆, rfl, hnext₆⟩ := hcourse₅.passes
      simp only [LoginRun.next, reduceCtorEq, false_and, exists_false, or_false,
        Landing.last.injEq, Except.ok.injEq, LoginOutcome.authenticated.injEq] at hnext₆
      obtain ⟨⟨rfl, rfl⟩, rfl⟩ := hnext₆
      exact ⟨⟨e₁, e₂, e₃, e₄, e₅, e₆⟩, grant, password, redirectTo, accepted, consentTo, code,
        rfl, rfl, h₁, h₂, h₃, h₄, h₅, h₆⟩

/-- What a completed login has recorded and sent comes from the answers that it got. -/
theorem Course.traced {r : LoginRun} {log : Log} {ws : List Warning} {tokens : Tokens}
    {state : FlowState} (h : Course r .authorize log ws (.ok (.authenticated tokens)) state) :
    ∃ i : Itinerary, log = i.exchanges.map (fun e => (e.1, .answer e.2)) ∧
      i.Traced r.flow.config.cookies state tokens := by
  obtain ⟨i, grant, password, redirectTo, accepted, consentTo, code, rfl, rfl,
    ⟨-, h₁⟩, ⟨hq₂, h₂⟩, ⟨-, h₃⟩, -, ⟨-, h₅⟩, ⟨hq₆, h₆⟩⟩ := h.completed
  obtain ⟨hchallenge, hchallenge_ne, hcsrf⟩ := LoginRun.read_authorize h₁
  obtain ⟨text, htext, hbody⟩ := LoginRun.read_submitLogin h₂
  obtain ⟨hsession, hconsent⟩ := LoginRun.read_acceptLogin h₃
  obtain ⟨hcode, hcode_ne⟩ := LoginRun.read_acceptConsent h₅
  obtain ⟨hexchange, hcookie, hcookie_ne⟩ := LoginRun.read_tokenExchange h₆
  obtain ⟨url₂, -, -, hsent₂⟩ := Client.postTrip_request_iff.mp hq₂
  obtain ⟨url₆, -, -, hsent₆⟩ := Client.postTrip_request_iff.mp hq₆
  refine ⟨i, rfl, ?_⟩
  -- the state is that of the last leg, so what it holds is known by definition
  exact
    { challenge := ⟨grant.loginChallenge, rfl, hchallenge_ne, hchallenge,
        Posting.member?_eq (p := .login _) (congrArg Request.body hsent₂) _⟩
      csrf := ⟨grant.csrfCookie, rfl, hcsrf⟩
      redirect := ⟨redirectTo, text, rfl, htext, hbody⟩
      session := ⟨accepted.authenticationSession, rfl, hsession⟩
      consent := ⟨accepted.consentCookie, rfl, hconsent⟩
      code := ⟨code, rfl, hcode_ne, hcode,
        Posting.member?_eq (p := .exchange _) (congrArg Request.body hsent₆) _⟩
      tokens := ⟨_, tokens.sessionId, hexchange, hcookie, hcookie_ne, rfl, rfl, rfl, rfl, rfl, rfl,
        rfl, rfl⟩ }

/-! ## Completed runs -/

/-- A script that was not used up has what was read of it in front. -/
theorem take_of_takeD {script : List Reply} {n : Nat}
    (h : .dropped ∉ List.takeD n script .dropped) :
    script.take n = List.takeD n script .dropped := by
  induction n generalizing script with
  | zero => simp
  | succ n ih =>
    rw [List.takeD_succ, List.mem_cons, not_or] at h
    cases script with
    | nil => exact absurd rfl h.1
    | cons reply script =>
      rw [List.take_succ_cons, List.takeD_succ]
      exact congrArg (reply :: ·) (ih h.2)

theorem LoginRun.traced {r : LoginRun} (hfresh : r.attempt.state = .new) (script : List Reply)
    {tokens : Tokens} (h : (r.dialogue.play script).result.1 = .ok (.authenticated tokens)) :
    ∃ i : Itinerary, (r.dialogue.play script).requests = i.requests ∧
      script.take 6 = i.replies ∧
      i.Traced r.flow.config.cookies (r.dialogue.play script).result.2.state tokens := by
  obtain ⟨state, hcourse, hattempt⟩ := course_of_play hfresh script
  have hstate := congrArg Attempt.state hattempt
  rw [h] at hcourse hstate
  obtain ⟨i, hlog, htraced⟩ := hcourse.traced
  have hrequests : (r.dialogue.play script).requests = i.requests := by
    rw [← Dialogue.Transcript.map_fst_log _ script, hlog, List.map_map]
    rfl
  have hreplies : List.takeD 6 script .dropped = i.replies := by
    have hsnd := Dialogue.Transcript.map_snd_log (r.dialogue.play script) script
    rw [hlog, hrequests, List.map_map] at hsnd
    exact hsnd.symm
  refine ⟨i, hrequests, ?_, ?_⟩
  -- all six replies are answers, so none of them was made up behind the end of the script
  · have hanswered : .dropped ∉ i.replies := by simp [Itinerary.replies]
    rw [take_of_takeD (hreplies ▸ hanswered), hreplies]
  · rw [hstate]
    exact htraced

/-- A run that yields tokens has read what it recorded, sent and returned from the first six
replies. -/
theorem login_run_traced (f : LoginFlow) (verifier : Draw Pkce.verifierBytes)
    (state : Draw Pkce.stateBytes) (seed : Draw 32) (credentials : Credentials)
    (script : List Reply) (tokens : Tokens)
    (h : (((LoginFlow.begin verifier state).run f seed credentials).play script).result.1 =
      .ok (.authenticated tokens)) :
    ∃ i : Itinerary,
      (((LoginFlow.begin verifier state).run f seed credentials).play script).requests =
        i.requests ∧
      script.take 6 = i.replies ∧
      i.Traced f.config.cookies
        (((LoginFlow.begin verifier state).run f seed credentials).play script).result.2.state
        tokens := by
  rw [← LoginRun.dialogue_mk] at h ⊢
  exact LoginRun.traced rfl script h

/-! ## A completed run -/

/-- The tokens of a login, if it yields any. -/
def tokens? : Except FlowError LoginOutcome → Option Tokens
  | .ok (.authenticated tokens) => some tokens
  | _ => none

theorem tokens?_eq_some_iff {result : Except FlowError LoginOutcome} {tokens : Tokens} :
    tokens? result = some tokens ↔ result = .ok (.authenticated tokens) := by
  unfold tokens?
  split <;> simp_all

/-- A redirect that sets cookies. -/
def redirecting (location : String) (cookies : List String) : Reply :=
  .answer
    { status := 302
      headers := ⟨"Location", Text.Utf8.bytesOf location⟩ ::
        cookies.map fun c => ⟨"Set-Cookie", Text.Utf8.bytesOf c⟩
      body := some []
      received := .epoch }

/-- An answer of success that sets cookies. -/
def succeeding (body : String) (cookies : List String) : Reply :=
  .answer
    { status := 200
      headers := cookies.map fun c => ⟨"Set-Cookie", Text.Utf8.bytesOf c⟩
      body := some (Text.Utf8.bytesOf body)
      received := .epoch }

/-- A flow whose key is just long enough for an empty password. -/
def shortestFlow : LoginFlow :=
  ⟨.new "http://idp" "web" "http://app" "" (.ofBase "http://api"),
    ⟨1 <<< 535 + 1, 3, by decide +kernel⟩, ⟨1⟩⟩

/-- Replies that let a login through. -/
def willingServers : List Reply :=
  [redirecting "http://api/?login_challenge=1" ["csrf=2"],
    succeeding "\x7b\"redirect_to\":\"http://idp/?3\"\x7d" [],
    redirecting "http://api/" ["oauth2_authentication_session=4", "oauth2_consent_csrf=5"],
    succeeding "\x7b\"redirect_to\":\"http://idp/?6\"\x7d" [],
    redirecting "http://app/?code=7" [],
    succeeding "\x7b\"accessToken\":\"8\"\x7d" ["session=9"]]

/-- A login of a user without a password. -/
def simplestRun : LoginRun :=
  ⟨shortestFlow, LoginFlow.begin (Vector.replicate _ 0) (Vector.replicate _ 0),
    Vector.replicate _ 0, ⟨"", ""⟩⟩

theorem tokens?_simplestRun :
    tokens? (simplestRun.dialogue.play willingServers).result.1 =
      some ⟨"8", "9", none, none, .epoch⟩ := by
  decide +kernel

theorem login_run_traced_simplest :
    (simplestRun.dialogue.play willingServers).result.1 =
        .ok (.authenticated ⟨"8", "9", none, none, .epoch⟩) ∧
      ∃ i : Itinerary, (simplestRun.dialogue.play willingServers).requests = i.requests ∧
        willingServers.take 6 = i.replies ∧
        i.Traced shortestFlow.config.cookies
          (simplestRun.dialogue.play willingServers).result.2.state
          ⟨"8", "9", none, none, .epoch⟩ :=
  have h := tokens?_eq_some_iff.mp tokens?_simplestRun
  ⟨h, login_run_traced shortestFlow _ _ _ _ willingServers _ h⟩

end CodeFlow
