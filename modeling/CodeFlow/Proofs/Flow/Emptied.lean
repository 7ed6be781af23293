import CodeFlow.Proofs.Cookie
import CodeFlow.Proofs.Flow.Carried
import CodeFlow.Proofs.Flow.Consenting
import CodeFlow.Proofs.Flow.Granting
import CodeFlow.Proofs.Flow.Redeeming
import CodeFlow.Proofs.Flow.Stopping

/-!
# Cookies that were cleared

A server clears a cookie by setting it once more, to nothing. A login picks four cookies from the
answers that it gets, each by a look-up of its own, and only where it redeems the code is an empty
one taken for none. The other three are picked whatever they hold, kept and sent on
(`login_cookies_picked`), so a login may be completed with cookies that were cleared
(`emptied_cookies_sent`).
-/

namespace CodeFlow

open CodeFlow.Http

/-! ## The cookies that a login picks -/

/-- What a login needs a cookie for. -/
inductive CookieRole where
  /-- To show the provider that it is still the same client. -/
  | csrf
  /-- The session at the provider. -/
  | session
  /-- The consent at the provider. -/
  | consent
  /-- The session at the backend. -/
  | backend
deriving DecidableEq

namespace CookieRole

/-- The step whose answer is to set the cookie. -/
def step : CookieRole → Step
  | .csrf => .authorize
  | .session => .acceptLogin
  | .consent => .acceptLogin
  | .backend => .tokenExchange

/-- The place of that answer. -/
def place : CookieRole → Nat
  | .csrf => 0
  | .session => 2
  | .consent => 2
  | .backend => 5

/-- The places of the requests that carry the cookie. -/
def carriers : CookieRole → List Nat
  | .csrf => [2]
  | .session => [3, 4]
  | .consent => [3, 4]
  | .backend => []

/-- What is reported as missing if there is no such cookie. -/
def title (names : CookieNames) : CookieRole → String
  | .csrf => csrfCookieName
  | .session => names.sessionPrefix
  | .consent => names.consentPrefix
  | .backend => names.session

/-- A cookie is of the kind that is looked for. -/
def Serves (names : CookieNames) : CookieRole → Cookie → Prop
  | .csrf => fun _ => True
  | .session => Cookie.Begins names.sessionPrefix
  | .consent => Cookie.Begins names.consentPrefix
  | .backend => fun c => c.name = names.session

/-- A cookie is picked from an answer: it is the first of its kind. That it must not be empty is
asked for in one role only. -/
def PickedFrom (names : CookieNames) (role : CookieRole) (a : Answer) (c : Cookie) : Prop :=
  a.SetsFirst (role.Serves names) c ∧ (role = .backend → c.value ≠ "")

/-- Everything that is looked at before the cookie is in order. -/
def Due (names : CookieNames) (asked : Url) (a : Answer) : CookieRole → Prop
  | .csrf => ∃ location challenge, RedirectsTo asked a location ∧
      location.Bears "login_challenge" challenge
  | .session => ∃ location, RedirectsTo asked a location
  | .consent => ∃ location c, RedirectsTo asked a location ∧ PickedFrom names .session a c
  | .backend => a.isSuccess = true

/-- The value that a state has kept. -/
def kept? (s : FlowState) : CookieRole → Option String
  | .csrf => s.authenticationCookie.map Cookie.value
  | .session => s.authenticationSession.map Cookie.value
  | .consent => s.consentCookie.map Cookie.value
  | .backend => s.sessionId

end CookieRole

/-- A run has an answer from which a cookie is picked. -/
def LoginRun.Picks (r : LoginRun) (script : List Reply) (role : CookieRole) (c : Cookie) : Prop :=
  ∃ a, script[role.place]? = some (.answer a) ∧ role.PickedFrom r.flow.config.cookies a c

/-- The cookie that is at hand on a leg. -/
def Leg.held? : Leg → CookieRole → Option Cookie
  | .submitLogin grant _, .csrf => some grant.csrfCookie
  | .acceptLogin grant _, .csrf => some grant.csrfCookie
  | .fetchConsent grant _ _, .csrf => some grant.csrfCookie
  | .fetchConsent _ _ accepted, .session => some accepted.authenticationSession
  | .fetchConsent _ _ accepted, .consent => some accepted.consentCookie
  | .acceptConsent grant _ _ _, .csrf => some grant.csrfCookie
  | .acceptConsent _ _ accepted _, .session => some accepted.authenticationSession
  | .acceptConsent _ _ accepted _, .consent => some accepted.consentCookie
  | .tokenExchange grant _ _, .csrf => some grant.csrfCookie
  | .tokenExchange _ _ consent, .session => some consent.authenticationSession
  | .tokenExchange _ _ consent, .consent => some consent.consentCookie
  | _, _ => none

section

variable {names : CookieNames} {role : CookieRole} {a : Answer} {c : Cookie} {q : Request}
  {r : LoginRun} {script : List Reply} {leg leg' : Leg} {name value : String}

/-! ## Where cookies come from -/

theorem find?_capture_eq_some_iff_named :
    Cookie.find? (Cookie.capture a.headers) name = some c ↔ a.SetsFirst (·.name = name) c := by
  rw [Cookie.find?, Cookie.find?_capture_eq_some_iff]
  simp only [decide_eq_true_eq]

namespace LoginRun

theorem pickedFrom_of_read_authorize {grant : AuthorizationGrant}
    (h : (r.trip .authorize).read q a = .ok grant) :
    CookieRole.PickedFrom r.flow.config.cookies .csrf a grant.csrfCookie :=
  ⟨Cookie.head?_capture_eq_some_iff.mp (read_authorize h).2.2, nofun⟩

theorem pickedFrom_of_read_acceptLogin {grant : AuthorizationGrant} {redirectTo : String}
    {accepted : LoginAcceptance}
    (h : (r.trip (.acceptLogin grant redirectTo)).read q a = .ok accepted) :
    CookieRole.PickedFrom r.flow.config.cookies .session a accepted.authenticationSession ∧
      CookieRole.PickedFrom r.flow.config.cookies .consent a accepted.consentCookie := by
  obtain ⟨hsession, hconsent⟩ := read_acceptLogin h
  exact ⟨⟨Cookie.findPrefix?_capture_eq_some_iff.mp hsession, nofun⟩,
    ⟨Cookie.findPrefix?_capture_eq_some_iff.mp hconsent, nofun⟩⟩

theorem pickedFrom_of_read_tokenExchange {grant : AuthorizationGrant} {redirectTo : String}
    {consent : ConsentGrant} {tokens : Tokens}
    (h : (r.trip (.tokenExchange grant redirectTo consent)).read q a = .ok tokens) :
    ∃ c, CookieRole.PickedFrom r.flow.config.cookies .backend a c ∧ c.value = tokens.sessionId := by
  obtain ⟨-, hfound, hne⟩ := read_tokenExchange h
  obtain ⟨c, hc, hvalue⟩ := Option.map_eq_some_iff.mp hfound
  exact ⟨c, ⟨find?_capture_eq_some_iff_named.mp hc, fun _ => hvalue ▸ hne⟩, hvalue⟩

/-- A cookie that is at hand on a leg was at hand before, or picked on the way. -/
theorem held_next {y : leg.Yield} (hread : (r.trip leg).read q a = .ok y)
    (hnext : r.next leg y = .onward leg') (hheld : leg'.held? role = some c) :
    leg.held? role = some c ∨
      leg.index = role.place ∧ role.PickedFrom r.flow.config.cookies a c := by
  cases leg with
  | authorize =>
    simp only [next] at hnext
    split at hnext <;> cases hnext
    cases role <;> cases hheld
    exact .inr ⟨rfl, pickedFrom_of_read_authorize hread⟩
  | submitLogin grant password =>
    cases y <;> cases hnext
    cases role <;> exact .inl hheld
  | acceptLogin grant redirectTo =>
    cases hnext
    obtain ⟨hsession, hconsent⟩ := pickedFrom_of_read_acceptLogin hread
    cases role with
    | csrf => exact .inl hheld
    | session =>
      cases hheld
      exact .inr ⟨rfl, hsession⟩
    | consent =>
      cases hheld
      exact .inr ⟨rfl, hconsent⟩
    | backend => cases hheld
  | fetchConsent | acceptConsent =>
    cases hnext
    cases role <;> exact .inl hheld
  | tokenExchange => cases hnext

/-- So it was picked from the answer in its place. -/
theorem Visits.held (h : r.Visits script leg) (hheld : leg.held? role = some c) :
    r.Picks script role c := by
  induction h with
  | first => cases role <;> cases hheld
  | onward _ _ hanswer hread hnext ih =>
    rcases held_next hread hnext hheld with hbefore | ⟨hplace, hpicked⟩
    · exact ih hbefore
    · exact ⟨_, hplace ▸ hanswer, hpicked⟩

end LoginRun

/-! ## What is kept -/

/-- A state keeps what was at hand on its leg. -/
theorem Leg.held_of_kept (h : role.kept? leg.state = some value) :
    ∃ c, leg.held? role = some c ∧ c.value = value := by
  cases leg <;> cases role <;> cases h <;> exact ⟨_, rfl, rfl⟩

theorem CookieRole.kept?_close (role : CookieRole) (result : Except FlowError LoginOutcome)
    (state : FlowState) : role.kept? (Attempt.close result state) = role.kept? state := by
  cases result with
  | ok outcome => rfl
  | error e =>
    -- an error changes the stage and nothing else
    rw [Attempt.close, FlowState.fail]
    split
    · rfl
    · cases role <;> rfl

namespace LoginRun

theorem Visits.picks_of_kept (hvisits : r.Visits script leg)
    (hkept : role.kept? leg.state = some value) : ∃ c, r.Picks script role c ∧ c.value = value := by
  obtain ⟨c, hheld, hvalue⟩ := Leg.held_of_kept hkept
  exact ⟨c, hvisits.held hheld, hvalue⟩

/-- What is kept at the end of a login was at hand on its last leg, or picked there. -/
theorem picks_of_last {y : leg.Yield} {result : Except FlowError LoginOutcome} {state : FlowState}
    (hvisits : r.Visits script leg) (hanswer : script[leg.index]? = some (.answer a))
    (hread : (r.trip leg).read q a = .ok y) (hnext : r.next leg y = .last result state)
    (hkept : role.kept? state = some value) : ∃ c, r.Picks script role c ∧ c.value = value := by
  -- most of it was at hand; the first leg and the last one pick something before they end it
  cases leg with
  | authorize =>
    simp only [next] at hnext
    split at hnext <;> cases hnext
    cases role <;> cases hkept
    exact ⟨_, ⟨a, hanswer, pickedFrom_of_read_authorize hread⟩, rfl⟩
  | submitLogin grant password =>
    cases y <;> cases hnext
    cases role <;> exact hvisits.picks_of_kept hkept
  | acceptLogin => cases hnext
  | fetchConsent => cases hnext
  | acceptConsent => cases hnext
  | tokenExchange grant redirectTo consent =>
    cases hnext
    cases role with
    | csrf => exact hvisits.picks_of_kept hkept
    | session => exact hvisits.picks_of_kept hkept
    | consent => exact hvisits.picks_of_kept hkept
    | backend =>
      cases hkept
      obtain ⟨c, hpicked, hvalue⟩ := pickedFrom_of_read_tokenExchange hread
      exact ⟨c, ⟨a, hanswer, hpicked⟩, hvalue⟩

/-- What a login has kept after a run it had kept before, or picked in the run. -/
theorem kept_or_picks (harises : r.attempt.Arises)
    (hkept : role.kept? (r.dialogue.play script).result.2.state = some value) :
    role.kept? r.attempt.state = some value ∨ ∃ c, r.Picks script role c ∧ c.value = value := by
  rcases harises.new_or_terminal with hfresh | hterminal
  · obtain ⟨leg, state, hvisits, hleaves, hstate⟩ := exists_leave hfresh script
    rw [hstate, CookieRole.kept?_close] at hkept
    generalize (r.dialogue.play script).result.1 = result at hleaves
    cases hleaves with
    | failing => exact .inr (hvisits.picks_of_kept hkept)
    | last _ hanswer hread hnext => exact .inr (picks_of_last hvisits hanswer hread hnext hkept)
  · rw [dialogue, Attempt.run_of_terminal hterminal] at hkept
    exact .inl hkept

end LoginRun

/-! ## What is sent -/

/-- The requests that carry a cookie carry the one that is at hand. -/
theorem Leg.carries (h : leg.index ∈ role.carriers) :
    ∃ c cookies, leg.held? role = some c ∧ leg.cookie? = some (Cookie.line cookies) ∧
      c ∈ cookies := by
  cases role with
  | csrf =>
    cases leg with
    | acceptLogin => exact ⟨_, _, rfl, rfl, List.mem_singleton_self _⟩
    | _ => simp [Leg.index, CookieRole.carriers] at h
  | session =>
    cases leg with
    | fetchConsent | acceptConsent => exact ⟨_, _, rfl, rfl, List.mem_cons_self⟩
    | _ => simp [Leg.index, CookieRole.carriers] at h
  | consent =>
    cases leg with
    | fetchConsent | acceptConsent =>
      exact ⟨_, _, rfl, rfl, List.mem_cons_of_mem _ (List.mem_singleton_self _)⟩
    | _ => simp [Leg.index, CookieRole.carriers] at h
  | backend => cases h

/-! ## What is missing -/

/-- A cookie is the first of a name just where it is found by this name. -/
theorem setsFirst_named_iff :
    a.SetsFirst (·.name = name) c ↔ ∃ i, FirstNamed (Cookie.capture a.headers) name i c := by
  rw [← find?_capture_eq_some_iff_named, ← map_snd_position?, Option.map_eq_some_iff]
  simp only [← position?_eq_some_iff, Prod.exists, exists_eq_right]

/-- What is read through a redirect in order. -/
theorem readThrough_of_redirectsTo {α : Type} {step : Step}
    {read : Redirect → Except ProtocolError α} {location : Url} (h : RedirectsTo q.url a location) :
    readThrough step read q a = atStep step (read ⟨location, Cookie.capture a.headers⟩) := by
  have hredirect : readRedirect q.url a = .ok ⟨location, Cookie.capture a.headers⟩ :=
    readRedirect_eq_ok_iff_redirectsTo.mpr ⟨h, rfl⟩
  rw [readThrough, hredirect]
  rfl

namespace CookieRole

/-- In all roles but one, a cookie is picked from an answer that sets any of the kind. -/
theorem not_exists_pickedFrom_iff (hrole : role ≠ .backend) :
    (¬∃ c, role.PickedFrom names a c) ↔ ¬∃ c, a.SetsFirst (role.Serves names) c := by
  simp only [PickedFrom, hrole, false_imp_iff, and_true]

theorem not_exists_pickedFrom_backend_iff :
    (¬∃ c, PickedFrom names .backend a c) ↔
      ¬∃ i c, FirstNamed (Cookie.capture a.headers) names.session i c ∧ c.value ≠ "" := by
  simp only [PickedFrom, Serves, setsFirst_named_iff, true_imp_iff]
  rw [exists_comm]
  simp only [exists_and_right]

end CookieRole

/-- Where all else is in order, a cookie is reported as missing just where none is picked. -/
theorem LoginRun.read_missing_iff (hplace : leg.index = role.place)
    (hdue : role.Due r.flow.config.cookies q.url a) :
    (r.trip leg).read q a =
        .error (.protocol role.step (.missingCookie (role.title r.flow.config.cookies))) ↔
      ¬∃ c, role.PickedFrom r.flow.config.cookies a c := by
  -- each role has a reader of its own; what is due takes it as far as its look-up
  cases role with
  | csrf =>
    obtain ⟨location, challenge, hto, hbears⟩ := hdue
    rw [CookieRole.not_exists_pickedFrom_iff (by decide)]
    cases leg with
    | authorize =>
      change readThrough .authorize readGrant q a = _ ↔ ¬∃ c, a.SetsFirst (fun _ => True) c
      rw [readThrough_of_redirectsTo hto, CookieRole.step, atStep_eq_protocol_iff,
        readGrant_eq_error_iff, ← head?_capture_eq_none_iff]
      simp [parameter?_eq_some_iff.mpr hbears, CookieRole.title]
    | _ => cases hplace
  | session =>
    obtain ⟨location, hto⟩ := hdue
    rw [CookieRole.not_exists_pickedFrom_iff (by decide)]
    cases leg with
    | acceptLogin =>
      change readThrough .acceptLogin (readAcceptance _) q a = _ ↔
        ¬∃ c, a.SetsFirst (Cookie.Begins _) c
      rw [readThrough_of_redirectsTo hto, CookieRole.step, atStep_eq_protocol_iff,
        readAcceptance_eq_error_iff, ← findPrefix?_capture_eq_none_iff]
      constructor
      · rintro (⟨hnone, -⟩ | ⟨-, -, hnone, hnames⟩)
        · exact hnone
        -- if both cookies go by one name, what is missing of the one is missing of the other
        · injection hnames with hnames
          rw [← hnames] at hnone
          exact hnone
      · exact fun hnone => .inl ⟨hnone, rfl⟩
    | _ => cases hplace
  | consent =>
    obtain ⟨location, session, hto, hsession, -⟩ := hdue
    rw [CookieRole.not_exists_pickedFrom_iff (by decide)]
    cases leg with
    | acceptLogin =>
      change readThrough .acceptLogin (readAcceptance _) q a = _ ↔
        ¬∃ c, a.SetsFirst (Cookie.Begins _) c
      rw [readThrough_of_redirectsTo hto, CookieRole.step, atStep_eq_protocol_iff,
        readAcceptance_eq_error_iff, ← findPrefix?_capture_eq_none_iff,
        Cookie.findPrefix?_capture_eq_some_iff.mpr hsession]
      simp [CookieRole.title]
    | _ => cases hplace
  | backend =>
    rw [CookieRole.not_exists_pickedFrom_backend_iff]
    cases leg with
    | tokenExchange =>
      constructor
      · intro h
        have hredeems : Redeems r.flow.config.cookies a
            (.error (.missingCookie r.flow.config.cookies.session)) :=
          readTokenAnswer_eq_iff.mp h
        cases hredeems with
        | withoutCookie _ hnone => exact hnone
      · exact fun hnone => readTokenAnswer_of_redeems (.withoutCookie hdue hnone)
    | _ => cases hplace

theorem Leg.step_of_place (h : leg.index = role.place) : leg.step = role.step := by
  cases role <;> cases leg <;> first | rfl | cases h

end

/-! ## Whole runs -/

/-- How a run treats the cookies that it needs. -/
structure LoginRun.PicksCookies (r : LoginRun) (script : List Reply) : Prop where
  /-- Whatever is kept in the end was kept before, or is the value of a cookie that was picked. -/
  kept : ∀ (role : CookieRole) (value : String),
    role.kept? (r.dialogue.play script).result.2.state = some value →
    role.kept? r.attempt.state = some value ∨ ∃ c, r.Picks script role c ∧ c.value = value
  /-- A request that is to carry a cookie carries the one that was picked, as it is. -/
  sent : ∀ (role : CookieRole), ∀ place ∈ role.carriers, ∀ q,
    (r.dialogue.play script).requests[place]? = some q →
    ∃ c cookies, r.Picks script role c ∧ q.cookie = some (Cookie.line cookies) ∧ c ∈ cookies
  /-- Where all else is in order, the cookie is reported as missing just where none is picked. -/
  missing : ∀ (role : CookieRole) (q : Request) (a : Answer),
    (r.dialogue.play script).requests[role.place]? = some q →
    script[role.place]? = some (.answer a) → role.Due r.flow.config.cookies q.url a →
    ((r.dialogue.play script).result.1 =
        .error (.protocol role.step (.missingCookie (role.title r.flow.config.cookies))) ↔
      ¬∃ c, role.PickedFrom r.flow.config.cookies a c)

/-- Emptied cookies are never kept nor sent, and an answer with no others is reported as one that
lacks the cookie. -/
structure LoginRun.SparesEmptied (r : LoginRun) (script : List Reply) : Prop where
  kept : ∀ (role : CookieRole) (value : String),
    role.kept? (r.dialogue.play script).result.2.state = some value → value ≠ ""
  sent : ∀ q ∈ (r.dialogue.play script).requests, ∀ line, q.cookie = some line →
    ∀ c ∈ Cookie.readLine line, c.value ≠ ""
  missing : ∀ (role : CookieRole) (q : Request) (a : Answer),
    (r.dialogue.play script).requests[role.place]? = some q →
    script[role.place]? = some (.answer a) → role.Due r.flow.config.cookies q.url a →
    (∀ c ∈ Cookie.capture a.headers, role.Serves r.flow.config.cookies c → c.value = "") →
    ∃ name, (r.dialogue.play script).result.1 = .error (.protocol role.step (.missingCookie name))

/-- Every run of a login picks the first cookie of each kind, against every script. That it holds
anything is asked of the session at the backend only. -/
theorem login_cookies_picked {r : LoginRun} (harises : r.attempt.Arises) (script : List Reply) :
    r.PicksCookies script where
  kept _ _ hkept := LoginRun.kept_or_picks harises hkept
  sent role place hplace q h := by
    obtain ⟨leg, hvisits, rfl, hrequest⟩ := LoginRun.visits_of_request harises h
    obtain ⟨c, cookies, hheld, hcookie, hc⟩ := Leg.carries hplace
    exact ⟨c, cookies, hvisits.held hheld, (LoginRun.cookie_of_request hrequest).trans hcookie, hc⟩
  missing role q a h hanswer hdue := by
    obtain ⟨leg, hvisits, hplace, hrequest⟩ := LoginRun.visits_of_request harises h
    have hstep : some role.step = some leg.step := congrArg some (Leg.step_of_place hplace).symm
    have hresult := LoginRun.result_eq_error_iff (LoginRun.fresh_of_request harises h) hvisits
      hrequest (e := .protocol role.step (.missingCookie (role.title r.flow.config.cookies))) hstep
    rw [hresult, hplace, replyAt_of_answer hanswer]
    exact LoginRun.read_missing_iff hplace hdue

/-- Servers that let a login through and clear all cookies but one. -/
def clearingServers : List Reply :=
  [redirecting "http://api/?login_challenge=1" ["csrf=; Path=/; Max-Age=-1"],
    succeeding "\x7b\"redirect_to\":\"http://idp/?3\"\x7d" [],
    redirecting "http://api/" ["oauth2_authentication_session=; Max-Age=-1",
      "oauth2_consent_csrf=; Max-Age=-1"],
    succeeding "\x7b\"redirect_to\":\"http://idp/?6\"\x7d" [],
    redirecting "http://app/?code=7" [],
    succeeding "\x7b\"accessToken\":\"8\"\x7d" ["session=9"]]

theorem login_cookies_picked_clearing :
    simplestRun.attempt.Arises ∧ simplestRun.PicksCookies clearingServers :=
  have harises : simplestRun.attempt.Arises := ⟨_, _, .same⟩
  ⟨harises, login_cookies_picked harises clearingServers⟩

/-- A login is completed with cookies that were cleared, which it keeps and sends. -/
theorem emptied_cookies_sent :
    simplestRun.attempt.Arises ∧
      tokens? (simplestRun.dialogue.play clearingServers).result.1 =
        some ⟨"8", "9", none, none, .epoch⟩ ∧
      (simplestRun.dialogue.play clearingServers).requests.map Request.cookie =
        [none, none, some "csrf=",
          some "oauth2_authentication_session=; oauth2_consent_csrf=",
          some "oauth2_authentication_session=; oauth2_consent_csrf=", none] ∧
      ¬ simplestRun.SparesEmptied clearingServers := by
  have hrun : tokens? (simplestRun.dialogue.play clearingServers).result.1 =
        some ⟨"8", "9", none, none, .epoch⟩ ∧
      (simplestRun.dialogue.play clearingServers).requests.map Request.cookie =
        [none, none, some "csrf=",
          some "oauth2_authentication_session=; oauth2_consent_csrf=",
          some "oauth2_authentication_session=; oauth2_consent_csrf=", none] := by
    decide +kernel
  refine ⟨⟨_, _, .same⟩, hrun.1, hrun.2, fun hspares => ?_⟩
  obtain ⟨q, hq, hcookie⟩ : ∃ q ∈ (simplestRun.dialogue.play clearingServers).requests,
      q.cookie = some "csrf=" := by
    rw [← List.mem_map, hrun.2]
    simp
  have hread : Cookie.readLine "csrf=" = [⟨"csrf", "", "csrf="⟩] := by decide +kernel
  refine hspares.sent q hq "csrf=" hcookie ⟨"csrf", "", "csrf="⟩ ?_ rfl
  rw [hread]
  exact List.mem_singleton_self _

end CodeFlow
