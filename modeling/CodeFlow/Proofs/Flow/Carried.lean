import CodeFlow.Proofs.Flow.Visits

/-!
# Cookies that are carried over

Six answers may set any number of cookies, and three of these are ever sent: the first of the
first answer, with the third request, and two of the third answer, found by how their names begin,
with the fourth and the fifth. The cookies of the other four answers are idle: no request depends
on them, so they may be replaced at will.
-/

namespace CodeFlow

open CodeFlow.Http

/-! ## Answers without their cookies -/

namespace Http

/-- An answer without the cookies that it sets. -/
def Answer.withoutCookies (a : Answer) : Answer :=
  { a with headers := a.headers.filter fun h => !h.isNamed "set-cookie" }

/-- The answer in a place without the cookies that play no part: only the first and the third one
keep theirs. -/
def Answer.withoutIdleCookies (place : Nat) (a : Answer) : Answer :=
  if place = 0 ∨ place = 2 then a else a.withoutCookies

/-- The reply in a place without the cookies that play no part. -/
def Reply.withoutIdleCookies (place : Nat) : Reply → Reply
  | .answer a => .answer (a.withoutIdleCookies place)
  | reply => reply

theorem Reply.withoutIdleCookies_eq_answer_iff {place : Nat} {reply : Reply} {a : Answer} :
    reply.withoutIdleCookies place = .answer a ↔
      ∃ a', reply = .answer a' ∧ a'.withoutIdleCookies place = a := by
  cases reply <;> simp [withoutIdleCookies]

/-- The other headers stay. -/
theorem Answer.header?_withoutCookies (a : Answer) {name : String} (hname : name ≠ "set-cookie") :
    a.withoutCookies.header? name = a.header? name := by
  unfold header? withoutCookies
  rw [List.find?_filter]
  -- a header with the name passes the filter, so asking for both is asking for the name
  have hkept : ∀ h : Header,
      ((!h.isNamed "set-cookie") = true ∧ h.isNamed name = true) ↔ h.isNamed name = true := by
    intro h
    rw [and_iff_right_iff_imp]
    intro hnamed
    have hlower : h.name.toLower = name := eq_of_beq hnamed
    simp [Header.isNamed, hlower, hname]
  simp only [hkept, Bool.decide_eq_true]

end Http

/-- What a redirect leads to does not depend on its cookies. -/
theorem redirectTarget?_withoutCookies (asked : Url) (a : Answer) :
    redirectTarget? asked a.withoutCookies = redirectTarget? asked a := by
  unfold redirectTarget?
  rw [a.header?_withoutCookies (by decide)]

/-! ## Legs and idle cookies -/

namespace LoginRun

variable {r : LoginRun} {script script' : List Reply} {leg leg' : Leg} {q : Request}

/-- A leg that leads to another one reads the same from two answers that differ in idle cookies. -/
theorem read_of_withoutIdleCookies {a a' : Answer} {y : leg.Yield}
    (ha : a'.withoutIdleCookies leg.index = a.withoutIdleCookies leg.index)
    (hread : (r.trip leg).read q a = .ok y) (hnext : r.next leg y = .onward leg') :
    (r.trip leg).read q a' = .ok y := by
  cases leg with
  -- the first and the third answer are the same
  | authorize | acceptLogin =>
    cases ha
    exact hread
  -- a body is read without a look at the headers
  | submitLogin grant password =>
    change Client.readLoginReply a'.withoutCookies = .ok y
    rw [show a'.withoutCookies = a.withoutCookies from ha]
    exact hread
  | fetchConsent grant redirectTo accepted =>
    change (readBody .fetchConsent RedirectBody.form a'.withoutCookies).map _ = .ok y
    rw [show a'.withoutCookies = a.withoutCookies from ha]
    exact hread
  | acceptConsent grant redirectTo accepted consentTo =>
    have ha : a'.withoutCookies = a.withoutCookies := ha
    have hredirect : a'.withoutCookies.isRedirect = a.withoutCookies.isRedirect :=
      congrArg Answer.isRedirect ha
    obtain ⟨hstatus, location, htarget, herror, hcode⟩ := readThrough_readCode_iff.mp hread
    refine readThrough_readCode_iff.mpr
      ⟨hredirect.trans hstatus, location, ?_, herror, hcode⟩
    rw [← redirectTarget?_withoutCookies, ha, redirectTarget?_withoutCookies]
    exact htarget
  -- the last leg leads nowhere
  | tokenExchange => cases hnext

/-- Scripts that differ in idle cookies lead to the same legs. -/
theorem Visits.of_withoutIdleCookies
    (h : script'.mapIdx Reply.withoutIdleCookies = script.mapIdx Reply.withoutIdleCookies)
    (hvisits : r.Visits script leg) : r.Visits script' leg := by
  induction hvisits with
  | first => exact .first
  | @onward leg leg' q a y _ hrequest hanswer hread hnext ih =>
    have hplace := congrArg (·[leg.index]?) h
    simp only [List.getElem?_mapIdx, hanswer, Option.map_some, Option.map_eq_some_iff] at hplace
    obtain ⟨reply, hanswer', hreply⟩ := hplace
    obtain ⟨a', rfl, ha⟩ := Reply.withoutIdleCookies_eq_answer_iff.mp hreply
    exact ih.onward hrequest hanswer' (read_of_withoutIdleCookies ha hread hnext) hnext

/-- Idle cookies change no request. -/
theorem requests_congr (harises : r.attempt.Arises)
    (h : script'.mapIdx Reply.withoutIdleCookies = script.mapIdx Reply.withoutIdleCookies) :
    (r.dialogue.play script').requests = (r.dialogue.play script).requests := by
  rcases harises.new_or_terminal with hfresh | hterminal
  · refine List.ext_getElem? fun place => Option.ext fun q => ?_
    rw [requests_getElem?_iff hfresh, requests_getElem?_iff hfresh]
    constructor
    · rintro ⟨leg, hvisits, hrest⟩
      exact ⟨leg, hvisits.of_withoutIdleCookies h.symm, hrest⟩
    · rintro ⟨leg, hvisits, hrest⟩
      exact ⟨leg, hvisits.of_withoutIdleCookies h, hrest⟩
  · rw [requests_of_terminal hterminal, requests_of_terminal hterminal]

end LoginRun

/-! ## The cookies of a request -/

/-- The cookie line that the request of a leg carries. -/
def Leg.cookie? : Leg → Option String
  | .authorize => none
  | .submitLogin .. => none
  | .acceptLogin grant _ => some (Cookie.line [grant.csrfCookie])
  | .fetchConsent _ _ accepted =>
    some (Cookie.line [accepted.authenticationSession, accepted.consentCookie])
  | .acceptConsent _ _ accepted _ =>
    some (Cookie.line [accepted.authenticationSession, accepted.consentCookie])
  | .tokenExchange .. => none

theorem LoginRun.cookie_of_request {r : LoginRun} {leg : Leg} {q : Request}
    (h : (r.trip leg).request = .ok q) : q.cookie = leg.cookie? := by
  obtain ⟨url, -, -, rfl⟩ := request_eq_ok_iff.mp h
  cases leg <;> rfl

theorem Leg.cookie?_eq_none_iff (leg : Leg) : leg.cookie? = none ↔ leg.index ∈ [0, 1, 5] := by
  cases leg <;> simp [cookie?, index]

/-- The fourth and the fifth request carry the two cookies that the third answer set. -/
theorem LoginRun.Visits.accepts {r : LoginRun} {script : List Reply} {leg : Leg}
    (hvisits : r.Visits script leg) (hplace : leg.index ∈ [3, 4]) :
    ∃ redirectTo accepted, Accepts r.flow.config script redirectTo accepted ∧
      leg.cookie? = some (Cookie.line [accepted.authenticationSession, accepted.consentCookie]) := by
  have hsourced := hvisits.sourced
  cases leg with
  | fetchConsent grant redirectTo accepted => exact ⟨redirectTo, accepted, hsourced.2, rfl⟩
  | acceptConsent grant redirectTo accepted consentTo =>
    exact ⟨redirectTo, accepted, hsourced, rfl⟩
  | _ => simp [Leg.index] at hplace

/-! ## Whole runs -/

/-- The requests of a run carry the cookies that they should, and depend on no others. -/
structure LoginRun.CarriesCookies (r : LoginRun) (script : List Reply) (requests : List Request) :
    Prop where
  /-- The requests that ask for the authorization, log in and redeem the code carry none. -/
  bare : ∀ place ∈ [0, 1, 5], ∀ q, requests[place]? = some q → q.cookie = none
  /-- The request that has the login accepted carries the first cookie of the first answer. -/
  csrf : ∀ q, requests[2]? = some q → ∃ a csrf, script[0]? = some (.answer a) ∧
    (Cookie.capture a.headers).head? = some csrf ∧
    q.cookie = some (csrf.name ++ "=" ++ csrf.value)
  /-- The requests that fetch the consent and have it accepted carry two cookies of the third
  answer, each the first whose name begins as configured. -/
  consent : ∀ place ∈ [3, 4], ∀ q, requests[place]? = some q → ∃ a session consent,
    script[2]? = some (.answer a) ∧
    Cookie.findPrefix? (Cookie.capture a.headers) r.flow.config.cookies.sessionPrefix =
      some session ∧
    Cookie.findPrefix? (Cookie.capture a.headers) r.flow.config.cookies.consentPrefix =
      some consent ∧
    q.cookie = some
      (session.name ++ "=" ++ session.value ++ "; " ++ consent.name ++ "=" ++ consent.value)
  /-- Whatever cookies the other answers set, the requests stay the same. -/
  idle : ∀ script',
    script'.mapIdx Reply.withoutIdleCookies = script.mapIdx Reply.withoutIdleCookies →
    (r.dialogue.play script').requests = requests

/-- A line of two cookies. -/
theorem Cookie.line_pair (c d : Cookie) :
    Cookie.line [c, d] = c.name ++ "=" ++ c.value ++ "; " ++ d.name ++ "=" ++ d.value := by
  simp [Cookie.line, Cookie.write, String.append_assoc]

/-- Every run of a login carries over the cookies that it should, against every script. -/
theorem login_cookies_carried {r : LoginRun} (harises : r.attempt.Arises) (script : List Reply) :
    r.CarriesCookies script (r.dialogue.play script).requests where
  bare place hplace q h := by
    obtain ⟨leg, -, rfl, hrequest⟩ := LoginRun.visits_of_request harises h
    rw [LoginRun.cookie_of_request hrequest]
    exact leg.cookie?_eq_none_iff.mpr hplace
  csrf q h := by
    obtain ⟨leg, hvisits, hplace, hrequest⟩ := LoginRun.visits_of_request harises h
    cases leg with
    | acceptLogin grant redirectTo =>
      obtain ⟨⟨a, hanswer, hcsrf⟩, -⟩ := hvisits.sourced
      exact ⟨a, grant.csrfCookie, hanswer, hcsrf, LoginRun.cookie_of_request hrequest⟩
    | _ => exact absurd hplace nofun
  consent place hplace q h := by
    obtain ⟨leg, hvisits, rfl, hrequest⟩ := LoginRun.visits_of_request harises h
    obtain ⟨redirectTo, accepted, haccepts, hcookie⟩ := hvisits.accepts hplace
    obtain ⟨a, -, hanswer, -, -, hsession, hconsent⟩ := haccepts
    refine ⟨a, _, _, hanswer, hsession, hconsent, ?_⟩
    rw [LoginRun.cookie_of_request hrequest, hcookie, Cookie.line_pair]
  idle script' h := LoginRun.requests_congr harises h

/-- Replies that let a login through and set more cookies than are of use, some of them twice and
one without a name. -/
def generousServers : List Reply :=
  [redirecting "http://api/?login_challenge=1" ["=0", "csrf=2; Path=/; HttpOnly", "csrf=3"],
    succeeding "\x7b\"redirect_to\":\"http://idp/?3\"\x7d" ["csrf=4"],
    redirecting "http://api/" ["oauth2_consent_csrf_1=5; Secure", "theme=6",
      "oauth2_authentication_session=7", "oauth2_consent_csrf_2=8"],
    succeeding "\x7b\"redirect_to\":\"http://idp/?6\"\x7d" ["oauth2_authentication_session=9"],
    redirecting "http://app/?code=7" ["csrf=10"],
    succeeding "\x7b\"accessToken\":\"8\"\x7d" ["session=11"]]

theorem login_cookies_carried_generous :
    simplestRun.attempt.Arises ∧
      (simplestRun.dialogue.play generousServers).requests.map Request.cookie =
        [none, none, some "csrf=2",
          some "oauth2_authentication_session=7; oauth2_consent_csrf_1=5",
          some "oauth2_authentication_session=7; oauth2_consent_csrf_1=5", none] ∧
      simplestRun.CarriesCookies generousServers
        (simplestRun.dialogue.play generousServers).requests :=
  have harises : simplestRun.attempt.Arises := ⟨_, _, .same⟩
  ⟨harises, by decide +kernel, login_cookies_carried harises generousServers⟩

end CodeFlow
