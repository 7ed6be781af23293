import CodeFlow.Proofs.Flow.Visits
import CodeFlow.Proofs.Url.Place

/-!
# Where requests go

A server may answer what it likes: but for the request that fetches the consent, all requests of a
login go where the configuration says, and only their queries are the server's choice. The one that
fetches the consent goes where the provider sends it, but it is made of nothing else than what the
second and the third reply say, so nothing that the login keeps to itself can get there.
-/

namespace CodeFlow

open CodeFlow.Http

/-! ## Sent requests -/

/-- A request that is sent goes under a scheme that is spoken. -/
theorem Client.Admits.isSpoken {c : Client} {q : Request} (h : c.Admits q) :
    Http.isSpoken q.url.scheme = true := by
  have hformed := h.isWellFormed
  simp only [Request.isWellFormed, Bool.and_eq_true] at hformed
  exact hformed.1.1.1

/-- Under such a scheme, a path consists of segments. -/
theorem segments_of_isSpoken {endpoint : String} {url : Url} (hurl : Url.parse endpoint = .ok url)
    (hspoken : Http.isSpoken url.scheme = true) : ∃ ss, url.path = .segments ss := by
  apply Url.segments_of_parse hurl
  rcases Bool.or_eq_true_iff.mp hspoken with hscheme | hscheme
  · rw [eq_of_beq hscheme]
    decide
  · rw [eq_of_beq hscheme]
    decide

/-- A replayed address leads to the endpoint. -/
theorem place_replayUrl {endpoint redirectTo : String} {url : Url}
    (h : replayUrl endpoint redirectTo = .ok url) (hspoken : Http.isSpoken url.scheme = true) :
    ∃ base, Url.parse endpoint = .ok base ∧ url.place = base.place := by
  unfold replayUrl at h
  split at h
  · cases h
  · split at h
    · cases h
    · rename_i base hbase
      cases h
      rw [Url.scheme_withQuery] at hspoken
      obtain ⟨ss, hpath⟩ := segments_of_isSpoken hbase hspoken
      exact ⟨base, hbase, Url.place_withQuery hpath _⟩

/-! ## Destinations -/

/-- How and where the request in a place goes. Where the consent is fetched is not configured. -/
def FlowConfig.destination? (config : FlowConfig) : Nat → Option (Method × String)
  | 0 | 2 | 4 => some (.get, config.authorizeEndpoint)
  | 1 => some (.post, config.backend.login)
  | 5 => some (.post, config.backend.tokenExchange)
  | _ => none

/-- A request goes to an endpoint, with any query. -/
structure Http.Request.GoesTo (q : Request) (method : Method) (endpoint : String) : Prop where
  method : q.method = method
  place : ∃ url, Url.parse endpoint = .ok url ∧ q.url.place = url.place

namespace LoginRun

variable {r : LoginRun} {leg : Leg} {q : Request}

/-- The request of a leg goes where the configuration says. -/
theorem goesTo_of_request (h : (r.trip leg).request = .ok q) (hplace : leg.index ≠ 3) :
    ∃ method endpoint, r.flow.config.destination? leg.index = some (method, endpoint) ∧
      q.GoesTo method endpoint := by
  obtain ⟨url, haddress, hadmits, rfl⟩ := request_eq_ok_iff.mp h
  have hspoken := hadmits.isSpoken
  cases leg with
  | authorize =>
    rw [Leg.address, addressed_eq_ok_iff] at haddress
    rw [made, Url.scheme_addPairs] at hspoken
    obtain ⟨ss, hpath⟩ := segments_of_isSpoken haddress hspoken
    exact ⟨_, _, rfl, rfl, url, haddress, Url.place_addPairs hpath _⟩
  | submitLogin | tokenExchange =>
    rw [Leg.address, addressed_eq_ok_iff] at haddress
    exact ⟨_, _, rfl, rfl, url, haddress, rfl⟩
  | acceptLogin | acceptConsent =>
    rw [Leg.address, atStep_eq_ok_iff] at haddress
    exact ⟨_, _, rfl, rfl, place_replayUrl haddress hspoken⟩
  | fetchConsent => exact absurd rfl hplace

end LoginRun

/-! ## The request that fetches the consent -/

/-- A reply accepts the credentials with one address at most. -/
theorem Leads.unique {script script' : List Reply} (hscript : script[1]? = script'[1]?)
    {redirectTo redirectTo' : String} (h : Leads script redirectTo)
    (h' : Leads script' redirectTo') : redirectTo = redirectTo' := by
  obtain ⟨a, hanswer, hread⟩ := h
  obtain ⟨a', hanswer', hread'⟩ := h'
  rw [hscript, hanswer'] at hanswer
  cases hanswer
  cases hread.symm.trans hread'
  rfl

/-- A reply accepts the login in one way at most. -/
theorem Accepts.unique {config : FlowConfig} {script script' : List Reply}
    (hscript : script[2]? = script'[2]?) {redirectTo : String}
    {accepted accepted' : LoginAcceptance} (h : Accepts config script redirectTo accepted)
    (h' : Accepts config script' redirectTo accepted') : accepted = accepted' := by
  obtain ⟨a, url, hanswer, hurl, hconsentUrl, hsession, hconsent⟩ := h
  obtain ⟨a', url', hanswer', hurl', hconsentUrl', hsession', hconsent'⟩ := h'
  rw [hscript, hanswer'] at hanswer
  cases hanswer
  cases hurl.symm.trans hurl'
  cases accepted
  cases accepted'
  cases hconsentUrl.symm.trans hconsentUrl'
  cases hsession.symm.trans hsession'
  cases hconsent.symm.trans hconsent'
  rfl

/-- The request that fetches the consent is made of what the second and the third reply say. -/
theorem LoginRun.fetchConsent_unique {r r' : LoginRun} (hflow : r.flow = r'.flow)
    {script script' : List Reply} {leg leg' : Leg} {q q' : Request}
    (hindex : leg.index = 3) (hindex' : leg'.index = 3)
    (hvisits : r.Visits script leg) (hvisits' : r'.Visits script' leg')
    (hrequest : (r.trip leg).request = .ok q) (hrequest' : (r'.trip leg').request = .ok q')
    (hsecond : script[1]? = script'[1]?) (hthird : script[2]? = script'[2]?) : q = q' := by
  cases leg with
  | fetchConsent grant redirectTo accepted =>
    cases leg' with
    | fetchConsent grant' redirectTo' accepted' =>
      obtain ⟨hleads, haccepts⟩ := hvisits.sourced
      obtain ⟨hleads', haccepts'⟩ := hvisits'.sourced
      obtain rfl := hleads.unique hsecond hleads'
      rw [hflow] at haccepts
      obtain rfl := haccepts.unique hthird haccepts'
      obtain ⟨-, rfl⟩ := Client.fetchConsentTrip_request_iff.mp hrequest
      obtain ⟨-, rfl⟩ := Client.fetchConsentTrip_request_iff.mp hrequest'
      rfl
    | _ => exact absurd hindex' nofun
  | _ => exact absurd hindex nofun

/-! ## Any two runs -/

/-- The requests of two runs go to the same places, as configured. -/
structure SteadyTargets (config : FlowConfig) (script script' : List Reply)
    (requests requests' : List Request) : Prop where
  /-- Scheme, host, port and path are those of the configured endpoint. -/
  fixed : ∀ place q q', requests[place]? = some q → requests'[place]? = some q' → place ≠ 3 →
    ∃ method endpoint, config.destination? place = some (method, endpoint) ∧
      q.GoesTo method endpoint ∧ q'.GoesTo method endpoint ∧
      q.method = q'.method ∧ q.url.place = q'.url.place
  /-- The request that fetches the consent knows the second and the third reply, and neither the
  credentials nor the random bytes nor the first reply. -/
  consent : ∀ q q', requests[3]? = some q → requests'[3]? = some q' →
    script[1]? = script'[1]? → script[2]? = script'[2]? → q = q'

/-- Any two runs of a flow send their requests to the same places, whatever the servers reply. -/
theorem login_targets_steady {r r' : LoginRun} (hflow : r.flow = r'.flow)
    (harises : r.attempt.Arises) (harises' : r'.attempt.Arises) (script script' : List Reply) :
    SteadyTargets r.flow.config script script' (r.dialogue.play script).requests
      (r'.dialogue.play script').requests where
  fixed place q q' h h' hplace := by
    obtain ⟨leg, -, rfl, hrequest⟩ := LoginRun.visits_of_request harises h
    obtain ⟨leg', -, hindex, hrequest'⟩ := LoginRun.visits_of_request harises' h'
    obtain ⟨method, endpoint, hdestination, hgoes⟩ := LoginRun.goesTo_of_request hrequest hplace
    obtain ⟨method', endpoint', hdestination', hgoes'⟩ :=
      LoginRun.goesTo_of_request hrequest' (hindex ▸ hplace)
    -- the destination is told by the place alone, so it is the same for both
    rw [hindex, ← hflow, hdestination] at hdestination'
    cases hdestination'
    obtain ⟨url, hurl, hat⟩ := hgoes.place
    obtain ⟨url', hurl', hat'⟩ := hgoes'.place
    cases hurl.symm.trans hurl'
    exact ⟨method, endpoint, hdestination, hgoes, hgoes', hgoes.method.trans hgoes'.method.symm,
      hat.trans hat'.symm⟩
  consent q q' h h' hsecond hthird := by
    obtain ⟨leg, hvisits, hindex, hrequest⟩ := LoginRun.visits_of_request harises h
    obtain ⟨leg', hvisits', hindex', hrequest'⟩ := LoginRun.visits_of_request harises' h'
    exact LoginRun.fetchConsent_unique hflow hindex hindex' hvisits hvisits' hrequest hrequest'
      hsecond hthird

/-- Replies that let a login through and name one other host after another. -/
def hostileServers : List Reply :=
  [redirecting "//evil\\..\\?login_challenge=1" ["csrf=2"],
    succeeding "\x7b\"redirect_to\":\"https://idp@evil:1\\\\x/..?3#4\"\x7d" [],
    redirecting "\\\\evil?5" ["oauth2_authentication_session=6", "oauth2_consent_csrf=7"],
    succeeding "\x7b\"redirect_to\":\"ftp:evil/%2e%2e/?8\"\x7d" [],
    redirecting "evil:?code=9" [],
    succeeding "\x7b\"accessToken\":\"10\"\x7d" ["session=11"]]

/-- A login of another user, with other random bytes. -/
def otherRun : LoginRun :=
  ⟨shortestFlow, LoginFlow.begin (Vector.replicate _ 1) (Vector.replicate _ 1),
    Vector.replicate _ 1, ⟨"guest", ""⟩⟩

theorem login_targets_steady_hostile :
    simplestRun.flow = otherRun.flow ∧ simplestRun.attempt.Arises ∧ otherRun.attempt.Arises ∧
      ((otherRun.dialogue.play hostileServers).requests.map fun q => q.url.place.text) =
        ["http://idp/oauth2/auth", "http://api/login", "http://idp/oauth2/auth", "http://evil/",
          "http://idp/oauth2/auth", "http://api/token/exchange"] ∧
      SteadyTargets shortestFlow.config willingServers hostileServers
        (simplestRun.dialogue.play willingServers).requests
        (otherRun.dialogue.play hostileServers).requests :=
  have hflow : simplestRun.flow = otherRun.flow := rfl
  have harises : simplestRun.attempt.Arises := ⟨_, _, .same⟩
  have harises' : otherRun.attempt.Arises := ⟨_, _, .same⟩
  ⟨hflow, harises, harises', by decide +kernel,
    login_targets_steady hflow harises harises' willingServers hostileServers⟩

end CodeFlow
