import CodeFlow.Proofs.Flow.Course

/-!
# What the legs ask

Each leg asks one address in a fixed way: the configuration names it, or an earlier reply does. A
leg whose request is sent asks what belongs to its step (`LoginRun.asks_of_request`); one whose
request is not sent has no address, or a request that the client cannot give to the network
(`LoginRun.refuses_of_request`).
-/

namespace CodeFlow

open CodeFlow.Http

/-! ## The address and the request of a leg -/

/-- The address of a leg, before parameters are added to it; or what is wrong with its text. -/
def Leg.address (config : FlowConfig) : Leg → Except FlowError Url
  | .authorize => addressed .authorize config.authorizeEndpoint
  | .submitLogin .. => addressed .submitLogin config.backend.login
  | .acceptLogin _ redirectTo => atStep .acceptLogin (replayUrl config.authorizeEndpoint redirectTo)
  | .fetchConsent _ _ accepted => .ok accepted.consentUrl
  | .acceptConsent _ _ _ consentTo =>
    atStep .acceptConsent (replayUrl config.authorizeEndpoint consentTo)
  | .tokenExchange .. => addressed .tokenExchange config.backend.tokenExchange

/-- Where a leg has no address, it is the configuration or a redirect that cannot be read. -/
theorem Leg.address_error {config : FlowConfig} {leg : Leg} {e : FlowError}
    (h : leg.address config = .error e) :
    e = .network leg.step .refused ∨ ∃ fault, e = .protocol leg.step (.invalidRedirect fault) := by
  cases leg with
  | authorize | submitLogin | tokenExchange =>
    rw [address, addressed_eq_error_iff] at h
    exact .inl h.2
  | acceptLogin | acceptConsent =>
    rw [address, atStep_eq_error_iff] at h
    obtain ⟨_, hfault, rfl⟩ := h
    obtain ⟨fault, rfl⟩ := Client.replayUrl_error hfault
    exact .inr ⟨fault, rfl⟩
  | fetchConsent => cases h

namespace LoginRun

/-- The request of a leg that has an address. -/
def made (r : LoginRun) (url : Url) : Leg → Request
  | .authorize =>
    ⟨.get, url.addPairs (r.attempt.authorizationRequest r.flow.config).query, none, none⟩
  | .submitLogin grant password =>
    ⟨.post, url, none, some
      (LoginSubmission.toJson ⟨r.credentials.email, password, grant.loginChallenge⟩).compact⟩
  | .acceptLogin grant _ => ⟨.get, url, some (Cookie.line [grant.csrfCookie]), none⟩
  | .fetchConsent _ _ accepted | .acceptConsent _ _ accepted _ =>
    ⟨.get, url, some (Cookie.line [accepted.authenticationSession, accepted.consentCookie]), none⟩
  | .tokenExchange _ _ consent =>
    ⟨.post, url, none, some
      (r.attempt.exchangeRequest r.flow.config consent.authorizationCode).toJson.compact⟩

variable {r : LoginRun} {leg : Leg} {q : Request} {e : FlowError}

/-- All legs make their requests in one way: the address comes first, then the checks. -/
theorem trip_request (r : LoginRun) (leg : Leg) :
    (r.trip leg).request =
      (leg.address r.flow.config).bind fun url =>
        r.flow.client.checked leg.step (r.made url leg) := by
  -- each trip is opened once, so that both sides say the same
  cases leg <;>
    simp only [trip, Client.authorizeTrip, Client.submitTrip, Client.acceptLoginTrip,
      Client.fetchConsentTrip, Client.acceptConsentTrip, Client.exchangeTrip, Client.postTrip,
      Client.replayTrip, Attempt.authorizationRequest, Leg.address, Leg.step, made, Except.bind]

theorem request_eq_ok_iff :
    (r.trip leg).request = .ok q ↔
      ∃ url, leg.address r.flow.config = .ok url ∧ r.flow.client.Admits q ∧ q = r.made url leg := by
  rw [trip_request]
  simp only [bind_eq_ok_iff, Client.checked_eq_ok_iff]

theorem request_eq_error_iff :
    (r.trip leg).request = .error e ↔
      leg.address r.flow.config = .error e ∨
      ∃ url, leg.address r.flow.config = .ok url ∧
        Unsent r.flow.client leg.step (r.made url leg) e := by
  rw [trip_request]
  simp only [bind_eq_error_iff, Client.checked_eq_error_iff]

/-- A request that is not sent is reported at the step of the leg. -/
theorem request_error_step (h : (r.trip leg).request = .error e) : e.step? = some leg.step := by
  rcases request_eq_error_iff.mp h with haddress | ⟨url, -, hunsent⟩
  · rcases Leg.address_error haddress with rfl | ⟨fault, rfl⟩ <;> rfl
  · exact hunsent.step

/-- Why a leg is refused its request: it has no address, or its request cannot be given to the
network. -/
inductive Refuses (r : LoginRun) (leg : Leg) : FlowError → Prop where
  | addressless {e : FlowError} : leg.address r.flow.config = .error e → Refuses r leg e
  | malformed {url : Url} :
      leg.address r.flow.config = .ok url → (r.made url leg).isWellFormed = false →
      Refuses r leg (.network leg.step .refused)

/-- As long as there is time, nothing else keeps a request from being sent. -/
theorem refuses_of_request (htime : r.flow.client.timeout ≠ 0)
    (h : (r.trip leg).request = .error e) : r.Refuses leg e := by
  rcases request_eq_error_iff.mp h with haddress | ⟨url, haddress, hunsent⟩
  · exact .addressless haddress
  · cases hunsent with
    | malformed hformed => exact .malformed haddress hformed
    | late _ hlate => exact absurd hlate htime

end LoginRun

/-! ## The request of a step -/

/-- The request that belongs to a step of a login. Where it is sent and what it carries is fixed
by the configuration, the credentials and the verifier, except for what earlier replies brought. -/
def LoginRun.Asks (r : LoginRun) (q : Request) : Step → Prop
  | .authorize =>
    q.method = .get ∧ q.cookie = none ∧ q.body = none ∧
      ∃ url, Url.parse r.flow.config.authorizeEndpoint = .ok url ∧
        q.url = url.addPairs (r.attempt.authorizationRequest r.flow.config).query
  | .submitLogin =>
    q.method = .post ∧ q.cookie = none ∧ Url.parse r.flow.config.backend.login = .ok q.url ∧
      ∃ password challenge, q.body = some
        (LoginSubmission.toJson ⟨r.credentials.email, password, challenge⟩).compact
  | .acceptLogin =>
    q.method = .get ∧ q.body = none ∧
      ∃ redirectTo csrf, replayUrl r.flow.config.authorizeEndpoint redirectTo = .ok q.url ∧
        q.cookie = some (Cookie.line [csrf])
  | .fetchConsent =>
    q.method = .get ∧ q.body = none ∧
      ∃ session consent, q.cookie = some (Cookie.line [session, consent])
  | .acceptConsent =>
    q.method = .get ∧ q.body = none ∧
      ∃ redirectTo session consent,
        replayUrl r.flow.config.authorizeEndpoint redirectTo = .ok q.url ∧
        q.cookie = some (Cookie.line [session, consent])
  | .tokenExchange =>
    q.method = .post ∧ q.cookie = none ∧
      Url.parse r.flow.config.backend.tokenExchange = .ok q.url ∧
      ∃ code, q.body = some (r.attempt.exchangeRequest r.flow.config code).toJson.compact
  | .register => False
  | .verifyAccount => False

/-- The request of a leg is the one that belongs to its step. -/
theorem LoginRun.asks_of_request {r : LoginRun} {leg : Leg} {q : Request}
    (h : (r.trip leg).request = .ok q) : r.Asks q leg.step := by
  obtain ⟨url, haddress, -, rfl⟩ := request_eq_ok_iff.mp h
  cases leg with
  | authorize =>
    rw [Leg.address, addressed_eq_ok_iff] at haddress
    exact ⟨rfl, rfl, rfl, url, haddress, rfl⟩
  | submitLogin grant password =>
    rw [Leg.address, addressed_eq_ok_iff] at haddress
    exact ⟨rfl, rfl, haddress, password, grant.loginChallenge, rfl⟩
  | acceptLogin grant redirectTo =>
    rw [Leg.address, atStep_eq_ok_iff] at haddress
    exact ⟨rfl, rfl, redirectTo, grant.csrfCookie, haddress, rfl⟩
  | fetchConsent grant redirectTo accepted =>
    exact ⟨rfl, rfl, accepted.authenticationSession, accepted.consentCookie, rfl⟩
  | acceptConsent grant redirectTo accepted consentTo =>
    rw [Leg.address, atStep_eq_ok_iff] at haddress
    exact ⟨rfl, rfl, consentTo, accepted.authenticationSession, accepted.consentCookie,
      haddress, rfl⟩
  | tokenExchange grant redirectTo consent =>
    rw [Leg.address, addressed_eq_ok_iff] at haddress
    exact ⟨rfl, rfl, haddress, consent.authorizationCode, rfl⟩

/-! ## The place of a leg -/

/-- How many requests are made before a leg. -/
def Leg.index : Leg → Nat
  | .authorize => 0
  | .submitLogin .. => 1
  | .acceptLogin .. => 2
  | .fetchConsent .. => 3
  | .acceptConsent .. => 4
  | .tokenExchange .. => 5

theorem Leg.ofLogin_index (leg : Leg) : Step.ofLogin[leg.index]? = some leg.step := by
  cases leg <;> rfl

theorem Leg.index_eq_idxOf (leg : Leg) : leg.index = Step.ofLogin.idxOf leg.step := by
  cases leg <;> rfl

theorem Leg.drop_index (leg : Leg) :
    Step.ofLogin.drop leg.index = leg.step :: Step.ofLogin.drop (leg.index + 1) := by
  cases leg <;> rfl

/-- No leg is passed over, and none is gone back to. -/
theorem LoginRun.next_onward_index {r : LoginRun} {leg leg' : Leg} {y : leg.Yield}
    (h : r.next leg y = .onward leg') : leg'.index = leg.index + 1 := by
  cases leg with
  | authorize =>
    simp only [next] at h
    split at h <;> cases h
    rfl
  | submitLogin => cases y <;> cases h; rfl
  | acceptLogin => cases h; rfl
  | fetchConsent => cases h; rfl
  | acceptConsent => cases h; rfl
  | tokenExchange => cases h

end CodeFlow
