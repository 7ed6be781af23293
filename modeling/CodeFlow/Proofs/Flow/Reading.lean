import CodeFlow.Proofs.Flow.Trip

/-!
# What is read from answers

For each way of reading an answer, when it succeeds and what it yields then: where a redirect
leads, which parameter, cookie or member is taken, and what an answer must be for it.
-/

namespace CodeFlow

open CodeFlow.Http

/-! ## Redirects -/

/-- Where an answer redirects a request to. -/
def redirectTarget? (asked : Url) (a : Answer) : Option Url :=
  (a.header? "location").bind fun text => ((bareUrl asked).join text).toOption

theorem readRedirect_eq_ok_iff {asked : Url} {a : Answer} {redirect : Redirect} :
    readRedirect asked a = .ok redirect ↔
      a.isRedirect = true ∧ redirectTarget? asked a = some redirect.location ∧
        providerError? redirect.location = none ∧ redirect.cookies = Cookie.capture a.headers := by
  obtain ⟨location, cookies⟩ := redirect
  unfold readRedirect redirectTarget?
  cases a.isRedirect with
  | false => simp
  | true =>
    cases a.header? "location" with
    | none => simp
    | some text =>
      simp only [Bool.not_true, Bool.false_eq_true, if_false, true_and, Option.bind_some]
      cases (bareUrl asked).join text with
      | error fault => simp [Except.toOption]
      | ok location' =>
        simp only [Except.toOption, Option.some.injEq]
        cases herror : providerError? location' with
        | some e =>
          simp only [reduceCtorEq, false_iff, not_and]
          rintro rfl hnone
          rw [herror] at hnone
          cases hnone
        | none =>
          constructor
          · rintro ⟨⟩
            exact ⟨rfl, herror, rfl⟩
          · rintro ⟨rfl, -, rfl⟩
            rfl

theorem readThrough_eq_ok_iff {α : Type} {step : Step} {read : Redirect → Except ProtocolError α}
    {q : Request} {a : Answer} {v : α} :
    readThrough step read q a = .ok v ↔
      ∃ redirect, readRedirect q.url a = .ok redirect ∧ read redirect = .ok v := by
  unfold readThrough
  rw [atStep_eq_ok_iff, bind_eq_ok_iff]

/-- A parameter is the first of its name, and is not empty. -/
theorem parameter?_eq_some_iff {u : Url} {name value : String} :
    u.parameter? name = some value ↔ u.pairs.lookup name = some value ∧ value ≠ "" := by
  simp [Url.parameter?, Option.filter_eq_some_iff]

theorem readGrant_eq_ok_iff {r : Redirect} {grant : AuthorizationGrant} :
    readGrant r = .ok grant ↔
      r.location.parameter? "login_challenge" = some grant.loginChallenge ∧
        r.cookies.head? = some grant.csrfCookie := by
  obtain ⟨challenge, csrf⟩ := grant
  unfold readGrant
  cases r.location.parameter? "login_challenge" with
  | none => simp
  | some _ => cases r.cookies.head? <;> simp

theorem readGrant_eq_error_iff {r : Redirect} {e : ProtocolError} :
    readGrant r = .error e ↔
      (r.location.parameter? "login_challenge" = none ∧ e = .missingChallenge) ∨
      ∃ challenge, r.location.parameter? "login_challenge" = some challenge ∧
        r.cookies.head? = none ∧ e = .missingCookie csrfCookieName := by
  unfold readGrant
  cases r.location.parameter? "login_challenge" with
  | none => simp [eq_comm]
  | some challenge => cases r.cookies.head? <;> simp [eq_comm]

theorem requireCookie_eq_ok_iff {cookies : List Cookie} {front : String} {c : Cookie} :
    requireCookie cookies front = .ok c ↔ Cookie.findPrefix? cookies front = some c := by
  unfold requireCookie
  cases Cookie.findPrefix? cookies front <;> simp

theorem requireCookie_eq_error_iff {cookies : List Cookie} {front : String} {e : ProtocolError} :
    requireCookie cookies front = .error e ↔
      Cookie.findPrefix? cookies front = none ∧ e = .missingCookie front := by
  unfold requireCookie
  cases Cookie.findPrefix? cookies front <;> simp [eq_comm]

theorem readAcceptance_eq_ok_iff {names : CookieNames} {r : Redirect} {accepted : LoginAcceptance} :
    readAcceptance names r = .ok accepted ↔
      accepted.consentUrl = r.location ∧
        Cookie.findPrefix? r.cookies names.sessionPrefix = some accepted.authenticationSession ∧
        Cookie.findPrefix? r.cookies names.consentPrefix = some accepted.consentCookie := by
  obtain ⟨location, session, consent⟩ := accepted
  simp only [← requireCookie_eq_ok_iff]
  unfold readAcceptance
  cases requireCookie r.cookies names.sessionPrefix with
  | error e => simp
  | ok _ =>
    cases requireCookie r.cookies names.consentPrefix with
    | error e => simp
    | ok _ => simp [eq_comm]

theorem readAcceptance_eq_error_iff {names : CookieNames} {r : Redirect} {e : ProtocolError} :
    readAcceptance names r = .error e ↔
      (Cookie.findPrefix? r.cookies names.sessionPrefix = none ∧
        e = .missingCookie names.sessionPrefix) ∨
      ∃ session, Cookie.findPrefix? r.cookies names.sessionPrefix = some session ∧
        Cookie.findPrefix? r.cookies names.consentPrefix = none ∧
        e = .missingCookie names.consentPrefix := by
  simp only [← requireCookie_eq_error_iff, ← requireCookie_eq_ok_iff]
  unfold readAcceptance
  cases requireCookie r.cookies names.sessionPrefix with
  | error e' => simp
  | ok session => cases requireCookie r.cookies names.consentPrefix <;> simp

theorem readCode_eq_ok_iff {r : Redirect} {code : String} :
    readCode r = .ok code ↔ r.location.parameter? "code" = some code := by
  unfold readCode
  cases r.location.parameter? "code" <;> simp

theorem readCode_eq_error_iff {r : Redirect} {e : ProtocolError} :
    readCode r = .error e ↔
      r.location.parameter? "code" = none ∧ e = .missingCode := by
  unfold readCode
  cases r.location.parameter? "code" <;> simp [eq_comm]

/-- The code is read from where the answer redirects to, and from nothing else. -/
theorem readThrough_readCode_iff {step : Step} {q : Request} {a : Answer} {code : String} :
    readThrough step readCode q a = .ok code ↔
      a.isRedirect = true ∧ ∃ location, redirectTarget? q.url a = some location ∧
        providerError? location = none ∧ location.parameter? "code" = some code := by
  rw [readThrough_eq_ok_iff]
  constructor
  · rintro ⟨redirect, hredirect, hcode⟩
    obtain ⟨hstatus, htarget, herror, -⟩ := readRedirect_eq_ok_iff.mp hredirect
    exact ⟨hstatus, redirect.location, htarget, herror, readCode_eq_ok_iff.mp hcode⟩
  · rintro ⟨hstatus, location, htarget, herror, hcode⟩
    exact ⟨⟨location, Cookie.capture a.headers⟩,
      readRedirect_eq_ok_iff.mpr ⟨hstatus, htarget, herror, rfl⟩, readCode_eq_ok_iff.mpr hcode⟩

/-! ## Bodies -/

theorem readBody_eq_ok_iff {α : Type} {step : Step} {form : Json.Form α} {a : Answer} {v : α} :
    readBody step form a = .ok v ↔
      a.isSuccess = true ∧ ∃ text, a.text? = some text ∧ form.ofText text = .ok v := by
  unfold readBody
  cases a.text? with
  | none => simp
  | some text =>
    simp only [atStep_eq_ok_iff]
    unfold readJson
    cases a.isSuccess with
    | false => simp
    | true => cases hbody : form.ofText text <;> simp [hbody]

theorem readBody_eq_error_iff {α : Type} {step : Step} {form : Json.Form α} {a : Answer}
    {e : FlowError} :
    readBody step form a = .error e ↔
      (a.text? = none ∧ e = .network step .interrupted) ∨
      ∃ body, a.text? = some body ∧
        ((a.isSuccess = false ∧ e = .protocol step (.unexpectedStatus a.status body)) ∨
          a.isSuccess = true ∧ ∃ message, form.ofText body = .error message ∧
            e = .protocol step (.invalidBody message)) := by
  unfold readBody readJson
  cases a.text? with
  | none => simp [@eq_comm _ e]
  | some body =>
    cases a.isSuccess with
    | false => simp [atStep, @eq_comm _ e]
    | true => cases hbody : form.ofText body <;> simp [atStep, hbody, @eq_comm _ e]

theorem readLoginReply_accepted_iff {a : Answer} {redirectTo : String} :
    Client.readLoginReply a = .ok (.accepted redirectTo) ↔
      a.status ≠ 401 ∧ readBody .submitLogin RedirectBody.form a = .ok ⟨redirectTo⟩ := by
  unfold Client.readLoginReply
  split
  · simp [*]
  · cases readBody .submitLogin RedirectBody.form a with
    | error e => simp [Except.map]
    | ok body =>
      obtain ⟨text⟩ := body
      simp [Except.map, *]

/-! ## Tokens -/

theorem map_fst_find?_zipIdx (cookies : List Cookie) (name : String) (n : Nat) :
    ((cookies.zipIdx n).find? (·.1.name = name)).map Prod.fst = Cookie.find? cookies name := by
  unfold Cookie.find?
  induction cookies generalizing n with
  | nil => rfl
  | cons c cookies ih =>
    rw [List.zipIdx_cons, List.find?_cons, List.find?_cons]
    split
    · rename_i h
      rw [h]
      rfl
    · rename_i h
      rw [h]
      exact ih (n + 1)

/-- The cookie that is found with its place is the first of its name. -/
theorem map_snd_position? (cookies : List Cookie) (name : String) :
    (Cookie.position? cookies name).map Prod.snd = Cookie.find? cookies name := by
  rw [← map_fst_find?_zipIdx cookies name 0, Cookie.position?, Option.map_map]
  rfl

theorem sessionId_eq_ok_iff {names : CookieNames} {cookies : List Cookie} {session : String} :
    sessionId names cookies = .ok session ↔
      (Cookie.find? cookies names.session).map Cookie.value = some session ∧ session ≠ "" := by
  rw [← map_snd_position?]
  unfold sessionId
  cases Cookie.position? cookies names.session with
  | none => simp
  | some found =>
    simp only [Option.map_some, Option.some.injEq]
    split
    · rename_i hempty
      simp only [reduceCtorEq, false_iff, not_and, hempty]
      rintro rfl
      simp
    · rename_i hvalue
      constructor
      · rintro ⟨⟩
        exact ⟨rfl, hvalue⟩
      · rintro ⟨rfl, -⟩
        rfl

theorem readExchange_eq_ok_iff {a : Answer} {body : ExchangeBody} :
    readExchange a = .ok body ↔ a.content?.map ExchangeBody.form.read = some (.ok body) := by
  unfold readExchange
  cases a.content?.map ExchangeBody.form.read with
  | none => simp
  | some result => cases result <;> simp

theorem readTokens_eq_ok_iff {names : CookieNames} {cookies : List Cookie} {a : Answer}
    {tokens : Tokens} :
    readTokens names cookies a = .ok tokens ↔
      sessionId names cookies = .ok tokens.sessionId ∧
        readExchange a = .ok ⟨tokens.accessToken, tokens.expiresIn, tokens.expiresAt⟩ ∧
        tokens.received = a.received := by
  obtain ⟨accessToken, session, expiresIn, expiresAt, received⟩ := tokens
  unfold readTokens
  cases sessionId names cookies with
  | error e => simp
  | ok session' =>
    cases readExchange a with
    | error e => simp
    | ok body =>
      obtain ⟨accessToken', expiresIn', expiresAt'⟩ := body
      simp only [Except.ok.injEq, Tokens.mk.injEq, ExchangeBody.mk.injEq]
      constructor
      · rintro ⟨rfl, rfl, rfl, rfl, rfl⟩
        exact ⟨rfl, ⟨rfl, rfl, rfl⟩, rfl⟩
      · rintro ⟨rfl, ⟨rfl, rfl, rfl⟩, rfl⟩
        exact ⟨rfl, rfl, rfl, rfl, rfl⟩

theorem readTokenAnswer_eq_ok_iff {names : CookieNames} {a : Answer} {tokens : Tokens} :
    Client.readTokenAnswer names a = .ok tokens ↔
      a.isSuccess = true ∧ readTokens names (Cookie.capture a.headers) a = .ok tokens := by
  unfold Client.readTokenAnswer
  cases a.isSuccess <;> simp [atStep_eq_ok_iff]

end CodeFlow
