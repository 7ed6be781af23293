import CodeFlow.Proofs.Flow.Redirecting

/-!
# Granted authorizations

An authorization is granted by a redirect that brings a challenge and sets a cookie. Of all that may
be wrong with an answer, the first thing in a fixed order is reported, and it is always reported as
an error of the same step (`authorization_settled`). Nothing else of the answer counts: neither the
body of a redirect nor a header behind the first of its kind.
-/

namespace CodeFlow

open CodeFlow.Http

/-! ## What an answer grants -/

/-- An answer grants an authorization: it redirects to an address that bears the challenge, and the
first of the cookies that it sets is the one to keep. -/
structure Granted (asked : Url) (a : Answer) (grant : AuthorizationGrant) : Prop where
  challenge : ∃ location, RedirectsTo asked a location ∧
    location.Bears "login_challenge" grant.loginChallenge
  csrf : a.SetsFirst (fun _ => True) grant.csrfCookie

/-- The first thing for which an answer grants nothing. -/
inductive Denied (asked : Url) (a : Answer) : ProtocolError → Prop where
  | misled {e : ProtocolError} : RedirectFault asked a e → Denied asked a e
  | unchallenged {location : Url} :
      RedirectsTo asked a location →
      (¬∃ challenge, location.Bears "login_challenge" challenge) →
      Denied asked a .missingChallenge
  | withoutCookie {location : Url} {challenge : String} :
      RedirectsTo asked a location → location.Bears "login_challenge" challenge →
      (¬∃ c, a.SetsFirst (fun _ => True) c) →
      Denied asked a (.missingCookie csrfCookieName)

section

variable {asked : Url} {a a' : Answer} {grant : AuthorizationGrant} {e : ProtocolError}

theorem head?_capture_eq_none_iff :
    (Cookie.capture a.headers).head? = none ↔ ¬∃ c, a.SetsFirst (fun _ => True) c :=
  eq_none_iff_of_eq_some_iff fun _ => Cookie.head?_capture_eq_some_iff

theorem readGrant_of_readRedirect_eq_ok_iff :
    (readRedirect asked a).bind readGrant = .ok grant ↔ Granted asked a grant := by
  simp only [bind_eq_ok_iff, readRedirect_eq_ok_iff_redirectsTo, readGrant_eq_ok_iff]
  constructor
  · rintro ⟨⟨location, cookies⟩, ⟨hto, rfl⟩, hchallenge, hcookie⟩
    exact ⟨⟨location, hto, parameter?_eq_some_iff.mp hchallenge⟩,
      Cookie.head?_capture_eq_some_iff.mp hcookie⟩
  · rintro ⟨⟨location, hto, hchallenge⟩, hcookie⟩
    exact ⟨⟨location, Cookie.capture a.headers⟩, ⟨hto, rfl⟩,
      parameter?_eq_some_iff.mpr hchallenge, Cookie.head?_capture_eq_some_iff.mpr hcookie⟩

theorem readGrant_of_readRedirect_eq_error_iff :
    (readRedirect asked a).bind readGrant = .error e ↔ Denied asked a e := by
  simp only [bind_eq_error_iff, readRedirect_eq_error_iff, readRedirect_eq_ok_iff_redirectsTo,
    readGrant_eq_error_iff]
  constructor
  · rintro (hfault | ⟨⟨location, cookies⟩, ⟨hto, rfl⟩,
      ⟨hnone, rfl⟩ | ⟨challenge, hsome, hcookie, rfl⟩⟩)
    · exact .misled hfault
    · exact .unchallenged hto (parameter?_eq_none_iff.mp hnone)
    · exact .withoutCookie hto (parameter?_eq_some_iff.mp hsome)
        (head?_capture_eq_none_iff.mp hcookie)
  · rintro (hfault | ⟨hto, hnone⟩ | ⟨hto, hsome, hcookie⟩)
    · exact .inl hfault
    · exact .inr ⟨⟨_, Cookie.capture a.headers⟩, ⟨hto, rfl⟩,
        .inl ⟨parameter?_eq_none_iff.mpr hnone, rfl⟩⟩
    · exact .inr ⟨⟨_, Cookie.capture a.headers⟩, ⟨hto, rfl⟩,
        .inr ⟨_, parameter?_eq_some_iff.mpr hsome, head?_capture_eq_none_iff.mpr hcookie, rfl⟩⟩

/-! ## What does not count -/

/-- Of a redirect, nothing counts but its first `Location` and its first cookie. -/
theorem readGrant_of_readRedirect_congr (hstatus : a'.status = a.status)
    (htext : a.isRedirect = false → a'.text = a.text)
    (hlocation : a'.header? "location" = a.header? "location")
    (hcookie : (Cookie.capture a'.headers).head? = (Cookie.capture a.headers).head?) :
    (readRedirect asked a').bind readGrant = (readRedirect asked a).bind readGrant := by
  have hredirect : a'.isRedirect = a.isRedirect := by simp only [Answer.isRedirect, hstatus]
  unfold readRedirect
  rw [hredirect, hlocation, hstatus]
  cases h : a.isRedirect with
  | false => simp [htext h]
  | true =>
    cases a.header? "location" with
    | none => simp
    | some text =>
      cases hjoin : (bareUrl asked).join text with
      | error fault => simp [hjoin]
      | ok location =>
        cases herror : providerError? location with
        | some e => simp [hjoin, herror]
        | none => simp [hjoin, herror, Except.bind, readGrant, hcookie]

/-- A header stands behind another one of its kind, or is of no kind that counts: it may be a
`Location`, set a cookie, name the encoding of the text, or do none of these. -/
structure Behind (before : List Header) (h : Header) : Prop where
  location : h.isNamed "location" = true → ∃ x ∈ before, x.isNamed "location" = true
  cookie : (∃ c, h.Sets c) → ∃ x ∈ before, ∃ c, x.Sets c
  /-- Only behind another one does a `Content-Type` leave the text of a body as it is. -/
  encoding : h.isNamed "content-type" = true → ∃ x ∈ before, x.isNamed "content-type" = true

theorem head?_capture_of_behind {before after : List Header} {h : Header}
    (hbehind : Behind before h) :
    (Cookie.capture (before ++ h :: after)).head? = (Cookie.capture (before ++ after)).head? := by
  simp only [Cookie.capture_eq_filterMap, List.filterMap_append, List.filterMap_cons]
  cases hsets : Cookie.ofHeader? h with
  | none => rfl
  | some c =>
    -- another cookie stands in front of it, and is the first of both lists
    obtain ⟨x, hx, d, hd⟩ := hbehind.cookie ⟨c, Cookie.ofHeader?_eq_some_iff.mp hsets⟩
    have hne : before.filterMap Cookie.ofHeader? ≠ [] :=
      List.ne_nil_of_mem (List.mem_filterMap.mpr ⟨x, hx, Cookie.ofHeader?_eq_some_iff.mpr hd⟩)
    rw [List.head?_append_of_ne_nil _ hne, List.head?_append_of_ne_nil _ hne]

end

/-! ## Authorizations -/

/-- An authorization is asked for while a server answers by a script. -/
def authorization (c : Client) (r : AuthorizationRequest) (script : List Reply) :
    Dialogue.Transcript (Except FlowError AuthorizationGrant) :=
  (c.authorize r).run.play script

section

variable {c : Client} {r : AuthorizationRequest} {url : Url}

theorem authorization_of_reaches (hurl : Url.parse r.endpoint = .ok url)
    (hreaches : c.Reaches (url.addPairs r.query)) (a : Answer) (rest : List Reply) :
    authorization c r (.answer a :: rest) =
      ⟨atStep .authorize ((readRedirect (url.addPairs r.query) a).bind readGrant),
        [⟨.get, url.addPairs r.query, none, none⟩], [], rest⟩ := by
  have hrequest : (c.authorizeTrip r).request = .ok ⟨.get, url.addPairs r.query, none, none⟩ :=
    Client.authorizeTrip_request_iff.mpr
      ⟨url, hurl, (Client.admits_iff_reaches rfl).mpr hreaches, rfl⟩
  rw [authorization, Client.authorize_eq, Trip.play_session_of_ok hrequest]
  rfl

/-- Where an authorization can be asked for, the answer settles what comes of it. It is granted if
everything is in order with the answer, and otherwise it is denied for the first thing that is not.
The body of a redirect, however it is read, and headers behind the first of their kind change
nothing. -/
theorem authorization_settled (hurl : Url.parse r.endpoint = .ok url)
    (hreaches : c.Reaches (url.addPairs r.query)) (a : Answer) (rest : List Reply) :
    let asked := url.addPairs r.query
    let t := authorization c r (.answer a :: rest)
    t.requests = [⟨.get, asked, none, none⟩] ∧ t.warnings = [] ∧ t.unread = rest ∧
      (∀ grant, t.result = .ok grant ↔ Granted asked a grant) ∧
      (∀ e, t.result = .error e ↔ ∃ fault, e = .protocol .authorize fault ∧ Denied asked a fault) ∧
      (a.isRedirect = true → ∀ body decode,
        (authorization c r (.answer { a with body, decode } :: rest)).result = t.result) ∧
      ∀ before h after, a.headers = before ++ h :: after → Behind before h →
        (authorization c r (.answer { a with headers := before ++ after } :: rest)).result =
          t.result := by
  simp only [authorization_of_reaches hurl hreaches, true_and]
  refine ⟨fun grant => ?_, fun e => ?_, fun hredirect body decode => ?_,
    fun before h after hheaders hbehind => ?_⟩
  · rw [atStep_eq_ok_iff, readGrant_of_readRedirect_eq_ok_iff]
  · simp only [atStep_eq_error_iff, readGrant_of_readRedirect_eq_error_iff, and_comm]
  · refine congrArg _ (readGrant_of_readRedirect_congr rfl (fun hother => ?_) rfl rfl)
    cases hredirect.symm.trans hother
  · refine congrArg _ (readGrant_of_readRedirect_congr rfl (fun _ => rfl) ?_ ?_)
    · simp only [Answer.header?, hheaders, find?_of_behind hbehind.location]
    · rw [hheaders, head?_capture_of_behind hbehind]

end

/-- An authorization that is asked for at an endpoint of a short name. -/
def shortAuthorization : AuthorizationRequest :=
  ⟨"http://idp/auth", "web", "http://app/cb", "openid", "7", "c", "S256"⟩

/-- The address of that endpoint. -/
def shortEndpoint : Url :=
  ⟨"http".toList, some ⟨[], [], .name "idp".toList, none⟩, .segments ["auth".toList], none, none⟩

/-- A redirect with much that does not count: headers that set no cookie, an empty error, a second
challenge, a second `Location` that cannot be read, a second cookie, and a body that broke off. -/
def wordyRedirect : Answer :=
  { status := 303
    headers := [("set-cookie", "é=1"), ("Set-Cookie", "flag; Path=/"),
      ("LOCATION", "?error=&login_challenge=a+b&login_challenge=c"), ("Set-Cookie", "csrf = x ;y"),
      ("Location", "http://:"), ("Set-Cookie", "d=1")].map
        fun (name, value) => ⟨name, Text.Utf8.bytesOf value⟩
    body := none
    received := .epoch }

theorem authorization_settled_wordy :
    Url.parse shortAuthorization.endpoint = .ok shortEndpoint ∧
      Client.Reaches ⟨5⟩ (shortEndpoint.addPairs shortAuthorization.query) ∧
      Granted (shortEndpoint.addPairs shortAuthorization.query) wordyRedirect
        ⟨"a b", ⟨"csrf", "x", "csrf = x ;y"⟩⟩ := by
  have hurl : Url.parse shortAuthorization.endpoint = .ok shortEndpoint := by decide +kernel
  have hreaches : Client.Reaches ⟨5⟩ (shortEndpoint.addPairs shortAuthorization.query) := by
    decide +kernel
  have hyields :
      ((authorization ⟨5⟩ shortAuthorization [.answer wordyRedirect]).result.toOption.map
        fun grant => (grant.loginChallenge, grant.csrfCookie)) =
      some ("a b", ⟨"csrf", "x", "csrf = x ;y"⟩) := by
    decide +kernel
  have hresult : (authorization ⟨5⟩ shortAuthorization [.answer wordyRedirect]).result =
      .ok ⟨"a b", ⟨"csrf", "x", "csrf = x ;y"⟩⟩ := by
    generalize (authorization ⟨5⟩ shortAuthorization [.answer wordyRedirect]).result = result
      at hyields
    cases result with
    | error e => cases hyields
    | ok grant =>
      obtain ⟨challenge, csrf⟩ := grant
      cases hyields
      rfl
  obtain ⟨-, -, -, hgranted, -⟩ := authorization_settled hurl hreaches wordyRedirect []
  exact ⟨hurl, hreaches, (hgranted _).mp hresult⟩

end CodeFlow
