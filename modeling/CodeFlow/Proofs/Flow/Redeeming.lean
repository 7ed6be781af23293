import CodeFlow.Proofs.Flow.Reading
import CodeFlow.Proofs.Flow.Succession

/-!
# Redeeming a code

A code is redeemed by one request, and by nothing but the answer to it. The session comes in the
first cookie of its exact name, wherever that stands. The place where it usually stands is looked
at, and what comes of that is a warning and nothing else (`session_position_checked`): the tokens,
the request and every error are the same for any place that is expected, and none.
-/

namespace CodeFlow

open CodeFlow.Http

/-! ## The first cookie of a name -/

/-- A cookie is the first of a name, and stands behind so many others. -/
structure FirstNamed (cookies : List Cookie) (name : String) (i : Nat) (c : Cookie) : Prop where
  found : cookies[i]? = some c
  named : c.name = name
  first : ∀ j < i, ∀ other, cookies[j]? = some other → other.name ≠ name

variable {cookies : List Cookie} {name : String} {i : Nat} {c : Cookie} {names : CookieNames}
  {a : Answer} {w : Warning}

theorem position?_eq_some_iff :
    Cookie.position? cookies name = some (i, c) ↔ FirstNamed cookies name i c := by
  unfold Cookie.position?
  rw [Option.map_eq_some_iff]
  simp only [List.find?_eq_some_iff_getElem, List.getElem_zipIdx, List.length_zipIdx]
  constructor
  · rintro ⟨-, ⟨hnamed, k, hk, rfl, hfirst⟩, hpair⟩
    -- each cookie was paired with its own index, so the index that is found is that of the cookie
    simp only [Nat.zero_add, Prod.mk.injEq] at hpair
    obtain ⟨rfl, rfl⟩ := hpair
    refine ⟨List.getElem?_eq_getElem hk, of_decide_eq_true hnamed, fun j hj other hother => ?_⟩
    obtain ⟨hlength, rfl⟩ := List.getElem?_eq_some_iff.mp hother
    simpa using hfirst j hj
  · rintro ⟨hfound, hnamed, hfirst⟩
    obtain ⟨hi, rfl⟩ := List.getElem?_eq_some_iff.mp hfound
    refine ⟨(cookies[i], i), ⟨by simpa using hnamed, i, hi, by simp, fun j hj => ?_⟩, rfl⟩
    simpa using hfirst j hj _ (List.getElem?_eq_getElem (Nat.lt_trans hj hi))

theorem sessionId_of_firstNamed (h : FirstNamed cookies names.session i c) (hvalue : c.value ≠ "") :
    sessionId names cookies = .ok c.value := by
  simp only [sessionId, position?_eq_some_iff.mpr h, hvalue, if_false]

theorem sessionId_of_not_exists
    (h : ¬∃ i c, FirstNamed cookies names.session i c ∧ c.value ≠ "") :
    sessionId names cookies = .error (.missingCookie names.session) := by
  unfold sessionId
  split
  · rfl
  · rename_i i c hfound
    split
    · rfl
    · rename_i hvalue
      exact absurd ⟨i, c, position?_eq_some_iff.mp hfound, hvalue⟩ h

/-! ## The warning -/

/-- There is a warning where the first cookie of the name is not in the place that is expected. -/
theorem positionWarning?_eq_some_iff :
    positionWarning? names cookies = some w ↔
      ∃ i c expected, FirstNamed cookies names.session i c ∧
        names.sessionPosition = some expected ∧ expected.toNat ≠ i ∧
        w = .sessionPosition names.session expected.toNat i := by
  simp only [← position?_eq_some_iff]
  unfold positionWarning?
  cases Cookie.position? cookies names.session with
  | none => simp
  | some found =>
    cases names.sessionPosition with
    | none => simp
    | some expected =>
      simp only [Option.some.injEq]
      constructor
      · intro h
        split at h
        · cases h
        · rename_i hne
          cases h
          exact ⟨_, _, expected, rfl, rfl, Ne.symm hne, rfl⟩
      · rintro ⟨i, c, place, rfl, rfl, hne, rfl⟩
        rw [if_neg (Ne.symm hne)]

theorem exchangeRemark_eq_some_iff :
    Client.exchangeRemark names a = some w ↔
      a.isSuccess = true ∧ positionWarning? names (Cookie.capture a.headers) = some w := by
  unfold Client.exchangeRemark
  cases a.isSuccess <;> simp

/-! ## What an answer yields -/

/-- What an answer to a code yields. The status counts first, then the cookie, then the body. -/
inductive Redeems (names : CookieNames) (a : Answer) : Except ProtocolError Tokens → Prop where
  | failed : a.isSuccess = false → Redeems names a (.error (.exchangeFailed a.status a.text))
  | withoutCookie :
      a.isSuccess = true →
      (¬∃ i c, FirstNamed (Cookie.capture a.headers) names.session i c ∧ c.value ≠ "") →
      Redeems names a (.error (.missingCookie names.session))
  | undecodable {i : Nat} {c : Cookie} :
      a.isSuccess = true →
      FirstNamed (Cookie.capture a.headers) names.session i c → c.value ≠ "" →
      (¬∃ body, a.content?.map ExchangeBody.form.read = some (.ok body)) →
      Redeems names a (.error (.invalidBody undecodable))
  | redeemed {i : Nat} {c : Cookie} {body : ExchangeBody} :
      a.isSuccess = true →
      FirstNamed (Cookie.capture a.headers) names.session i c → c.value ≠ "" →
      a.content?.map ExchangeBody.form.read = some (.ok body) →
      Redeems names a
        (.ok ⟨body.accessToken, c.value, body.expiresIn, body.expiresAt, a.received⟩)

theorem readExchange_of_not_exists
    (h : ¬∃ body, a.content?.map ExchangeBody.form.read = some (.ok body)) :
    readExchange a = .error (.invalidBody undecodable) := by
  unfold readExchange
  split
  · rename_i body hbody
    exact absurd ⟨body, hbody⟩ h
  · rfl

variable {result : Except ProtocolError Tokens}

theorem readTokenAnswer_of_redeems (h : Redeems names a result) :
    Client.readTokenAnswer names a = atStep .tokenExchange result := by
  unfold Client.readTokenAnswer
  cases h with
  | failed hstatus => simp only [hstatus, Bool.false_eq_true, if_false, atStep]
  | withoutCookie hstatus hcookie =>
    simp only [hstatus, if_true, readTokens, sessionId_of_not_exists hcookie]
  | undecodable hstatus hcookie hvalue hbody =>
    simp only [hstatus, if_true, readTokens, sessionId_of_firstNamed hcookie hvalue,
      readExchange_of_not_exists hbody]
  | redeemed hstatus hcookie hvalue hbody =>
    simp only [hstatus, if_true, readTokens, sessionId_of_firstNamed hcookie hvalue,
      readExchange_eq_ok_iff.mpr hbody]

/-- Every answer yields tokens or one of the errors. -/
theorem exists_redeems (names : CookieNames) (a : Answer) : ∃ result, Redeems names a result := by
  cases hstatus : a.isSuccess with
  | false => exact ⟨_, .failed hstatus⟩
  | true =>
    by_cases hcookie : ∃ i c, FirstNamed (Cookie.capture a.headers) names.session i c ∧ c.value ≠ ""
    · obtain ⟨i, c, hfirst, hvalue⟩ := hcookie
      by_cases hbody : ∃ body, a.content?.map ExchangeBody.form.read = some (.ok body)
      · obtain ⟨body, hbody⟩ := hbody
        exact ⟨_, .redeemed hstatus hfirst hvalue hbody⟩
      · exact ⟨_, .undecodable hstatus hfirst hvalue hbody⟩
    · exact ⟨_, .withoutCookie hstatus hcookie⟩

theorem atStep_injective {α : Type} {step : Step} {x y : Except ProtocolError α}
    (h : atStep step x = atStep step y) : x = y := by
  cases x <;> cases y <;> simp_all [atStep]

theorem readTokenAnswer_eq_iff :
    Client.readTokenAnswer names a = atStep .tokenExchange result ↔ Redeems names a result := by
  constructor
  · intro h
    obtain ⟨result', hredeems⟩ := exists_redeems names a
    rw [readTokenAnswer_of_redeems hredeems] at h
    rwa [← atStep_injective h]
  · exact readTokenAnswer_of_redeems

theorem readTokenAnswer_eq_error_iff {e : FlowError} :
    Client.readTokenAnswer names a = .error e ↔
      ∃ fault, Redeems names a (.error fault) ∧ e = .protocol .tokenExchange fault := by
  constructor
  · intro h
    obtain ⟨result, hredeems⟩ := exists_redeems names a
    rw [readTokenAnswer_of_redeems hredeems, atStep_eq_error_iff] at h
    obtain ⟨fault, rfl, rfl⟩ := h
    exact ⟨fault, hredeems, rfl⟩
  · rintro ⟨fault, hredeems, rfl⟩
    exact readTokenAnswer_of_redeems hredeems

/-! ## Redeeming -/

/-- A code is redeemed while a server answers by a script. -/
def redemption (c : Client) (endpoint : String) (r : ExchangeRequest) (names : CookieNames)
    (script : List Reply) : Dialogue.Transcript (Except FlowError Tokens) :=
  (c.exchange endpoint r names).run.play script

variable {client : Client} {endpoint : String} {r : ExchangeRequest} {script : List Reply}
  {q : Request} {e : FlowError}

theorem redemption_of_refused (h : (client.exchangeTrip endpoint r names).request = .error e) :
    redemption client endpoint r names script = ⟨.error e, [], [], script⟩ := by
  rw [redemption, Client.exchange_eq, Trip.play_session_of_error h]

theorem redemption_of_sent (h : (client.exchangeTrip endpoint r names).request = .ok q) :
    redemption client endpoint r names script =
      ⟨(client.exchangeTrip endpoint r names).outcome q (replyAt script 0), [q],
        (client.exchangeTrip endpoint r names).remarks (replyAt script 0), script.tail⟩ := by
  rw [redemption, Client.exchange_eq, Trip.play_session_of_ok h]

/-- Another place that is expected changes nothing but the warnings. -/
theorem redemption_of_position (client : Client) (endpoint : String) (r : ExchangeRequest)
    (names : CookieNames) (position : Option UInt64) (script : List Reply) :
    ∃ warnings, redemption client endpoint r { names with sessionPosition := position } script =
      { redemption client endpoint r names script with warnings } := by
  -- what is asked does not depend on any name, and what is read only on that of the session
  have hrequest :
      (client.exchangeTrip endpoint r { names with sessionPosition := position }).request =
        (client.exchangeTrip endpoint r names).request := rfl
  cases hnames : (client.exchangeTrip endpoint r names).request with
  | error e =>
    refine ⟨[], ?_⟩
    rw [redemption_of_refused (hrequest.trans hnames), redemption_of_refused hnames]
  | ok q =>
    rw [redemption_of_sent (hrequest.trans hnames), redemption_of_sent hnames]
    cases replyAt script 0 <;> exact ⟨_, rfl⟩

/-- A code is redeemed by one request wherever the client can reach the endpoint. -/
theorem redemption_of_reaches {url : Url} (hurl : Url.parse endpoint = .ok url)
    (hreaches : client.Reaches url) :
    redemption client endpoint r names script =
      ⟨(client.exchangeTrip endpoint r names).outcome ⟨.post, url, none, some r.toJson.compact⟩
          (replyAt script 0), [⟨.post, url, none, some r.toJson.compact⟩],
        (client.exchangeTrip endpoint r names).remarks (replyAt script 0), script.tail⟩ :=
  redemption_of_sent (Client.postTrip_request_of_reaches hurl hreaches)

/-- Anywhere else nothing is sent, and it is told why. -/
theorem exists_unasked (h : ¬∃ url, Url.parse endpoint = .ok url ∧ client.Reaches url)
    (script : List Reply) :
    ∃ e, Unasked client .tokenExchange endpoint
        (fun url => ⟨.post, url, none, some r.toJson.compact⟩) e ∧
      redemption client endpoint r names script = ⟨.error e, [], [], script⟩ := by
  cases hrequest : (client.exchangeTrip endpoint r names).request with
  | error e =>
    have hunasked := Client.postTrip_request_error_iff.mp hrequest
    exact ⟨e, hunasked, redemption_of_refused hrequest⟩
  | ok q =>
    obtain ⟨url, hurl, hadmits, rfl⟩ := Client.postTrip_request_iff.mp hrequest
    have hreaches : client.Reaches url := (Client.admits_iff_reaches rfl).mp hadmits
    exact absurd ⟨url, hurl, hreaches⟩ h

theorem mem_remarks_exchangeTrip_iff {reply : Reply} :
    w ∈ (client.exchangeTrip endpoint r names).remarks reply ↔
      ∃ a, reply = .answer a ∧ Client.exchangeRemark names a = some w := by
  cases reply <;> simp [Trip.remarks, Client.exchangeTrip, Client.postTrip, Option.mem_toList]

theorem length_remarks_exchangeTrip (reply : Reply) :
    ((client.exchangeTrip endpoint r names).remarks reply).length ≤ 1 := by
  cases reply with
  | answer a => exact Option.length_toList_le
  | unreachable | dropped | silent => simp [Trip.remarks]

/-- The place of the session cookie is looked at, but nothing relies on it: another place that is
expected changes neither the request nor the outcome. Where the endpoint can be reached, the code
is posted to it once. It is redeemed only by an answer, of which the status counts, then the cookie,
then the body; and there is a warning just where an answer of success has the first cookie of the
exact name in another place than the one expected. Where the endpoint cannot be reached, nothing is
sent and nothing redeemed. -/
theorem session_position_checked (client : Client) (endpoint : String) (r : ExchangeRequest)
    (names : CookieNames) :
    (∀ position script,
      let t := redemption client endpoint r names script
      let t' := redemption client endpoint r { names with sessionPosition := position } script
      t'.result = t.result ∧ t'.requests = t.requests ∧ t'.unread = t.unread) ∧
    (∀ url script, Url.parse endpoint = .ok url → client.Reaches url →
      let t := redemption client endpoint r names script
      t.requests = [⟨.post, url, none, some r.toJson.compact⟩] ∧ t.unread = script.tail ∧
      (∀ tokens, t.result = .ok tokens ↔
        ∃ a, replyAt script 0 = .answer a ∧ Redeems names a (.ok tokens)) ∧
      (∀ e, t.result = .error e ↔
        Unanswered .tokenExchange (replyAt script 0) e ∨
        ∃ a fault, replyAt script 0 = .answer a ∧ Redeems names a (.error fault) ∧
          e = .protocol .tokenExchange fault) ∧
      t.warnings.length ≤ 1 ∧
      ∀ w, w ∈ t.warnings ↔
        ∃ a i c expected, replyAt script 0 = .answer a ∧ a.isSuccess = true ∧
          FirstNamed (Cookie.capture a.headers) names.session i c ∧
          names.sessionPosition = some expected ∧ expected.toNat ≠ i ∧
          w = .sessionPosition names.session expected.toNat i) ∧
    ∀ script, (¬∃ url, Url.parse endpoint = .ok url ∧ client.Reaches url) →
      ∃ e, Unasked client .tokenExchange endpoint
          (fun url => ⟨.post, url, none, some r.toJson.compact⟩) e ∧
        redemption client endpoint r names script = ⟨.error e, [], [], script⟩ := by
  refine ⟨fun position script => ?_, fun url script hurl hreaches => ?_,
    fun script h => exists_unasked h script⟩
  · obtain ⟨warnings, hposition⟩ :=
      redemption_of_position client endpoint r names position script
    simp only [hposition, and_self]
  · simp only [redemption_of_reaches hurl hreaches, true_and]
    refine ⟨fun tokens => ?_, fun e => ?_, length_remarks_exchangeTrip _, fun w => ?_⟩
    · rw [Trip.outcome_eq_ok_iff]
      refine exists_congr fun a => and_congr_right fun _ => ?_
      show Client.readTokenAnswer names a = atStep .tokenExchange (.ok tokens) ↔ _
      exact readTokenAnswer_eq_iff
    · rw [Trip.outcome_eq_error_iff]
      apply or_congr_right
      -- what is read from an answer is an error of the step
      show (∃ a, _ ∧ Client.readTokenAnswer names a = .error e) ↔ _
      simp only [readTokenAnswer_eq_error_iff, exists_and_left]
    · rw [mem_remarks_exchangeTrip_iff]
      simp only [exchangeRemark_eq_some_iff, positionWarning?_eq_some_iff]
      constructor
      · rintro ⟨a, hanswer, hstatus, i, c, expected, hwarning⟩
        exact ⟨a, i, c, expected, hanswer, hstatus, hwarning⟩
      · rintro ⟨a, i, c, expected, hanswer, hstatus, hwarning⟩
        exact ⟨a, hanswer, hstatus, i, c, expected, hwarning⟩

/-- The address of an endpoint of a short name. -/
def shortTokenUrl : Url :=
  ⟨"http".toList, some ⟨[], [], .name "api".toList, none⟩, .segments ["token".toList], none, none⟩

/-- A code that is redeemed there. -/
def shortExchange : ExchangeRequest :=
  ⟨"code", "uri", "id", "verifier"⟩

/-- An answer in which the session does not stand where it usually does: it comes behind a cookie
whose name only begins like its own and a text that is no cookie, and in front of another session. -/
def misplacedSession : Answer :=
  { status := 201
    headers := ["sessions=a", "session", "session=b; Path=/", "session=c"].map fun cookie =>
      ⟨"set-cookie", Text.Utf8.bytesOf cookie⟩
    body := some (Text.Utf8.bytesOf "\x7b\"accessToken\":\"2\"\x7d")
    received := .epoch }

theorem session_position_checked_misplaced :
    Url.parse "http://api/token" = .ok shortTokenUrl ∧ Client.Reaches ⟨5⟩ shortTokenUrl ∧
      let t := redemption ⟨5⟩ "http://api/token" shortExchange .usual [.answer misplacedSession]
      t.requests = [⟨.post, shortTokenUrl, none, some shortExchange.toJson.compact⟩] ∧
      t.result = .ok ⟨"2", "b", none, none, .epoch⟩ ∧
      Redeems .usual misplacedSession (.ok ⟨"2", "b", none, none, .epoch⟩) ∧
      Warning.sessionPosition "session" 4 1 ∈ t.warnings := by
  have hurl : Url.parse "http://api/token" = .ok shortTokenUrl := by decide +kernel
  have hreaches : Client.Reaches ⟨5⟩ shortTokenUrl := by decide +kernel
  have hfirst : FirstNamed (Cookie.capture misplacedSession.headers) "session" 1
      ⟨"session", "b", "session=b; Path=/"⟩ :=
    position?_eq_some_iff.mp (by decide +kernel)
  have hredeemed : (redemption ⟨5⟩ "http://api/token" shortExchange .usual
      [.answer misplacedSession]).result.toOption = some ⟨"2", "b", none, none, .epoch⟩ := by
    decide +kernel
  have hresult : (redemption ⟨5⟩ "http://api/token" shortExchange .usual
      [.answer misplacedSession]).result = .ok ⟨"2", "b", none, none, .epoch⟩ := by
    generalize (redemption _ _ _ _ _).result = result at hredeemed
    cases result with
    | error e => cases hredeemed
    | ok tokens => rw [Option.some.inj hredeemed]
  obtain ⟨-, hreached, -⟩ :=
    session_position_checked ⟨5⟩ "http://api/token" shortExchange .usual
  obtain ⟨hrequests, -, hok, -, -, hwarned⟩ :=
    hreached shortTokenUrl [.answer misplacedSession] hurl hreaches
  obtain ⟨a, hanswer, hredeems⟩ := (hok _).mp hresult
  cases hanswer
  exact ⟨hurl, hreaches, hrequests, hresult, hredeems,
    (hwarned _).mpr ⟨misplacedSession, 1, _, 4, rfl, rfl, hfirst, rfl, by decide, rfl⟩⟩

end CodeFlow
