import CodeFlow.Proofs.Flow.Visits
import CodeFlow.Proofs.Url.Reading
import CodeFlow.Proofs.Url.Reencoding

/-!
# Values that are handed over

The challenge and the code of a login each come in an address that an answer redirects to, and go
on in the body of a later request. On the way they are read from a header, an address and a query,
and written as JSON. None of this changes them: whatever spelling the server has chosen, and
whether its address stands alone or leads on from the one that was asked, the body holds the value
that was spelled (`values_survive`).
-/

namespace CodeFlow

open CodeFlow.Http CodeFlow.Text CodeFlow.Url

/-! ## Headers as text -/

/-- Bytes that may be read as text are the characters that they encode. -/
theorem map_char_encode {cs : List Char} (h : (Utf8.encode cs).all inTextValue = true) :
    (Utf8.encode cs).map (fun b => Char.ofNat b.toNat) = cs := by
  induction cs with
  | nil => rfl
  | cons c cs ih =>
    rw [Utf8.encode_cons, List.all_append, Bool.and_eq_true] at h
    have hascii : c.toNat < 0x80 := by
      -- otherwise the first byte would be one of those beyond ASCII
      apply Nat.lt_of_not_le
      intro hbeyond
      obtain ⟨b, bs, hbytes, -⟩ := Utf8.step_encodeChar c []
      rw [List.append_nil] at hbytes
      have hfirst : inTextValue b = true := by
        apply List.all_eq_true.mp h.1
        simp [hbytes]
      have hhigh : 0x80 ≤ b.toNat := by
        apply Utf8.le_of_mem_encodeChar hbeyond
        simp [hbytes]
      simp only [inTextValue, Bool.or_eq_true, Bool.and_eq_true, decide_eq_true_eq, beq_iff_eq,
        UInt8.lt_iff_toNat_lt, ← UInt8.toNat_inj, UInt8.reduceToNat] at hfirst
      omega
    have hbyte : (UInt8.ofNat c.toNat).toNat = c.toNat := Utf8.toNat_ofNat_byte (by omega)
    rw [Utf8.encode_cons, Utf8.encodeChar_ascii hascii, List.map_append, ih h.2]
    simp [hbyte]

theorem text_eq_of_bytesOf {h : Header} {text text' : String} (hvalue : h.value = Utf8.bytesOf text)
    (htext : h.text? = some text') : text' = text := by
  unfold Header.text? at htext
  split at htext
  · rename_i hall
    cases htext
    rw [hvalue, Utf8.bytesOf] at hall ⊢
    rw [map_char_encode hall, String.ofList_toList]
  · cases htext

/-! ## Pairs of locations -/

theorem isEdge_of_isVisible {c : Char} (h : isVisible c = true) (hspace : c ≠ ' ') :
    isEdge c = false := by
  have hne : c.toNat ≠ 0x20 := by
    intro heq
    exact hspace (Char.toNat_inj.mp heq)
  simp only [isVisible, Bool.and_eq_true, decide_eq_true_eq] at h
  simp only [isEdge, decide_eq_false_iff_not]
  omega

/-- The pairs of a location are those that its text spells. -/
theorem pairs_of_join {base location : Url} {text : String} {query : List Char}
    {ps : List (String × String)} (hjoin : base.join text = .ok location)
    (hquery : queryText? text.toList = some query) (hspells : SpellsQuery ps query) :
    location.pairs = ps := by
  have hclean : queryText? (clean text.toList) = some query := by
    apply queryText?_clean hquery
    intro c hc
    obtain ⟨hvisible, hspace, -⟩ := hspells.visible c hc
    exact isEdge_of_isVisible hvisible hspace
  obtain ⟨kind, hkept⟩ := query_of_join hclean hjoin
  rw [pairs_eq, hkept, keptQuery, hclean]
  exact (pairsOf_percentEncode kind.isSpecial query).trans hspells.pairsOf_eq

theorem lookup_of_first {before behind : List (String × String)} {name value : String}
    (h : ∀ p ∈ before, p.1 ≠ name) :
    (before ++ (name, value) :: behind).lookup name = some value := by
  have hbefore : before.lookup name = none := by
    rw [List.lookup_eq_none_iff]
    intro p hp
    simpa using (h p hp).symm
  rw [List.lookup_append, hbefore]
  simp

/-! ## Answers that hand over a value -/

/-- An answer redirects to an address whose query spells pairs. None of them reports an error, and
the first with a name has a value. -/
structure HandsOver (a : Answer) (name value : String) : Prop where
  isRedirect : a.isRedirect = true
  location : ∃ (h : Header) (text : String) (query : List Char)
    (before behind : List (String × String)),
    a.headers.find? (Header.isNamed "location") = some h ∧ h.value = Utf8.bytesOf text ∧
      queryText? text.toList = some query ∧
      SpellsQuery (before ++ (name, value) :: behind) query ∧ (∀ p ∈ before, p.1 ≠ name) ∧
      ∀ p ∈ before ++ (name, value) :: behind, p.1 ≠ "error"

variable {a : Answer} {name value : String} {asked location : Url}

/-- Wherever the redirect leads, the value is what is read there. -/
theorem HandsOver.parameter (h : HandsOver a name value) (hne : value ≠ "")
    (htarget : redirectTarget? asked a = some location) :
    location.parameter? name = some value ∧ providerError? location = none := by
  obtain ⟨header, text, query, before, behind, hheader, hvalue, hquery, hspells, hbefore, herror⟩ :=
    h.location
  unfold redirectTarget? Answer.header? at htarget
  rw [hheader, Option.bind_some] at htarget
  obtain ⟨text', htext, hjoined⟩ := Option.bind_eq_some_iff.mp htarget
  obtain rfl := text_eq_of_bytesOf hvalue htext
  have hpairs : location.pairs = before ++ (name, value) :: behind := by
    cases hjoin : (bareUrl asked).join text' with
    | error fault => simp [hjoin, Except.toOption] at hjoined
    | ok location' =>
      obtain rfl : location' = location := by simpa [hjoin, Except.toOption] using hjoined
      exact pairs_of_join hjoin hquery hspells
  constructor
  · rw [parameter?_eq_some_iff, hpairs]
    exact ⟨lookup_of_first hbefore, hne⟩
  · have hnone : location.pairs.lookup "error" = none := by
      rw [hpairs, List.lookup_eq_none_iff]
      intro p hp
      simpa using (herror p hp).symm
    simp [providerError?, Url.parameter?, hnone]

theorem HandsOver.readRedirect (h : HandsOver a name value) (hne : value ≠ "")
    (htarget : redirectTarget? asked a = some location) :
    readRedirect asked a = .ok ⟨location, Cookie.capture a.headers⟩ := by
  rw [readRedirect_eq_ok_iff]
  exact ⟨h.isRedirect, htarget, (h.parameter hne htarget).2, rfl⟩

/-- If anything is read from a redirect, the value was handed over in its address. -/
theorem HandsOver.of_readRedirect (h : HandsOver a name value) (hne : value ≠ "")
    {redirect : Redirect} (hread : CodeFlow.readRedirect asked a = .ok redirect) :
    redirect.location.parameter? name = some value := by
  obtain ⟨-, htarget, -, -⟩ := readRedirect_eq_ok_iff.mp hread
  exact (h.parameter hne htarget).1

/-! ## Legs that are handed a value -/

namespace LoginRun

variable {r : LoginRun} {script : List Reply} {challenge code : String} {a₁ a₅ : Answer}

/-- Behind the first answer, the challenge is the one that it hands over. -/
theorem Visits.challenge_eq {grant : AuthorizationGrant} {password : String}
    (h : r.Visits script (.submitLogin grant password)) (hanswer : script[0]? = some (.answer a₁))
    (hhands : HandsOver a₁ "login_challenge" challenge) (hne : challenge ≠ "") :
    grant.loginChallenge = challenge := by
  cases h with
  | @onward leg _ q a y hvisits hrequest hreply hread hnext =>
    cases leg with
    | authorize =>
      simp only [next] at hnext
      split at hnext <;> cases hnext
      cases hanswer.symm.trans hreply
      obtain ⟨redirect, hredirect, hgrant⟩ := readThrough_eq_ok_iff.mp hread
      obtain ⟨hchallenge, -⟩ := readGrant_eq_ok_iff.mp hgrant
      rw [hhands.of_readRedirect hne hredirect] at hchallenge
      exact (Option.some.inj hchallenge).symm
    | submitLogin => cases y <;> cases hnext
    | acceptLogin => cases hnext
    | fetchConsent => cases hnext
    | acceptConsent => cases hnext
    | tokenExchange => cases hnext

/-- Behind the fifth answer, the code is the one that it hands over. -/
theorem Visits.code_eq {grant : AuthorizationGrant} {redirectTo : String} {consent : ConsentGrant}
    (h : r.Visits script (.tokenExchange grant redirectTo consent))
    (hanswer : script[4]? = some (.answer a₅)) (hhands : HandsOver a₅ "code" code)
    (hne : code ≠ "") : consent.authorizationCode = code := by
  cases h with
  | @onward leg _ q a y hvisits hrequest hreply hread hnext =>
    cases leg with
    | authorize =>
      simp only [next] at hnext
      split at hnext <;> cases hnext
    | submitLogin => cases y <;> cases hnext
    | acceptLogin => cases hnext
    | fetchConsent => cases hnext
    | acceptConsent grant redirectTo accepted consentTo =>
      cases hnext
      cases hanswer.symm.trans hreply
      obtain ⟨redirect, hredirect, hcode⟩ := readThrough_eq_ok_iff.mp hread
      have hparameter := readCode_eq_ok_iff.mp hcode
      rw [hhands.of_readRedirect hne hredirect] at hparameter
      exact (Option.some.inj hparameter).symm
    | tokenExchange => cases hnext

/-! ## Runs -/

/-- What a run makes of a challenge and a code that are handed over by its first and its fifth
answer. -/
structure HandsOn (r : LoginRun) (script : List Reply) (a₁ a₅ : Answer) (challenge code : String) :
    Prop where
  challenge : ∀ q, (r.dialogue.play script).requests[1]? = some q →
    q.member? "loginChallenge" = some (.str challenge)
  code : ∀ q, (r.dialogue.play script).requests[5]? = some q →
    q.member? "code" = some (.str code)
  /-- The value keeps nothing back: a challenge that was asked for is posted, unless the address
  cannot be read, no cookie comes with it, the password cannot be encrypted or the backend cannot be
  asked. -/
  posts : ∀ asked url ciphertext, (r.dialogue.play script).requests[0]? = some asked →
    (redirectTarget? asked.url a₁).isSome = true → Cookie.capture a₁.headers ≠ [] →
    LoginFlow.encrypt r.flow.key r.seed r.credentials.password = .ok ciphertext →
    Url.parse r.flow.config.backend.login = .ok url → r.flow.client.Reaches url →
    ((r.dialogue.play script).requests[1]?).isSome = true
  /-- Nor is a code kept back. -/
  redeems : ∀ asked url, (r.dialogue.play script).requests[4]? = some asked →
    (redirectTarget? asked.url a₅).isSome = true →
    Url.parse r.flow.config.backend.tokenExchange = .ok url → r.flow.client.Reaches url →
    ((r.dialogue.play script).requests[5]?).isSome = true

/-- The request of a leg that is visited stands in the run, if it can be posted. -/
theorem isSome_of_visits {leg : Leg} {p : Posting} {endpoint : String} {url : Url}
    (hfresh : r.attempt.state = .new) (hvisits : r.Visits script leg)
    (hrequest : ∀ q, (r.trip leg).request = .ok q ↔ ∃ url, Url.parse endpoint = .ok url ∧
      r.flow.client.Admits q ∧ q = ⟨.post, url, none, some p.toJson.compact⟩)
    (hurl : Url.parse endpoint = .ok url) (hreaches : r.flow.client.Reaches url) :
    ((r.dialogue.play script).requests[leg.index]?).isSome = true := by
  have hsent : (r.dialogue.play script).requests[leg.index]? =
      some ⟨.post, url, none, some p.toJson.compact⟩ := by
    apply (requests_getElem?_iff hfresh).mpr
    refine ⟨leg, hvisits, rfl, (hrequest _).mpr ⟨url, hurl, ?_, rfl⟩⟩
    exact (Client.admits_iff_reaches rfl).mpr hreaches
  simp [hsent]

/-- The login that is posted carries the challenge that was handed over. -/
theorem member?_of_submitLogin (harises : r.attempt.Arises)
    (hfirst : script[0]? = some (.answer a₁))
    (hchallenge : HandsOver a₁ "login_challenge" challenge) (hne : challenge ≠ "") {q : Request}
    (h : (r.dialogue.play script).requests[1]? = some q) :
    q.member? "loginChallenge" = some (.str challenge) := by
  obtain ⟨leg, hvisits, hindex, hrequest⟩ := visits_of_request harises h
  cases leg with
  | submitLogin grant password =>
    obtain rfl := hvisits.challenge_eq hfirst hchallenge hne
    obtain ⟨url, -, -, rfl⟩ := Client.postTrip_request_iff.mp hrequest
    exact Posting.member?_eq
      (p := .login ⟨r.credentials.email, password, grant.loginChallenge⟩) rfl _
  | _ => simp [Leg.index] at hindex

/-- The request for the tokens carries the code that was handed over. -/
theorem member?_of_tokenExchange (harises : r.attempt.Arises)
    (hfifth : script[4]? = some (.answer a₅)) (hcode : HandsOver a₅ "code" code) (hne : code ≠ "")
    {q : Request} (h : (r.dialogue.play script).requests[5]? = some q) :
    q.member? "code" = some (.str code) := by
  obtain ⟨leg, hvisits, hindex, hrequest⟩ := visits_of_request harises h
  cases leg with
  | tokenExchange grant redirectTo consent =>
    obtain rfl := hvisits.code_eq hfifth hcode hne
    obtain ⟨url, -, -, rfl⟩ := Client.postTrip_request_iff.mp hrequest
    exact Posting.member?_eq
      (p := .exchange (r.attempt.exchangeRequest r.flow.config consent.authorizationCode)) rfl _
  | _ => simp [Leg.index] at hindex

/-- Behind the first answer the login is posted. -/
theorem isSome_submitLogin (harises : r.attempt.Arises) (hfirst : script[0]? = some (.answer a₁))
    (hchallenge : HandsOver a₁ "login_challenge" challenge) (hne : challenge ≠ "") {asked : Request}
    {url : Url} {ciphertext : String}
    (hasked : (r.dialogue.play script).requests[0]? = some asked)
    (htarget : (redirectTarget? asked.url a₁).isSome = true)
    (hcookies : Cookie.capture a₁.headers ≠ [])
    (hencrypt : LoginFlow.encrypt r.flow.key r.seed r.credentials.password = .ok ciphertext)
    (hurl : Url.parse r.flow.config.backend.login = .ok url) (hreaches : r.flow.client.Reaches url) :
    ((r.dialogue.play script).requests[1]?).isSome = true := by
  obtain ⟨leg, hvisits, hindex, hrequest⟩ := visits_of_request harises hasked
  cases leg with
  | authorize =>
    obtain ⟨location, hlocation⟩ := Option.isSome_iff_exists.mp htarget
    obtain ⟨csrf, cookies, hcapture⟩ := List.exists_cons_of_ne_nil hcookies
    have hread : (r.trip .authorize).read asked a₁ = .ok ⟨challenge, csrf⟩ := by
      apply readThrough_eq_ok_iff.mpr
      refine ⟨_, hchallenge.readRedirect hne hlocation, readGrant_eq_ok_iff.mpr ?_⟩
      exact ⟨(hchallenge.parameter hne hlocation).1, by simp [hcapture]⟩
    have hnext : r.next .authorize ⟨challenge, csrf⟩ =
        .onward (.submitLogin ⟨challenge, csrf⟩ ciphertext) := by
      simp [next, hencrypt]
    exact isSome_of_visits (p := .login ⟨r.credentials.email, ciphertext, challenge⟩)
      (fresh_of_request harises hasked) (hvisits.onward hrequest hfirst hread hnext)
      (fun q => Client.postTrip_request_iff) hurl hreaches
  | _ => simp [Leg.index] at hindex

/-- Behind the fifth answer the code is redeemed. -/
theorem isSome_tokenExchange (harises : r.attempt.Arises)
    (hfifth : script[4]? = some (.answer a₅)) (hcode : HandsOver a₅ "code" code) (hne : code ≠ "")
    {asked : Request} {url : Url} (hasked : (r.dialogue.play script).requests[4]? = some asked)
    (htarget : (redirectTarget? asked.url a₅).isSome = true)
    (hurl : Url.parse r.flow.config.backend.tokenExchange = .ok url)
    (hreaches : r.flow.client.Reaches url) :
    ((r.dialogue.play script).requests[5]?).isSome = true := by
  obtain ⟨leg, hvisits, hindex, hrequest⟩ := visits_of_request harises hasked
  cases leg with
  | acceptConsent grant redirectTo accepted consentTo =>
    obtain ⟨location, hlocation⟩ := Option.isSome_iff_exists.mp htarget
    have hread : (r.trip (.acceptConsent grant redirectTo accepted consentTo)).read asked a₅ =
        .ok code := by
      apply readThrough_eq_ok_iff.mpr
      refine ⟨_, hcode.readRedirect hne hlocation, readCode_eq_ok_iff.mpr ?_⟩
      exact (hcode.parameter hne hlocation).1
    exact isSome_of_visits (p := .exchange (r.attempt.exchangeRequest r.flow.config code))
      (fresh_of_request harises hasked) (hvisits.onward hrequest hfifth hread rfl)
      (fun q => Client.postTrip_request_iff) hurl hreaches
  | _ => simp [Leg.index] at hindex

end LoginRun

/-- A challenge and a code that are handed over by the answers of a run go on as they are. -/
theorem values_survive {r : LoginRun} {script : List Reply} {challenge code : String}
    {a₁ a₅ : Answer} (harises : r.attempt.Arises) (hchallenge_ne : challenge ≠ "")
    (hcode_ne : code ≠ "") (hfirst : script[0]? = some (.answer a₁))
    (hfifth : script[4]? = some (.answer a₅))
    (hchallenge : HandsOver a₁ "login_challenge" challenge) (hcode : HandsOver a₅ "code" code) :
    r.HandsOn script a₁ a₅ challenge code where
  challenge _ hq := LoginRun.member?_of_submitLogin harises hfirst hchallenge hchallenge_ne hq
  code _ hq := LoginRun.member?_of_tokenExchange harises hfifth hcode hcode_ne hq
  posts _ _ _ hasked htarget hcookies hencrypt hurl hreaches :=
    LoginRun.isSome_submitLogin harises hfirst hchallenge hchallenge_ne hasked htarget hcookies
      hencrypt hurl hreaches
  redeems _ _ hasked htarget hurl hreaches :=
    LoginRun.isSome_tokenExchange harises hfifth hcode hcode_ne hasked htarget hurl hreaches

/-! ## Written locations -/

/-- A location with pairs as they are usually written. -/
def locationWith (front : String) (ps : List (String × String)) (fragment : String) : String :=
  String.ofList (front.toList ++ '?' :: (appendPairs [] ps ++ '#' :: fragment.toList))

/-- Every value can be handed over. -/
theorem handsOver_locationWith {front fragment name value : String}
    {before behind : List (String × String)} {headers : List Header} {body : Option (List UInt8)}
    {received : Time.Instant} {decode : List UInt8 → String} (hfront : StaysInPath front.toList)
    (hbefore : ∀ p ∈ before, p.1 ≠ name)
    (herror : ∀ p ∈ before ++ (name, value) :: behind, p.1 ≠ "error") :
    HandsOver ⟨302, ⟨"Location", Utf8.bytesOf
      (locationWith front (before ++ (name, value) :: behind) fragment)⟩ :: headers, body, received,
      decode⟩ name value where
  isRedirect := by simp [Answer.isRedirect]
  location := by
    have hspells := spellsQuery_appendPairs (before ++ (name, value) :: behind)
    have hnamed : Header.isNamed "location" ⟨"Location", Utf8.bytesOf
        (locationWith front (before ++ (name, value) :: behind) fragment)⟩ = true := by
      simp only [Header.isNamed]
      decide +kernel
    refine ⟨_, _, _, before, behind, List.find?_cons_of_pos hnamed, rfl, ?_, hspells, hbefore,
      herror⟩
    rw [queryText?_eq_some_iff]
    refine ⟨front.toList, '#' :: fragment.toList, by simp [locationWith], hfront, ?_, .inr ⟨_, rfl⟩⟩
    intro hmem
    exact (hspells.visible '#' hmem).2.2 rfl

/-- A challenge with many signs, in an address that stands alone. -/
def oddChallenge : Answer :=
  { status := 302
    headers := [⟨"Location", Utf8.bytesOf (locationWith "http://api/" ([("state", "=&")] ++
        ("login_challenge", "a&b=c+d%41 é😀\"\\") :: [("login_challenge", "x")]) "top")⟩,
      ⟨"Set-Cookie", Utf8.bytesOf "csrf=2"⟩]
    body := some []
    received := .epoch }

/-- A code with many signs, in an address that leads on from the one that was asked. -/
def oddCode : Answer :=
  { status := 302
    headers := [⟨"Location", Utf8.bytesOf
      (locationWith "../done" ([] ++ ("code", "%2B + \x00\n") :: []) "end")⟩]
    body := some []
    received := .epoch }

/-- Servers that hand over both. -/
def oddServers : List Reply :=
  willingServers.set 0 (.answer oddChallenge) |>.set 4 (.answer oddCode)

theorem values_survive_odd : simplestRun.attempt.Arises ∧
    oddServers[0]? = some (.answer oddChallenge) ∧ oddServers[4]? = some (.answer oddCode) ∧
    HandsOver oddChallenge "login_challenge" "a&b=c+d%41 é😀\"\\" ∧
    HandsOver oddCode "code" "%2B + \x00\n" ∧
    (simplestRun.dialogue.play oddServers).requests.length = 6 ∧
    simplestRun.HandsOn oddServers oddChallenge oddCode "a&b=c+d%41 é😀\"\\" "%2B + \x00\n" := by
  have harises : simplestRun.attempt.Arises := ⟨_, _, .same⟩
  have hchallenge : HandsOver oddChallenge "login_challenge" "a&b=c+d%41 é😀\"\\" := by
    apply handsOver_locationWith
    all_goals simp [StaysInPath, endsPath]
  have hcode : HandsOver oddCode "code" "%2B + \x00\n" := by
    apply handsOver_locationWith
    all_goals simp [StaysInPath, endsPath]
  exact ⟨harises, rfl, rfl, hchallenge, hcode, by decide +kernel,
    values_survive harises (by decide) (by decide) rfl rfl hchallenge hcode⟩

end CodeFlow
