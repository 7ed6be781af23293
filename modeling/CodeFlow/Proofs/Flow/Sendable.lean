import CodeFlow.Proofs.Cookie
import CodeFlow.Proofs.Flow.Carried
import CodeFlow.Proofs.Flow.Consenting
import CodeFlow.Proofs.Flow.Stopping
import CodeFlow.Proofs.Text.Utf8

/-!
# Cookies that can be sent

Headers are received with any bytes, and only those of printable ASCII and tabs are read as texts.
So whatever a cookie holds that was captured, its characters are such bytes, and they stay so where
the text is cut and trimmed. A line of such cookies is a value that a header may hold. A request of
a login that carries cookies is therefore refused for its address alone (`captured_cookies_sent`).
-/

namespace CodeFlow

open CodeFlow.Http CodeFlow.Text

/-! ## Characters of one printable byte -/

/-- A character of printable ASCII, or a tab. -/
def IsPlainChar (c : Char) : Prop :=
  (0x20 ≤ c.toNat ∧ c.toNat ≤ 0x7e) ∨ c.toNat = 9

/-- A byte of printable ASCII, or a tab. -/
def IsPlainByte (b : UInt8) : Prop :=
  (0x20 ≤ b ∧ b ≤ 0x7e) ∨ b = 9

theorem isPlainByte_iff_toNat {b : UInt8} :
    IsPlainByte b ↔ (0x20 ≤ b.toNat ∧ b.toNat ≤ 0x7e) ∨ b.toNat = 9 := by
  unfold IsPlainByte
  rw [UInt8.le_iff_toNat_le, UInt8.le_iff_toNat_le, ← UInt8.toNat_inj]
  rfl

/-- A header may hold these bytes, whether or not it is read as a text. -/
theorem inValue_of_isPlainByte {b : UInt8} (h : IsPlainByte b) : inValue b = true := by
  have hne : b.toNat ≠ 127 := by
    rw [isPlainByte_iff_toNat] at h
    omega
  have hne : b ≠ 127 := fun heq => hne (congrArg UInt8.toNat heq)
  rcases h with ⟨hlow, -⟩ | rfl
  · simp [inValue, hlow, hne]
  · rfl

/-- Such a character is written as one byte. -/
theorem isPlainByte_of_mem_encodeChar {c : Char} (h : IsPlainChar c) {b : UInt8}
    (hb : b ∈ String.utf8EncodeChar c) : IsPlainByte b := by
  have hascii : c.toNat < 0x80 := by
    unfold IsPlainChar at h
    omega
  rw [Utf8.encodeChar_ascii hascii, List.mem_singleton] at hb
  rw [isPlainByte_iff_toNat, hb, Utf8.toNat_ofNat_byte (by omega)]
  exact h

theorem isPlainByte_of_mem_bytesOf {s : String} (h : ∀ c ∈ s.toList, IsPlainChar c) {b : UInt8}
    (hb : b ∈ Utf8.bytesOf s) : IsPlainByte b := by
  obtain ⟨c, hc, hbc⟩ := List.mem_flatMap.mp hb
  exact isPlainByte_of_mem_encodeChar (h c hc) hbc

theorem isValueText_of_isPlainChar {s : String} (h : ∀ c ∈ s.toList, IsPlainChar c) :
    isValueText s = true :=
  List.all_eq_true.mpr fun _ hb => inValue_of_isPlainByte (isPlainByte_of_mem_bytesOf h hb)

/-- The text of a header holds such characters only. -/
theorem Http.Header.Reads.isPlainChar {h : Header} {text : String} (hreads : h.Reads text)
    {c : Char} (hc : c ∈ text.toList) : IsPlainChar c := by
  rw [hreads.chars] at hc
  obtain ⟨b, hb, rfl⟩ := List.mem_map.mp hc
  have hprintable : (32 ≤ b.toNat ∧ b.toNat < 127) ∨ b.toNat = 9 := by
    have := hreads.printable b hb
    rwa [UInt8.le_iff_toNat_le, UInt8.lt_iff_toNat_lt, ← UInt8.toNat_inj] at this
  have hvalue : (Char.ofNat b.toNat).toNat = b.toNat := Utf8.toNat_val_ofNat (by omega)
  unfold IsPlainChar
  omega

/-! ## Captured cookies -/

namespace Cookie

variable {text : String} {headers : List Header} {c : Cookie} {cookies : List Cookie}

/-- Name and value are cut out of the text. -/
theorem mem_of_parse? (h : parse? text = some c) {x : Char}
    (hx : x ∈ c.name.toList ++ c.value.toList) : x ∈ text.toList := by
  obtain ⟨p, hp, rfl⟩ := Option.map_eq_some_iff.mp h
  have hcut : (trim (text.toList.takeWhile (· ≠ ';'))).Sublist text.toList :=
    (trim_sublist _).trans (List.takeWhile_sublist _)
  unfold split? at hp
  generalize trim (text.toList.takeWhile (· ≠ ';')) = piece at hp hcut
  simp only at hp
  split at hp
  · cases hp
  · rename_i sign value hdrop
    split at hp
    · cases hp
    · cases hp
      rw [String.toList_ofList, String.toList_ofList, List.mem_append] at hx
      refine hcut.mem ?_
      rcases hx with hname | hvalue
      · exact ((trim_sublist _).trans (List.takeWhile_sublist _)).mem hname
      · have hbehind : x ∈ piece.dropWhile (· ≠ '=') := by
          rw [hdrop]
          exact List.mem_cons_of_mem sign ((trim_sublist value).mem hvalue)
        exact (List.dropWhile_sublist _).mem hbehind

/-- Name and value of a cookie that was captured are printable, whatever bytes the headers hold. -/
theorem isPlainChar_of_mem_capture (hc : c ∈ capture headers) {x : Char}
    (hx : x ∈ c.name.toList ++ c.value.toList) : IsPlainChar x := by
  rw [capture_eq_filterMap] at hc
  obtain ⟨h, -, hsets⟩ := List.mem_filterMap.mp hc
  obtain ⟨-, text, hreads, hparse⟩ := ofHeader?_eq_some_iff.mp hsets
  exact hreads.isPlainChar (mem_of_parse? hparse hx)

/-- A cookie that was captured from some headers. -/
def IsCaptured (c : Cookie) : Prop :=
  ∃ headers, c ∈ capture headers

/-- The line adds an equals sign to each cookie, and a semicolon and a space between two. -/
theorem IsCaptured.isPlainChar_of_mem_line (h : ∀ c ∈ cookies, c.IsCaptured) {x : Char}
    (hx : x ∈ (line cookies).toList) : IsPlainChar x := by
  have hwrite : ∀ c ∈ cookies, ∀ x ∈ c.write.toList, IsPlainChar x := by
    intro c hc x hx
    obtain ⟨headers, hcapture⟩ := h c hc
    have hx : x ∈ c.name.toList ∨ x = '=' ∨ x ∈ c.value.toList := by
      simpa [write] using hx
    rcases hx with hname | rfl | hvalue
    · exact isPlainChar_of_mem_capture hcapture (List.mem_append_left _ hname)
    · exact .inl (by decide)
    · exact isPlainChar_of_mem_capture hcapture (List.mem_append_right _ hvalue)
  have hgap : ∀ x ∈ "; ".toList, IsPlainChar x := by
    intro x hx
    have hx : x = ';' ∨ x = ' ' := by simpa using hx
    rcases hx with rfl | rfl <;> exact .inl (by decide)
  -- a line of several cookies is the first one, the gap and the line of the others
  induction cookies with
  | nil => cases hx
  | cons c cookies ih =>
    have hfirst := hwrite c List.mem_cons_self
    cases cookies with
    | nil => exact hfirst x (by simpa [line] using hx)
    | cons d cookies =>
      have hsplit : (line (c :: d :: cookies)).toList =
          c.write.toList ++ ("; ".toList ++ (line (d :: cookies)).toList) := by
        simp [line, List.intercalate]
      rw [hsplit, List.mem_append, List.mem_append] at hx
      rcases hx with hx | hx | hx
      · exact hfirst x hx
      · exact hgap x hx
      · exact ih (fun e he => h e (List.mem_cons_of_mem c he)) hx
          (fun e he => hwrite e (List.mem_cons_of_mem c he))

/-- A header may hold the line of any cookies that were captured. -/
theorem IsCaptured.isValueText_line (h : ∀ c ∈ cookies, c.IsCaptured) :
    isValueText (line cookies) = true :=
  isValueText_of_isPlainChar fun _ hx => isPlainChar_of_mem_line h hx

/-- Captured cookies make no difference to the form of a request. -/
theorem IsCaptured.isWellFormed_eq (h : ∀ c ∈ cookies, c.IsCaptured) (q : Request) :
    Request.isWellFormed { q with cookie := some (line cookies) } =
      Request.isWellFormed { q with cookie := none } := by
  simp [Request.isWellFormed, isValueText_line h]

end Cookie

/-! ## Legs that carry cookies -/

/-- The address that a leg asks with cookies. -/
def Leg.AsksWithCookies (config : FlowConfig) (url : Url) : Leg → Prop
  | .acceptLogin _ redirectTo => replayUrl config.authorizeEndpoint redirectTo = .ok url
  | .fetchConsent _ _ accepted => url = accepted.consentUrl
  | .acceptConsent _ _ _ consentTo => replayUrl config.authorizeEndpoint consentTo = .ok url
  | _ => False

/-- The steps whose requests carry cookies. -/
def Step.withCookies : List Step :=
  [.acceptLogin, .fetchConsent, .acceptConsent]

namespace LoginRun

variable {r : LoginRun} {script : List Reply} {leg : Leg} {step : Step}

/-- The cookies that a leg carries were captured from the answers before it. -/
theorem Visits.captured (h : r.Visits script leg) {line : String}
    (hline : leg.cookie? = some line) :
    ∃ cookies : List Cookie, (∀ c ∈ cookies, c.IsCaptured) ∧ line = Cookie.line cookies := by
  -- both cookies of a consent were found in one answer
  have hboth {accepted : LoginAcceptance} {redirectTo : String}
      (haccepts : Accepts r.flow.config script redirectTo accepted) :
      ∀ c ∈ [accepted.authenticationSession, accepted.consentCookie], c.IsCaptured := by
    obtain ⟨a, -, -, -, -, hsession, hconsent⟩ := haccepts
    intro c hc
    rw [List.mem_pair] at hc
    rcases hc with rfl | rfl
    · exact ⟨a.headers, List.mem_of_find?_eq_some hsession⟩
    · exact ⟨a.headers, List.mem_of_find?_eq_some hconsent⟩
  have hsourced := h.sourced
  cases leg with
  | authorize | submitLogin | tokenExchange => cases hline
  | acceptLogin grant redirectTo =>
    cases hline
    obtain ⟨⟨a, -, hcsrf⟩, -⟩ := hsourced
    refine ⟨[grant.csrfCookie], ?_, rfl⟩
    intro c hc
    rw [List.mem_singleton] at hc
    exact ⟨a.headers, hc ▸ List.mem_of_head? hcsrf⟩
  | fetchConsent grant redirectTo accepted =>
    cases hline
    exact ⟨_, hboth hsourced.2, rfl⟩
  | acceptConsent grant redirectTo accepted consentTo =>
    cases hline
    exact ⟨_, hboth hsourced, rfl⟩

/-- A request with cookies that is refused at its step is not well-formed. -/
theorem exists_asks_of_refused (hstep : leg.step ∈ Step.withCookies)
    (h : (r.trip leg).request = .error (.network step .refused)) :
    ∃ url, leg.AsksWithCookies r.flow.config url ∧
      Request.isWellFormed ⟨.get, url, leg.cookie?, none⟩ = false := by
  rcases request_eq_error_iff.mp h with haddress | ⟨url, haddress, hunsent⟩
  -- a redirect that cannot be read is reported as such, not as a refusal
  · cases leg with
    | authorize | submitLogin | tokenExchange => simp [Leg.step, Step.withCookies] at hstep
    | acceptLogin | acceptConsent =>
      rw [Leg.address, atStep_eq_error_iff] at haddress
      obtain ⟨fault, -, hfault⟩ := haddress
      cases hfault
    | fetchConsent => cases haddress
  · have hformed : (r.made url leg).isWellFormed = false := by
      cases hunsent with
      | malformed hformed => exact hformed
    cases leg with
    | authorize | submitLogin | tokenExchange => simp [Leg.step, Step.withCookies] at hstep
    | acceptLogin | acceptConsent =>
      rw [Leg.address, atStep_eq_ok_iff] at haddress
      exact ⟨url, haddress, hformed⟩
    | fetchConsent =>
      cases haddress
      exact ⟨_, rfl, hformed⟩

/-- Once a request with cookies is sent, it is not refused any more. -/
theorem outcome_ne_refused (hstep : leg.step ∈ Step.withCookies) {q : Request} {reply : Reply} :
    (r.trip leg).outcome q reply ≠ .error (.network step .refused) := by
  intro h
  rcases Trip.outcome_eq_error_iff.mp h with hunanswered | ⟨a, -, hread⟩
  · cases hunanswered
  · cases leg with
    | authorize | submitLogin | tokenExchange => simp [Leg.step, Step.withCookies] at hstep
    | acceptLogin | acceptConsent =>
      obtain ⟨fault, -, hfault⟩ := atStep_eq_error_iff.mp hread
      cases hfault
    | fetchConsent =>
      have hbody := map_eq_error_iff.mp hread
      unfold readBody at hbody
      split at hbody
      · cases hbody
      · obtain ⟨fault, -, hfault⟩ := atStep_eq_error_iff.mp hbody
        cases hfault

/-- The cookies of a run are no reason to refuse any of its requests. -/
structure SendsCookies (r : LoginRun) (script : List Reply) : Prop where
  /-- The line that a leg is to send is a value that a header may hold. -/
  lines : ∀ leg, r.Visits script leg → ∀ line, leg.cookie? = some line → isValueText line = true
  /-- Where a request with cookies is refused, it would be refused without them too. -/
  refusals : ∀ step ∈ Step.withCookies,
    (r.dialogue.play script).result.1 = .error (.network step .refused) →
    ∃ leg url, r.Visits script leg ∧ leg.step = step ∧ leg.AsksWithCookies r.flow.config url ∧
      Request.isWellFormed ⟨.get, url, none, none⟩ = false

theorem sendsCookies (harises : r.attempt.Arises) (script : List Reply) :
    r.SendsCookies script where
  lines leg hvisits line hline := by
    obtain ⟨cookies, hcaptured, rfl⟩ := hvisits.captured hline
    exact Cookie.IsCaptured.isValueText_line hcaptured
  refusals step hstep hresult := by
    rcases harises.new_or_terminal with hfresh | hterminal
    · rcases exists_break hfresh hresult with ⟨fault, hfault⟩ | ⟨leg, hvisits, hfails⟩
      · cases hfault
      · rcases hfails with hrequest | ⟨q, -, houtcome⟩
        · have hat : leg.step = step := Option.some.inj (request_error_step hrequest).symm
          obtain ⟨url, hasks, hformed⟩ := exists_asks_of_refused (hat ▸ hstep) hrequest
          refine ⟨leg, url, hvisits, hat, hasks, ?_⟩
          cases hcookie : leg.cookie? with
          | none => rwa [hcookie] at hformed
          | some line =>
            obtain ⟨cookies, hcaptured, rfl⟩ := hvisits.captured hcookie
            rw [hcookie] at hformed
            exact (Cookie.IsCaptured.isWellFormed_eq hcaptured ⟨.get, url, none, none⟩).symm.trans
              hformed
        · have hat : leg.step = step := Option.some.inj (outcome_error_step houtcome).symm
          exact absurd houtcome (outcome_ne_refused (hat ▸ hstep))
    -- a login that was run before is refused as a whole, at no step
    · rw [dialogue, Attempt.run_of_terminal hterminal] at hresult
      cases hresult

end LoginRun

/-! ## Whole runs -/

/-- Cookies that were captured can be sent. Whatever bytes the headers hold, name and value of a
captured cookie are bytes of printable ASCII and tabs; so any list of such cookies makes a line that
a header may hold; and no run of a login is refused a request because of the cookies in it. -/
theorem captured_cookies_sent (headers : List Header) (cookies : List Cookie) {r : LoginRun}
    (harises : r.attempt.Arises) (script : List Reply) :
    (∀ c ∈ Cookie.capture headers, ∀ b ∈ Utf8.bytesOf c.name ++ Utf8.bytesOf c.value,
      (0x20 ≤ b ∧ b ≤ 0x7e) ∨ b = 9) ∧
    ((∀ c ∈ cookies, ∃ headers, c ∈ Cookie.capture headers) →
      isValueText (Cookie.line cookies) = true) ∧
    r.SendsCookies script := by
  refine ⟨fun c hc b hb => ?_, Cookie.IsCaptured.isValueText_line,
    LoginRun.sendsCookies harises script⟩
  have hplain : ∀ x ∈ c.name.toList ++ c.value.toList, IsPlainChar x :=
    fun x hx => Cookie.isPlainChar_of_mem_capture hc hx
  rw [List.mem_append] at hb
  rcases hb with hname | hvalue
  · exact isPlainByte_of_mem_bytesOf (fun x hx => hplain x (List.mem_append_left _ hx)) hname
  · exact isPlainByte_of_mem_bytesOf (fun x hx => hplain x (List.mem_append_right _ hx)) hvalue

/-- Headers with a tab and odd signs, with bytes beyond ASCII, and with another name. -/
def oddHeaders : List Header :=
  [⟨"Set-Cookie", [0x61, 0x3d, 0x20, 0x22, 0x09, 0x7e, 0x5c]⟩,
    ⟨"Set-Cookie", [0x62, 0x3d, 0xc3, 0xa9]⟩, ⟨"Cookie", [0x63, 0x3d, 0x64]⟩]

/-- Replies that let a login through to a consent at an address whose scheme is not spoken. -/
def misplacedConsent : List Reply :=
  willingServers.set 2 (redirecting "ftp://idp/" ["oauth2_consent_csrf_1=x\t~", "none",
    "oauth2_authentication_session=\""])

/-- The step at which a login was refused a request. -/
def refusedAt? : Except FlowError LoginOutcome → Option Step
  | .error (.network step .refused) => some step
  | _ => none

theorem captured_cookies_sent_misplaced :
    simplestRun.attempt.Arises ∧
      Cookie.line (Cookie.capture oddHeaders) = "a=\"\t~\\" ∧
      refusedAt? (simplestRun.dialogue.play misplacedConsent).result.1 = some .fetchConsent ∧
      isValueText (Cookie.line (Cookie.capture oddHeaders)) = true ∧
      simplestRun.SendsCookies misplacedConsent := by
  have harises : simplestRun.attempt.Arises := ⟨_, _, .same⟩
  obtain ⟨-, hline, hruns⟩ := captured_cookies_sent oddHeaders (Cookie.capture oddHeaders) harises
    misplacedConsent
  exact ⟨harises, by decide +kernel, by decide +kernel, hline fun c hc => ⟨oddHeaders, hc⟩, hruns⟩

end CodeFlow
