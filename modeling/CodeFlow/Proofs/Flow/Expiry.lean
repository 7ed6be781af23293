import CodeFlow.Flow.Token
import CodeFlow.Proofs.Flow.Documents
import CodeFlow.Proofs.Flow.Redeeming
import CodeFlow.Proofs.Time.Movement

/-!
# Expiry of tokens

A token with a lifetime expires when the nanoseconds since it was received are those of its
lifetime, and from then on it is expired (`expiry_exact`). There is no answer for a lifetime that is
too long to be counted, or that ends outside of the years of the span. Lifetimes come from the
backend as they are, so that it can send such a one with any token (`lifetimes_unchecked`).
-/

namespace CodeFlow

open CodeFlow.Http CodeFlow.Time

/-! ## When there is an answer -/

namespace Tokens

/-- A lifetime has no end that could be compared with a time: it is too long to be counted, or ends
outside of the years of the span. -/
def Endless (received : Instant) (seconds : Int) : Prop :=
  9223372036854775 < seconds.natAbs ∨ ¬ InYears (received.secondAfter seconds)

variable {t : Tokens} {s : Int64} {now now' : Instant} {due : Bool}

theorem expiry?_eq_none_iff {received : Instant} {seconds : Int} :
    expiry? received seconds = none ↔ Endless received seconds := by
  have hcounted : -durationLimit ≤ seconds ∧ seconds ≤ durationLimit ↔
      ¬ 9223372036854775 < seconds.natAbs := by
    unfold durationLimit
    omega
  unfold expiry? Endless
  rw [if_congr hcounted rfl rfl, ← Instant.addSeconds?_eq_none_iff]
  by_cases hlong : 9223372036854775 < seconds.natAbs <;> simp [hlong]

theorem addSeconds?_of_expiry? {received e : Instant} {seconds : Int}
    (h : expiry? received seconds = some e) : received.addSeconds? seconds = some e := by
  unfold expiry? at h
  split at h
  · exact h
  · cases h

theorem isExpiredAt?_eq_some_iff (hs : t.expiresIn = some s) :
    t.isExpiredAt? now = some due ↔
      ∃ e, expiry? t.received s.toInt = some e ∧ e.le now = due := by
  simp [isExpiredAt?, hs]

/-- Whether there is an answer does not depend on the time for which it is asked. -/
theorem isExpiredAt?_eq_none_iff :
    t.isExpiredAt? now = none ↔ ∃ s, t.expiresIn = some s ∧ Endless t.received s.toInt := by
  unfold isExpiredAt?
  cases t.expiresIn with
  | none => simp
  | some s => simp [expiry?_eq_none_iff]

/-! ## What the answer is -/

theorem isExpiredAt?_of_later (h : t.isExpiredAt? now = some true) (hlater : now.le now' = true) :
    t.isExpiredAt? now' = some true := by
  cases hs : t.expiresIn with
  | none => simp [isExpiredAt?, hs] at h
  | some s =>
    obtain ⟨e, he, hdue⟩ := (isExpiredAt?_eq_some_iff hs).mp h
    exact (isExpiredAt?_eq_some_iff hs).mpr ⟨e, he, Instant.le_trans hdue hlater⟩

/-- A shorter lifetime is over as soon as a longer one is, if its end is a time at all. -/
theorem isExpiredAt?_of_shorter {s' : Int64} (hshorter : s' ≤ s)
    (h : { t with expiresIn := some s }.isExpiredAt? now = some true)
    (h' : { t with expiresIn := some s' }.isExpiredAt? now = some due) : due = true := by
  obtain ⟨e, he, hdue⟩ := (isExpiredAt?_eq_some_iff rfl).mp h
  obtain ⟨e', he', rfl⟩ := (isExpiredAt?_eq_some_iff rfl).mp h'
  have hearlier : e'.le e = true :=
    Instant.le_of_addSeconds? (Int64.le_iff_toInt_le.mp hshorter) (addSeconds?_of_expiry? he)
      (addSeconds?_of_expiry? he')
  exact Instant.le_trans hearlier hdue

theorem isExpiredAt?_eq_true_iff (hs : t.expiresIn = some s) (hreceived : t.received.isLeap = false)
    (hnow : now.isLeap = false) (h : t.isExpiredAt? now = some due) :
    due = true ↔ s.toInt * billion ≤ now.since t.received := by
  obtain ⟨e, he, rfl⟩ := (isExpiredAt?_eq_some_iff hs).mp h
  exact Instant.le_iff_of_addSeconds? hreceived hnow (addSeconds?_of_expiry? he)

/-- A lifetime is over when its seconds have passed to the nanosecond. There is no answer where it
is too long to be counted or ends outside of the years from -262143 to 262142. What is over stays
over at every later time and for every shorter lifetime, also where leap seconds are involved. A
token without a lifetime never expires. -/
theorem expiry_exact (t : Tokens) :
    (∀ s, t.expiresIn = some s → t.received.isLeap = false →
      (∀ now, t.isExpiredAt? now = none ↔
        9223372036854775 < s.toInt.natAbs ∨ ¬ InYears (t.received.seconds + s.toInt)) ∧
      ∀ now due, now.isLeap = false → t.isExpiredAt? now = some due →
        (due = true ↔ s.toInt * billion ≤ now.since t.received)) ∧
    (∀ now now', t.isExpiredAt? now = some true → now.le now' = true →
      t.isExpiredAt? now' = some true) ∧
    (∀ s s' now due, s' ≤ s → { t with expiresIn := some s }.isExpiredAt? now = some true →
      { t with expiresIn := some s' }.isExpiredAt? now = some due → due = true) ∧
    (t.expiresIn = none → ∀ now, t.isExpiredAt? now = some false) := by
  refine ⟨fun s hs hreceived => ⟨fun now => ?_, fun now due hnow h =>
    isExpiredAt?_eq_true_iff hs hreceived hnow h⟩, fun now now' h hlater =>
    isExpiredAt?_of_later h hlater, fun s s' now due hshorter h h' =>
    isExpiredAt?_of_shorter hshorter h h', fun hnone now => ?_⟩
  · rw [isExpiredAt?_eq_none_iff, ← Instant.secondAfter_of_not_isLeap hreceived]
    simp [hs, Endless]
  · simp [isExpiredAt?, hnone]

end Tokens

/-! ## Lifetimes from the backend -/

theorem ExchangeBody.sound_form : ExchangeBody.form.shape.Sound := by
  simp [form, Json.Shape.Sound, Json.Fields.Sound, Json.Fields.keys, Json.Shape.isOptional]

/-- The body in which a token comes with a lifetime. -/
def Tokens.bodyWith (t : Tokens) (lifetime : Option Int64) : ExchangeBody :=
  ⟨t.accessToken, lifetime, t.expiresAt⟩

/-- An answer with another body, as a success. -/
def Http.Answer.bearing (a : Answer) (body : ExchangeBody) : Answer :=
  { a with
    status := 200
    body := some (Text.Utf8.bytesOf (ExchangeBody.form.toJson body).compact) }

theorem readExchange_bearing (a : Answer) (body : ExchangeBody) :
    readExchange (a.bearing body) = .ok body := by
  have hbody : ExchangeBody.form.read
      (Text.Utf8.bytesOf (ExchangeBody.form.toJson body).compact) = .ok body :=
    Json.Form.ofText_eq_ok_iff.mp (Json.Form.readsBack ExchangeBody.sound_form body).1
  exact readExchange_eq_ok_iff.mpr (congrArg some hbody)

section

variable {client : Client} {endpoint : String} {r : ExchangeRequest} {names : CookieNames}
  {script : List Reply} {tokens : Tokens}

theorem result_redemption_eq_ok_iff :
    (redemption client endpoint r names script).result = .ok tokens ↔
      ∃ q a, (client.exchangeTrip endpoint r names).request = .ok q ∧
        replyAt script 0 = .answer a ∧ Client.readTokenAnswer names a = .ok tokens := by
  cases hrequest : (client.exchangeTrip endpoint r names).request with
  | error e => simp [redemption_of_refused hrequest]
  | ok q =>
    simp only [redemption_of_sent hrequest, Trip.outcome_eq_ok_iff]
    simp [Client.exchangeTrip, Client.postTrip]

/-- With the token of an answer, any lifetime might have come. -/
theorem readTokenAnswer_bearing {a : Answer} (h : Client.readTokenAnswer names a = .ok tokens)
    (lifetime : Option Int64) :
    Client.readTokenAnswer names (a.bearing (tokens.bodyWith lifetime)) =
      .ok { tokens with expiresIn := lifetime } := by
  obtain ⟨-, htokens⟩ := readTokenAnswer_eq_ok_iff.mp h
  obtain ⟨hsession, -, hreceived⟩ := readTokens_eq_ok_iff.mp htokens
  refine readTokenAnswer_eq_ok_iff.mpr ⟨rfl, readTokens_eq_ok_iff.mpr ⟨hsession, ?_, hreceived⟩⟩
  exact readExchange_bearing a (tokens.bodyWith lifetime)

/-- Nothing is checked about a lifetime that the backend sends. Where the lifetime of a token is too
long to be counted, or ends outside of the years of the span, it cannot be told at any time whether
the token has expired; with all other lifetimes it always can. And with every token any other
lifetime might have come instead, such a one as well. -/
theorem lifetimes_unchecked
    (h : (redemption client endpoint r names script).result = .ok tokens) :
    (∀ now, tokens.isExpiredAt? now = none ↔
      ∃ s, tokens.expiresIn = some s ∧
        (9223372036854775 < s.toInt.natAbs ∨ ¬ InYears (tokens.received.secondAfter s.toInt))) ∧
    ∀ lifetime : Option Int64, ∃ script',
      (redemption client endpoint r names script').result =
        .ok { tokens with expiresIn := lifetime } := by
  refine ⟨fun now => Tokens.isExpiredAt?_eq_none_iff, fun lifetime => ?_⟩
  obtain ⟨q, a, hrequest, -, hread⟩ := result_redemption_eq_ok_iff.mp h
  exact ⟨[.answer (a.bearing (tokens.bodyWith lifetime))], result_redemption_eq_ok_iff.mpr
    ⟨q, _, hrequest, rfl, readTokenAnswer_bearing hread lifetime⟩⟩

end

/-- The code is redeemed at a backend of a short name, which answers with a lifetime. -/
def shortRedemption (lifetime : String) : Dialogue.Transcript (Except FlowError Tokens) :=
  redemption ⟨5⟩ "http://api/token" ⟨"", "", "", ""⟩ .usual
    [.answer
      { status := 200
        headers := [⟨"set-cookie", Text.Utf8.bytesOf "session=1"⟩]
        body := some (Text.Utf8.bytesOf
          ("\x7b\"accessToken\":\"2\",\"expiresIn\":" ++ lifetime ++ "\x7d"))
        received := .epoch }]

/-- What comes of it. -/
def shortTokens (lifetime : Option Int64) : Tokens :=
  ⟨"2", "1", lifetime, none, .epoch⟩

theorem result_shortRedemption :
    (shortRedemption "3600").result = .ok (shortTokens (some 3600)) ∧
      (shortRedemption "9223372036854775807").result =
        .ok (shortTokens (some 9223372036854775807)) := by
  have hhour : (shortRedemption "3600").result.toOption = some (shortTokens (some 3600)) := by
    decide +kernel
  have hlong : (shortRedemption "9223372036854775807").result.toOption =
      some (shortTokens (some 9223372036854775807)) := by
    decide +kernel
  constructor
  · cases hresult : (shortRedemption "3600").result <;> simp_all [Except.toOption]
  · cases hresult : (shortRedemption "9223372036854775807").result <;> simp_all [Except.toOption]

/-- A token that came with an hour has an end, and might have come without one. -/
theorem lifetimes_unchecked_hour :
    (shortRedemption "3600").result = .ok (shortTokens (some 3600)) ∧
      (shortTokens (some 3600)).isExpiredAt? .epoch ≠ none ∧
      ∃ script', (redemption ⟨5⟩ "http://api/token" ⟨"", "", "", ""⟩ .usual script').result =
        .ok (shortTokens (some 9223372036854775807)) := by
  have hhour := result_shortRedemption.1
  obtain ⟨htold, hany⟩ := lifetimes_unchecked hhour
  refine ⟨hhour, fun hnone => ?_, hany (some 9223372036854775807)⟩
  obtain ⟨s, hs, hendless⟩ := (htold .epoch).mp hnone
  cases hs
  rcases hendless with hlong | hbeyond
  · exact absurd hlong (by decide)
  · exact hbeyond (inYears_iff.mpr (by decide +kernel))

/-- The backend sends the longest lifetime, and whether the token has expired cannot be told. -/
theorem longest_lifetime_untold :
    (shortRedemption "9223372036854775807").result =
        .ok (shortTokens (some 9223372036854775807)) ∧
      ∀ now, (shortTokens (some 9223372036854775807)).isExpiredAt? now = none := by
  refine ⟨result_shortRedemption.2, fun now => Tokens.isExpiredAt?_eq_none_iff.mpr ?_⟩
  exact ⟨9223372036854775807, rfl, .inl (by decide)⟩

end CodeFlow
