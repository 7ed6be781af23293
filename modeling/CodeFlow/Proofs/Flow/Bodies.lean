import CodeFlow.Flow.Attempt
import CodeFlow.Proofs.Flow.Trip
import CodeFlow.Proofs.Json.RoundTrip
import Mathlib.Data.List.Basic

/-!
# Bodies that are posted

Three calls post a body to the backend: to log in, to register and to redeem a code. Whatever
characters the fields hold, the body is read as an object with the fields of the call, each once
and in their order (`postings_read_back`). So no value can bring in a member or take the place of
another, and postings that differ have different bodies.
-/

namespace CodeFlow

open CodeFlow.Http

/-! ## What requests carry -/

/-- The value of the first member with a name in the JSON body of a request. -/
def Http.Request.member? (q : Request) (name : String) : Option Json :=
  (q.body.bind Json.parse?).bind (·.get? name)

/-- An object of texts is told by its compact form. -/
theorem Json.compact_texts_injective {ms ms' : List (String × String)}
    (h : Json.compact (.obj (textMembers ms)) = Json.compact (.obj (textMembers ms'))) :
    ms = ms' := by
  have hread : some (Json.obj (textMembers ms)) = some (Json.obj (textMembers ms')) := by
    rw [← Json.parse?_compact_texts, h, Json.parse?_compact_texts]
  have hmembers : textMembers ms = textMembers ms' := by simpa using hread
  refine List.map_injective_iff.mpr ?_ hmembers
  rintro ⟨name, text⟩ ⟨name', text'⟩ hmember
  simpa using hmember

theorem Json.get?_textMembers (ms : List (String × String)) (name : String) :
    (Json.obj (textMembers ms)).get? name = (ms.lookup name).map Json.str := by
  change (textMembers ms).lookup name = _
  induction ms with
  | nil => rfl
  | cons m ms ih =>
    obtain ⟨key, text⟩ := m
    simp only [textMembers, List.map_cons, List.lookup_cons] at ih ⊢
    cases name == key with
    | true => rfl
    | false => exact ih

/-! ## Postings -/

/-- What is posted to the backend. -/
inductive Posting where
  | login (s : LoginSubmission)
  | registration (s : RegistrationSubmission)
  | exchange (r : ExchangeRequest)
deriving DecidableEq

namespace Posting

/-- The body of a posting. -/
def toJson : Posting → Json
  | .login s => s.toJson
  | .registration s => s.toJson
  | .exchange r => r.toJson

/-- The fields of a posting under their names, in their order. -/
def members : Posting → List (String × String)
  | .login s => [("email", s.email), ("password", s.password), ("loginChallenge", s.loginChallenge)]
  | .registration s =>
    [("email", s.email), ("password", s.password), ("confirmPassword", s.confirmPassword)]
  | .exchange r =>
    [("code", r.code), ("redirectURI", r.redirectUri), ("clientID", r.clientId),
      ("codeVerifier", r.codeVerifier)]

/-- What is sent by the call that a posting belongs to. -/
def requests (p : Posting) (c : Client) (endpoint : String) (names : CookieNames)
    (script : List Reply) : List Request :=
  match p with
  | .login s => ((c.submitLogin endpoint s).run.play script).requests
  | .registration s => ((c.register endpoint s).run.play script).requests
  | .exchange r => ((c.exchange endpoint r names).run.play script).requests

variable {p p' : Posting} {c : Client} {endpoint : String} {names : CookieNames}
  {script : List Reply} {q : Request}

theorem toJson_eq (p : Posting) : p.toJson = .obj (Json.textMembers p.members) := by
  cases p <;> rfl

theorem nodup_members (p : Posting) : (p.members.map Prod.fst).Nodup := by
  cases p <;> simp [members]

/-- Two calls differ in a name; of one call, the texts are the fields. -/
theorem members_injective (h : p.members = p'.members) : p = p' := by
  rcases p with ⟨email, password, challenge⟩ | ⟨email, password, again⟩ |
      ⟨code, redirectUri, clientId, verifier⟩ <;>
    rcases p' with ⟨email', password', challenge'⟩ | ⟨email', password', again'⟩ |
      ⟨code', redirectUri', clientId', verifier'⟩ <;>
    simp_all [members]

/-- The body of a posting is read as its members. -/
theorem parse?_body (h : q.body = some p.toJson.compact) :
    q.body.bind Json.parse? = some (.obj (Json.textMembers p.members)) := by
  rw [h, toJson_eq, Option.bind_some, Json.parse?_compact_texts]

theorem member?_eq (h : q.body = some p.toJson.compact) (name : String) :
    q.member? name = (p.members.lookup name).map Json.str := by
  rw [Request.member?, parse?_body h, Option.bind_some, Json.get?_textMembers]

theorem toJson_compact_injective (h : p.toJson.compact = p'.toJson.compact) : p = p' := by
  rw [toJson_eq, toJson_eq] at h
  exact members_injective (Json.compact_texts_injective h)

/-- Every call makes one request, with the body of its posting. -/
theorem exists_trip (p : Posting) (c : Client) (endpoint : String) (names : CookieNames)
    (script : List Reply) :
    ∃ (α : Type) (t : Trip α), p.requests c endpoint names script = t.requests ∧
      ∀ q, t.request = .ok q ↔ ∃ url, Url.parse endpoint = .ok url ∧ c.Admits q ∧
        q = ⟨.post, url, none, some p.toJson.compact⟩ := by
  cases p with
  | login s =>
    refine ⟨_, c.submitTrip endpoint s, ?_, fun q => Client.postTrip_request_iff⟩
    rw [requests, Client.submitLogin_eq, Trip.requests_play]
  | registration s =>
    refine ⟨_, c.registerTrip endpoint s, ?_, fun q => Client.postTrip_request_iff⟩
    rw [requests, Client.register_eq, Trip.requests_play]
  | exchange r =>
    refine ⟨_, c.exchangeTrip endpoint r names, ?_, fun q => Client.postTrip_request_iff⟩
    rw [requests, Client.exchange_eq, Trip.requests_play]

theorem mem_requests_iff : q ∈ p.requests c endpoint names script ↔
    p.requests c endpoint names script = [q] ∧ ∃ url, Url.parse endpoint = .ok url ∧
      c.Reaches url ∧ q = ⟨.post, url, none, some p.toJson.compact⟩ := by
  obtain ⟨α, t, hrequests, hrequest⟩ := exists_trip p c endpoint names script
  rw [hrequests, Trip.mem_requests_iff, hrequest, and_comm]
  refine and_congr_right fun _ => exists_congr fun url => and_congr_right fun _ => ?_
  -- without cookies, whether the request passes the checks is up to the address
  constructor
  · rintro ⟨hadmits, rfl⟩
    exact ⟨(Client.admits_iff_reaches rfl).mp hadmits, rfl⟩
  · rintro ⟨hreaches, rfl⟩
    exact ⟨(Client.admits_iff_reaches rfl).mpr hreaches, rfl⟩

theorem body_of_mem_requests (h : q ∈ p.requests c endpoint names script) :
    q.body = some p.toJson.compact := by
  obtain ⟨-, url, -, -, rfl⟩ := mem_requests_iff.mp h
  rfl

theorem requests_of_reaches {url : Url} (hurl : Url.parse endpoint = .ok url)
    (hreaches : c.Reaches url) :
    p.requests c endpoint names script = [⟨.post, url, none, some p.toJson.compact⟩] := by
  obtain ⟨α, t, hrequests, hrequest⟩ := exists_trip p c endpoint names script
  rw [hrequests]
  apply Trip.requests_of_request
  exact (hrequest _).mpr ⟨url, hurl, (Client.admits_iff_reaches rfl).mpr hreaches, rfl⟩

/-- What was posted is read as its fields, and nothing else can be read from it. -/
structure ReadBack (p : Posting) (c : Client) (endpoint : String) (requests : List Request) :
    Prop where
  /-- No value of a field keeps the posting back. -/
  sent : requests ≠ [] ↔ ∃ url, Url.parse endpoint = .ok url ∧ c.Reaches url
  once : requests.length ≤ 1
  posted : ∀ q ∈ requests, q.method = .post ∧ q.cookie = none ∧ Url.parse endpoint = .ok q.url
  /-- The document has the members in their order, and no others. -/
  document : ∀ q ∈ requests,
    q.body.bind Json.parse? = some (.obj (Json.textMembers p.members))
  member : ∀ q ∈ requests, ∀ name, q.member? name = (p.members.lookup name).map Json.str

theorem readBack_requests (p : Posting) (c : Client) (endpoint : String) (names : CookieNames)
    (script : List Reply) : p.ReadBack c endpoint (p.requests c endpoint names script) where
  sent := by
    constructor
    · intro hne
      obtain ⟨q, hq⟩ := List.exists_mem_of_ne_nil _ hne
      obtain ⟨-, url, hurl, hreaches, -⟩ := mem_requests_iff.mp hq
      exact ⟨url, hurl, hreaches⟩
    · rintro ⟨url, hurl, hreaches⟩ hempty
      rw [requests_of_reaches hurl hreaches] at hempty
      cases hempty
  once := by
    cases hrequests : p.requests c endpoint names script with
    | nil => exact Nat.zero_le 1
    | cons q rest =>
      have hq : q ∈ p.requests c endpoint names script := by
        rw [hrequests]
        exact List.mem_cons_self
      rw [← hrequests, (mem_requests_iff.mp hq).1]
      exact Nat.le_refl 1
  posted q hq := by
    obtain ⟨-, url, hurl, -, rfl⟩ := mem_requests_iff.mp hq
    exact ⟨rfl, rfl, hurl⟩
  document q hq := parse?_body (body_of_mem_requests hq)
  member q hq name := member?_eq (body_of_mem_requests hq) name

end Posting

/-! ## Registrations -/

namespace LoginFlow

variable {f : LoginFlow} {seed : Draw 32} {email password ciphertext : String}

/-- A password that is not encrypted is not sent either. -/
theorem requests_register_of_error {e : CryptoError}
    (h : encrypt f.key seed password = .error e) (script : List Reply) :
    ((f.register seed ⟨email, password⟩).run.play script).requests = [] := by
  unfold register encrypted
  rw [h]
  rfl

/-- Registering is a trip with the ciphertext in both places. -/
theorem requests_register_of_ok (h : encrypt f.key seed password = .ok ciphertext)
    (script : List Reply) :
    ((f.register seed ⟨email, password⟩).run.play script).requests =
      (f.client.registerTrip f.config.backend.register
        ⟨email, ciphertext, ciphertext⟩).requests := by
  unfold register encrypted
  simp only [h, pure_bind, Client.register_eq]
  exact Trip.requests_play _ script

end LoginFlow

/-! ## All postings -/

/-- Every posting is read back, with its members each once, and no other posting has its body. -/
theorem postings_read_back (p : Posting) (c : Client) (endpoint : String) (names : CookieNames)
    (script : List Reply) :
    p.ReadBack c endpoint (p.requests c endpoint names script) ∧ (p.members.map Prod.fst).Nodup ∧
      ∀ (p' : Posting) (c' : Client) (endpoint' : String) (names' : CookieNames)
        (script' : List Reply),
        ∀ q ∈ p.requests c endpoint names script, ∀ q' ∈ p'.requests c' endpoint' names' script',
          q.body = q'.body → p = p' := by
  refine ⟨p.readBack_requests c endpoint names script, p.nodup_members, ?_⟩
  intro p' c' endpoint' names' script' q hq q' hq' hbody
  rw [Posting.body_of_mem_requests hq, Posting.body_of_mem_requests hq'] at hbody
  exact Posting.toJson_compact_injective (Option.some.inj hbody)

/-- A posting with fields that look like the ends of members. -/
def quotedPosting : Posting :=
  .login ⟨"ada\",\"loginChallenge\":\"x", "\\\\\"", "\x00\n\t\x7f/é😀"⟩

theorem postings_read_back_quoted :
    (quotedPosting.requests ⟨10⟩ "http://backend.example/login" .usual []).length = 1 ∧
      quotedPosting.ReadBack ⟨10⟩ "http://backend.example/login"
        (quotedPosting.requests ⟨10⟩ "http://backend.example/login" .usual []) := by
  obtain ⟨hback, -⟩ :=
    postings_read_back quotedPosting ⟨10⟩ "http://backend.example/login" .usual []
  exact ⟨by decide +kernel, hback⟩

end CodeFlow
