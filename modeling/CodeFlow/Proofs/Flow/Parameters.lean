import CodeFlow.Proofs.Flow.Trip
import CodeFlow.Proofs.Url.Target

/-!
# Parameters behind an endpoint's own

Two calls ask an endpoint with parameters: one for an authorization, the other to verify an
account. What they send is read as the parameters of the endpoint's own text and behind them the
ones that were given, each once and in their order, whatever characters the values have
(`parameters_behind_own`).
-/

namespace CodeFlow

open CodeFlow.Http CodeFlow.Url

/-! ## The endpoint's own parameters -/

/-- The pairs of an address are those of the query in its text. -/
theorem Url.pairs_of_parse {text : String} {url : Url} (h : Url.parse text = .ok url) :
    url.pairs = pairsOf ((queryText? (clean text.toList)).getD []) := by
  obtain ⟨kind, hquery⟩ := query_of_parse h
  rw [url.pairs_eq, hquery, keptQuery]
  cases queryText? (clean text.toList) with
  | none => rfl
  | some q => exact pairsOf_percentEncode kind.isSpecial q

/-! ## What is sent -/

/-- What was sent to ask an address with parameters: one request or none. -/
structure AsksWith (c : Client) (url : Url) (ps : List (String × String))
    (requests : List Request) : Prop where
  /-- The request is sent if the client can ask the address with the parameters. -/
  count : requests.length = if c.Reaches (url.addPairs ps) then 1 else 0
  place : ∀ q ∈ requests, q.method = .get ∧ q.url.place = url.place
  pairs : ∀ q ∈ requests, q.url.pairs = url.pairs ++ ps
  /-- The server finds the same pairs in what the request names. -/
  target : ∀ q ∈ requests, pairsOf ((queryText? q.url.target).getD []) = url.pairs ++ ps
  alone : ∀ q ∈ requests, q.cookie = none ∧ q.body = none

section

variable {endpoint : String} {url : Url} (hurl : Url.parse endpoint = .ok url)
  (hscheme : url.scheme = "http".toList)
include hurl hscheme

/-- A trip that asks with parameters sends them behind those of the endpoint. -/
theorem AsksWith.of_trip {α : Type} {c : Client} {t : Trip α} {ps : List (String × String)}
    (htrip : t.request = c.asking t.step endpoint ps) : AsksWith c url ps t.requests := by
  have hspecial : kindOf url.scheme = .special := by rw [hscheme]; rfl
  obtain ⟨ss, hss⟩ := segments_of_parse hurl (by rw [hspecial]; rfl)
  have hrequest (q : Request) : t.request = .ok q ↔
      c.Reaches (url.addPairs ps) ∧ q = ⟨.get, url.addPairs ps, none, none⟩ := by
    rw [htrip, Client.asking_eq_ok_iff]
    constructor
    · rintro ⟨url', hurl', hadmits, rfl⟩
      rw [hurl] at hurl'
      cases hurl'
      exact ⟨(Client.admits_iff_reaches rfl).mp hadmits, rfl⟩
    · rintro ⟨hreaches, rfl⟩
      exact ⟨url, hurl, (Client.admits_iff_reaches rfl).mpr hreaches, rfl⟩
  have hsent (q : Request) (hq : q ∈ t.requests) : q = ⟨.get, url.addPairs ps, none, none⟩ :=
    ((hrequest q).mp (Trip.mem_requests_iff.mp hq).1).2
  exact
    { count := by
        split
        · rename_i hreaches
          rw [Trip.requests_of_request ((hrequest _).mpr ⟨hreaches, rfl⟩)]
          rfl
        · rename_i hrefused
          rw [List.length_eq_zero_iff, List.eq_nil_iff_forall_not_mem]
          intro q hq
          exact hrefused ((hrequest q).mp (Trip.mem_requests_iff.mp hq).1).1
      place := fun q hq => by
        rw [hsent q hq]
        exact ⟨rfl, place_addPairs hss ps⟩
      pairs := fun q hq => by
        rw [hsent q hq]
        exact pairs_addPairs url ps
      target := fun q hq => by
        rw [hsent q hq, queryText?_target_addPairs hurl hspecial, ← pairs_eq, pairs_addPairs]
      alone := fun q hq => by
        rw [hsent q hq]
        exact ⟨rfl, rfl⟩ }

/-- Whatever the replies are, an endpoint is asked for an authorization with seven parameters
behind its own, and to verify an account with one. -/
theorem parameters_behind_own (c : Client) (script : List Reply) :
    url.pairs = pairsOf ((queryText? (clean endpoint.toList)).getD []) ∧
      (∀ clientId redirectUri scope state codeChallenge codeChallengeMethod : String,
        AsksWith c url
          [("response_type", "code"), ("client_id", clientId), ("state", state), ("scope", scope),
            ("redirect_uri", redirectUri), ("code_challenge", codeChallenge),
            ("code_challenge_method", codeChallengeMethod)]
          ((c.authorize ⟨endpoint, clientId, redirectUri, scope, state, codeChallenge,
            codeChallengeMethod⟩).run.play script).requests) ∧
      ∀ code : String, AsksWith c url [("code", code)]
        ((c.verifyAccount endpoint code).run.play script).requests := by
  refine ⟨Url.pairs_of_parse hurl, ?_, ?_⟩
  · intro clientId redirectUri scope state codeChallenge codeChallengeMethod
    rw [Client.authorize_eq, Trip.requests_play]
    exact .of_trip hurl hscheme rfl
  · intro code
    rw [Client.verifyAccount_eq, Trip.requests_play]
    exact .of_trip hurl hscheme rfl

end

/-- An endpoint with a query of its own, which ends in a separator. -/
def queriedEndpoint : String := "http://idp.example:4444/oauth2/auth?tenant=a+b&#top"

/-- The address of that endpoint. -/
def queriedUrl : Url :=
  ⟨"http".toList, some ⟨[], [], .name "idp.example".toList, some 4444⟩,
    .segments ["oauth2".toList, "auth".toList], some "tenant=a+b&".toList, some "top".toList⟩

theorem parameters_behind_own_queried :
    Url.parse queriedEndpoint = .ok queriedUrl ∧ queriedUrl.scheme = "http".toList ∧
      queriedUrl.pairs = [("tenant", "a b")] ∧
      ((Client.verifyAccount ⟨10⟩ queriedEndpoint "1&code=2#%41+ é").run.play []).requests.length
        = 1 ∧
      AsksWith ⟨10⟩ queriedUrl [("code", "1&code=2#%41+ é")]
        ((Client.verifyAccount ⟨10⟩ queriedEndpoint "1&code=2#%41+ é").run.play []).requests := by
  have hurl : Url.parse queriedEndpoint = .ok queriedUrl := by decide +kernel
  have hscheme : queriedUrl.scheme = "http".toList := rfl
  refine ⟨hurl, hscheme, by decide +kernel, by decide +kernel, ?_⟩
  obtain ⟨-, -, hverify⟩ := parameters_behind_own hurl hscheme ⟨10⟩ []
  exact hverify "1&code=2#%41+ é"

end CodeFlow
