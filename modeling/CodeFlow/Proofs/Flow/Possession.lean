import CodeFlow.Proofs.Flow.Order
import CodeFlow.Proofs.Flow.Provenance
import CodeFlow.Proofs.Flow.Turns
import CodeFlow.Proofs.Url.Query
import Mathlib.Data.List.Forall2

/-!
# Proof of possession

Whoever redeems the code of a login shows the verifier whose challenge was sent when that login was
authorized, whatever else is done with the flow in between.
-/

namespace CodeFlow

open CodeFlow.Http

/-! ## What the bodies carry -/

theorem member?_of_noBody {q : Request} (h : q.body = none) (name : String) :
    q.member? name = none := by
  rw [Request.member?, h]
  rfl

/-- Only the step that redeems a code shows a verifier. -/
theorem LoginRun.Asks.codeVerifier {r : LoginRun} {q : Request} {step : Step} (h : r.Asks q step) :
    (q.member? "codeVerifier").isSome = true ↔ step = .tokenExchange := by
  cases step with
  | authorize => simp [member?_of_noBody h.2.2.1]
  | submitLogin =>
    obtain ⟨-, -, -, password, challenge, hbody⟩ := h
    have hnone : q.member? "codeVerifier" = none := Posting.member?_eq (p := .login _) hbody _
    simp [hnone]
  | acceptLogin => simp [member?_of_noBody h.2.1]
  | fetchConsent => simp [member?_of_noBody h.2.1]
  | acceptConsent => simp [member?_of_noBody h.2.1]
  | tokenExchange =>
    obtain ⟨-, -, -, code, hbody⟩ := h
    have hsome : q.member? "codeVerifier" = some (.str r.attempt.verifier) :=
      Posting.member?_eq (p := .exchange _) hbody _
    simp [hsome]
  | register => exact h.elim
  | verifyAccount => exact h.elim

/-! ## One login -/

/-- The sixth request of a login, and no other, redeems a code. It shows the verifier whose
challenge the first request carried, for the client and the address that the first request named. -/
structure Possession (config : FlowConfig) (requests : List Request) : Prop where
  redeems : ∀ place q, requests[place]? = some q →
    ((q.member? "codeVerifier").isSome = true ↔ place = 5)
  shows : ∀ q, requests[5]? = some q → ∃ first endpoint verifier state,
    requests[0]? = some first ∧ Url.parse config.authorizeEndpoint = .ok endpoint ∧
    first.url.pairs = endpoint.pairs ++
      [("response_type", "code"), ("client_id", config.clientId), ("state", state),
        ("scope", config.scopeParameter), ("redirect_uri", config.redirectUri),
        ("code_challenge", Pkce.challengeOf verifier), ("code_challenge_method", "S256")] ∧
    q.member? "codeVerifier" = some (.str verifier) ∧
    q.member? "redirectURI" = some (.str config.redirectUri) ∧
    q.member? "clientID" = some (.str config.clientId)

/-- The request in a place of a run belongs to the step in that place. -/
theorem LoginRun.asks_getElem? {r : LoginRun} (hfresh : r.attempt.state = .new)
    (script : List Reply) {place : Nat} {q : Request}
    (h : (r.dialogue.play script).requests[place]? = some q) :
    ∃ step, Step.ofLogin[place]? = some step ∧ r.Asks q step := by
  obtain ⟨closed, hcourse, -⟩ := course_of_play hfresh script
  have hasks := hcourse.requests
  rw [Dialogue.Transcript.map_fst_log, Leg.index, List.drop_zero] at hasks
  obtain ⟨hlt, rfl⟩ := List.getElem?_eq_some_iff.mp h
  have hlt' := hasks.length_eq ▸ hlt
  -- there are no more requests than steps, so the place is that of a step
  have hplace := hasks.get hlt hlt'
  rw [List.get_eq_getElem, List.get_eq_getElem, List.getElem_take] at hplace
  have hsteps := Nat.lt_of_lt_of_le hlt' (List.length_take_le' _ _)
  exact ⟨_, List.getElem?_eq_getElem hsteps, hplace⟩

theorem LoginRun.possession {r : LoginRun} (hfresh : r.attempt.state = .new)
    (script : List Reply) :
    Possession r.flow.config (r.dialogue.play script).requests where
  redeems place q h := by
    obtain ⟨step, hstep, hasks⟩ := asks_getElem? hfresh script h
    have hlast : Step.ofLogin[5]? = some .tokenExchange := rfl
    rw [hasks.codeVerifier]
    constructor
    -- the six steps are all different, so a step has one place only
    · rintro rfl
      have hinj := List.getElem?_inj (j := place) (show 5 < Step.ofLogin.length by decide) (by decide)
      exact (hinj.mp (hlast.trans hstep.symm)).symm
    · rintro rfl
      exact Option.some.inj (hstep.symm.trans hlast)
  shows q h := by
    obtain ⟨step, hstep, hasks⟩ := asks_getElem? hfresh script h
    cases hstep
    obtain ⟨-, -, -, code, hbody⟩ := hasks
    obtain ⟨hlt, -⟩ := List.getElem?_eq_some_iff.mp h
    -- a sixth request does not come without a first one
    obtain ⟨first, hfirst⟩ : ∃ first, (r.dialogue.play script).requests[0]? = some first :=
      ⟨_, List.getElem?_eq_getElem (Nat.zero_lt_of_lt hlt)⟩
    obtain ⟨step, hstep, hasks⟩ := asks_getElem? hfresh script hfirst
    cases hstep
    obtain ⟨-, -, -, endpoint, hendpoint, hurl⟩ := hasks
    refine ⟨first, endpoint, r.attempt.verifier, r.attempt.oauthState, hfirst, hendpoint, ?_, ?_,
      ?_, ?_⟩
    · rw [hurl, Url.pairs_addPairs]
      rfl
    · exact Posting.member?_eq (p := .exchange _) hbody _
    · exact Posting.member?_eq (p := .exchange _) hbody _
    · exact Posting.member?_eq (p := .exchange _) hbody _

/-! ## Any number of logins -/

theorem possession_nil (config : FlowConfig) : Possession config [] where
  redeems _ _ h := nomatch h
  shows _ h := nomatch h

/-- Whatever is done with a flow, in whatever order, and whatever the servers reply: the requests
of each of its logins prove possession. -/
theorem logins_prove_possession (f : LoginFlow) (source : DrawSource) (ops : List LoginOp)
    (script : List Reply) :
    ((Logins.none.performAll f source ops).play script).requests =
        (Logins.none.turns f source ops script).flatMap Turn.requests ∧
      ∀ o, Possession f.config (requestsBy o (Logins.none.turns f source ops script)) := by
  refine ⟨Logins.requests_performAll f source Logins.none ops script, fun o => ?_⟩
  rcases Logins.requestsBy_turns (f := f) (Logins.sound_none source) o ops script with
    hempty | ⟨r, script', rfl, hbegun, hrequests⟩
  · rw [hempty]
    exact possession_nil f.config
  · rw [hrequests]
    exact LoginRun.possession hbegun.state_eq script'

/-- Draws that differ from turn to turn. -/
def countedDraws : DrawSource := fun turn =>
  ⟨.replicate _ (UInt8.ofNat turn), .replicate _ (UInt8.ofNat turn), .replicate _ 3⟩

/-- Two logins are begun, and the second one is run before the first. -/
def overtaking : List LoginOp :=
  [.begin, .begin, .run 1 ⟨"ada@example.org", "x"⟩, .run 0 ⟨"bob@example.org", "y"⟩]

/-- The second login gets no answer, and the first one all that it needs to redeem its code: its
sixth request shows a verifier. -/
theorem logins_prove_possession_overtaken :
    let requests := requestsBy (.begun 0)
      (Logins.none.turns shortestFlow countedDraws overtaking (.dropped :: willingServers))
    (∃ q, requests[5]? = some q ∧ (q.member? "codeVerifier").isSome = true) ∧
      Possession shortestFlow.config requests := by
  have hsent : (requestsBy (.begun 0) (Logins.none.turns shortestFlow countedDraws overtaking
      (.dropped :: willingServers)))[5]?.isSome = true := by
    decide +kernel
  obtain ⟨q, hq⟩ := Option.isSome_iff_exists.mp hsent
  obtain ⟨-, hproved⟩ :=
    logins_prove_possession shortestFlow countedDraws overtaking (.dropped :: willingServers)
  have hpossession := hproved (.begun 0)
  exact ⟨⟨q, hq, (hpossession.redeems 5 q hq).mpr rfl⟩, hpossession⟩

/-- The challenge is the one that the standard gives for a verifier of its own. -/
example : Pkce.challengeOf "dBjftJeZ4CVP-mB92K27uhbUJU1p1r_wW1gFWFOEjXk" =
    "E9Melhoa2OwvFrEMTJguCHaoeK1t8URWbuGJSstw-cM" := by
  decide +kernel

end CodeFlow
