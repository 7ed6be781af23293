import CodeFlow.Proofs.Flow.Stopping

/-!
# Answers that are lost

A connection may not come about, end before any answer came, or end within the body of one. A login
that waits for the answer ends there, and its error names the step (`lost_answers_reported`). All
steps blame the network for it but the last: where tokens are awaited, a body that broke off is
taken for one that holds no tokens (`cut_tokens_misreported`).
-/

namespace CodeFlow

open CodeFlow.Http

/-! ## Losses -/

/-- The steps at which the body of an answer of success is read. -/
def Step.decoded : List Step := [.submitLogin, .fetchConsent, .tokenExchange]

/-- The answer to the request of a step is lost, and what came of it does not end the login. -/
inductive Lost (names : CookieNames) : Step → Reply → Prop where
  /-- There was nobody to give it. -/
  | unreached (step : Step) : Lost names step .unreachable
  /-- No part of it came. -/
  | wholly (step : Step) : Lost names step .dropped
  /-- Its body broke off. Where tokens are awaited, the cookie is looked for before the body. -/
  | partly {step : Step} {a : Answer} :
      step ∈ Step.decoded → a.isSuccess = true → a.content? = none →
      (step = .tokenExchange →
        ∃ session, sessionId names (Cookie.capture a.headers) = .ok session) →
      Lost names step (.answer a)

/-- What a loss is reported as. -/
def lossOf (step : Step) : Reply → FlowError
  | .answer _ =>
    if step = .tokenExchange then .protocol step (.invalidBody undecodable)
    else .network step .interrupted
  | .unreachable => .network step .unreachable
  | _ => .network step .closed

/-- Every loss is reported as a fault of the network at its step. -/
def LoginRun.BlamesNetwork (r : LoginRun) (script : List Reply) : Prop :=
  ∀ (place : Nat) (step : Step) (q : Request), Step.ofLogin[place]? = some step →
    (r.dialogue.play script).requests[place]? = some q →
    Lost r.flow.config.cookies step (replyAt script place) →
    ∃ fault, (r.dialogue.play script).result.1 = .error (.network step fault)

/-! ## Bodies that broke off -/

section

variable {a : Answer}

theorem readBody_of_cut {α : Type} {step : Step} {form : Json.Form α} (h : a.content? = none) :
    readBody step form a = .error (.network step .interrupted) := by
  simp [readBody, Answer.text?, h]

theorem readLoginReply_of_cut (hsuccess : a.isSuccess = true) (h : a.content? = none) :
    Client.readLoginReply a = .error (.network .submitLogin .interrupted) := by
  -- refused credentials are told by their status, which is none of success
  have hstatus : a.status ≠ 401 := by
    intro hrefused
    simp [Answer.isSuccess, hrefused] at hsuccess
  simp [Client.readLoginReply, hstatus, readBody_of_cut h, Except.map]

theorem readTokenAnswer_of_cut {names : CookieNames} {session : String}
    (hsuccess : a.isSuccess = true) (h : a.content? = none)
    (hsession : sessionId names (Cookie.capture a.headers) = .ok session) :
    Client.readTokenAnswer names a =
      .error (.protocol .tokenExchange (.invalidBody undecodable)) := by
  simp [Client.readTokenAnswer, hsuccess, readTokens, hsession, readExchange, h, atStep]

end

/-- On every leg, a loss comes to the error that it is reported as. -/
theorem LoginRun.outcome_of_lost {r : LoginRun} {leg : Leg} {q : Request} {reply : Reply}
    (h : Lost r.flow.config.cookies leg.step reply) :
    (r.trip leg).outcome q reply = .error (lossOf leg.step reply) := by
  cases h with
  | unreached | wholly => simp only [Trip.outcome, r.trip_step, lossOf]
  | partly hdecoded hsuccess hcut hsession =>
    -- three of the legs read the body of their answer, each in its own way
    cases leg with
    | authorize => simp [Leg.step, Step.decoded] at hdecoded
    | submitLogin grant password =>
      simp only [lossOf, Leg.step, reduceCtorEq, if_false]
      exact readLoginReply_of_cut hsuccess hcut
    | acceptLogin grant redirectTo => simp [Leg.step, Step.decoded] at hdecoded
    | fetchConsent grant redirectTo accepted =>
      simp only [lossOf, Leg.step, reduceCtorEq, if_false]
      apply map_eq_error_iff.mpr
      exact readBody_of_cut hcut
    | acceptConsent grant redirectTo accepted consentTo =>
      simp [Leg.step, Step.decoded] at hdecoded
    | tokenExchange grant redirectTo consent =>
      obtain ⟨session, hsession⟩ := hsession rfl
      simp only [lossOf, Leg.step, if_true]
      exact readTokenAnswer_of_cut hsuccess hcut hsession

/-! ## Runs -/

/-- A login whose answer is lost breaks off there. -/
theorem LoginRun.breaks_of_lost {r : LoginRun} (harises : r.attempt.Arises) {script : List Reply}
    {place : Nat} {step : Step} {q : Request} (hstep : Step.ofLogin[place]? = some step)
    (hq : (r.dialogue.play script).requests[place]? = some q)
    (hlost : Lost r.flow.config.cookies step (replyAt script place)) :
    ∃ state, r.BreaksAt script place state (lossOf step (replyAt script place)) := by
  obtain ⟨leg, hvisits, rfl, hrequest⟩ := LoginRun.visits_of_request harises hq
  rw [leg.ofLogin_index, Option.some.injEq] at hstep
  subst hstep
  have hfresh := LoginRun.fresh_of_request harises hq
  have houtcome := LoginRun.outcome_of_lost (q := q) hlost
  exact ⟨leg.state, LoginRun.broken_of_visits hfresh hvisits hrequest houtcome⟩

/-- A login whose answer is lost asks nothing else, and ends with an error at the step: with a fault
of the network, unless it is the body with the tokens that broke off. -/
theorem lost_answers_reported {r : LoginRun} (harises : r.attempt.Arises) (script : List Reply)
    {place : Nat} {step : Step} {q : Request} (hstep : Step.ofLogin[place]? = some step)
    (hq : (r.dialogue.play script).requests[place]? = some q)
    (hlost : Lost r.flow.config.cookies step (replyAt script place)) :
    (r.dialogue.play script).result.1 = .error (lossOf step (replyAt script place)) ∧
      (r.dialogue.play script).requests.length = place + 1 ∧
      (r.dialogue.play script).unread = script.drop (place + 1) := by
  obtain ⟨state, hbreaks⟩ := LoginRun.breaks_of_lost harises hstep hq hlost
  exact ⟨hbreaks.result, hbreaks.requests, hbreaks.unread⟩

/-- An answer of success whose body breaks off behind its cookies. -/
def cutAnswer (cookies : List String) : Answer :=
  { status := 200
    headers := cookies.map fun c => ⟨"Set-Cookie", Text.Utf8.bytesOf c⟩
    body := none
    received := .epoch }

/-- The servers of a willing login, but for one whose answer breaks off. -/
def cutServers (place : Nat) (cookies : List String) : List Reply :=
  willingServers.set place (.answer (cutAnswer cookies))

/-- The answer to the consent breaks off, as the network's fault. -/
theorem lost_answers_reported_consent :
    simplestRun.attempt.Arises ∧
      (simplestRun.dialogue.play (cutServers 3 [])).result.1 =
        .error (.network .fetchConsent .interrupted) := by
  have harises : simplestRun.attempt.Arises := ⟨_, _, .same⟩
  have hasked : ((simplestRun.dialogue.play (cutServers 3 [])).requests[3]?).isSome = true := by
    decide +kernel
  obtain ⟨q, hq⟩ := Option.isSome_iff_exists.mp hasked
  have hlost : Lost simplestRun.flow.config.cookies .fetchConsent (.answer (cutAnswer [])) :=
    .partly (by decide) rfl rfl (fun h => nomatch h)
  exact ⟨harises, (lost_answers_reported harises _ rfl hq hlost).1⟩

/-- The tokens break off within their body, and the network is not blamed for it. -/
theorem cut_tokens_misreported :
    simplestRun.attempt.Arises ∧ ¬ simplestRun.BlamesNetwork (cutServers 5 ["session=9"]) := by
  have harises : simplestRun.attempt.Arises := ⟨_, _, .same⟩
  have hasked :
      ((simplestRun.dialogue.play (cutServers 5 ["session=9"])).requests[5]?).isSome = true := by
    decide +kernel
  obtain ⟨q, hq⟩ := Option.isSome_iff_exists.mp hasked
  have hsession : (sessionId simplestRun.flow.config.cookies
      (Cookie.capture (cutAnswer ["session=9"]).headers)).toOption = some "9" := by
    decide +kernel
  have hlost : Lost simplestRun.flow.config.cookies .tokenExchange
      (.answer (cutAnswer ["session=9"])) := by
    refine .partly (by decide) rfl rfl fun _ => ⟨"9", ?_⟩
    revert hsession
    cases sessionId simplestRun.flow.config.cookies
        (Cookie.capture (cutAnswer ["session=9"]).headers) with
    | error e => exact fun h => nomatch h
    | ok session => exact fun h => congrArg Except.ok (Option.some.inj h)
  refine ⟨harises, fun hblames => ?_⟩
  -- a fault of the network is said to be there, and the login ends with one of the protocol
  obtain ⟨fault, hfault⟩ := hblames 5 .tokenExchange q rfl hq hlost
  obtain ⟨state, hbreaks⟩ := LoginRun.breaks_of_lost harises rfl hq hlost
  have hends := hbreaks.result.symm.trans hfault
  injection hends with hends
  cases hends

end CodeFlow
