import CodeFlow.Proofs.Flow.Asking
import CodeFlow.Proofs.Flow.State

/-!
# How a login ends

The first run of a login closes its state, and the closed state tells the result: how far the login
came, why it failed, and what it had found out by then. A closed login is never run again.
-/

namespace CodeFlow

open CodeFlow.Http

/-! ## What an error leaves behind -/

/-- What is known when the request of a step is made. -/
def Step.known : Step → List Field
  | .authorize => []
  | .submitLogin => [.loginChallenge, .authenticationCookie]
  | .acceptLogin => [.loginChallenge, .authenticationCookie, .redirectTo]
  | .fetchConsent => [.loginChallenge, .authenticationCookie, .redirectTo]
  | .acceptConsent => [.loginChallenge, .authenticationCookie, .redirectTo]
  | .tokenExchange =>
    [.loginChallenge, .authenticationCookie, .redirectTo, .authenticationSession, .consentCookie,
      .authorizationCode]
  | .register => []
  | .verifyAccount => []

/-- What is known when an error ends a login. What goes wrong at no step goes wrong in the
encryption, behind the first request. -/
def FlowError.known (e : FlowError) : List Field :=
  (e.step?.getD .submitLogin).known

/-- On a leg, all is known that is needed for its request, and nothing else. -/
theorem Leg.isSet_state (leg : Leg) (field : Field) :
    leg.state.isSet field = true ↔ field ∈ leg.step.known := by
  cases leg <;> cases field <;> simp [FlowState.isSet, Leg.state, Leg.step, Step.known,
    FlowState.new, FlowState.authorized, FlowState.submitted, FlowState.consented]

theorem Leg.isTerminal_state (leg : Leg) : leg.state.stage.isTerminal = false := by
  cases leg <;> rfl

/-! ## Results and closed states -/

/-- A result of a login and the state that it was left in agree. -/
structure Ended (result : Except FlowError LoginOutcome) (state : FlowState) : Prop where
  terminal : state.stage.isTerminal = true
  authenticated : (∃ tokens, result = .ok (.authenticated tokens)) ↔ state.stage = .tokenExchanged
  rejected : (∃ rejection, result = .ok (.invalidCredentials rejection)) ↔ state.stage = .rejected
  failed : ∀ reason, (∃ e, result = .error e ∧ reason = e.message) ↔ state.stage = .failed reason
  cause : ∀ e, result = .error e →
    (∃ fault, e = .crypto fault) ∨ ∃ step ∈ Step.ofLogin, e.step? = some step
  /-- No transition of the login is refused. -/
  ordered : ∀ expected actual, result ≠ .error (.outOfOrder expected actual)
  configured : ∀ fault, result ≠ .error (.config fault)
  known : ∀ e, result = .error e → ∀ field, state.isSet field = true ↔ field ∈ e.known

namespace Ended

/-- An error on a leg closes the state of the leg. -/
theorem of_error (leg : Leg) {e : FlowError}
    (he : (∃ fault, e = .crypto fault) ∨ e.step? = some leg.step)
    (hknown : e.known = leg.step.known) :
    Ended (.error e) (Attempt.close (.error e : Except FlowError LoginOutcome) leg.state) := by
  have hstage : (leg.state.fail e.message).stage = .failed e.message := by
    rw [FlowState.fail_of_open leg.isTerminal_state]
  exact
    { terminal := leg.state.isTerminal_fail e.message
      authenticated := by simp [Attempt.close, hstage]
      rejected := by simp [Attempt.close, hstage]
      failed := fun reason => by simp [Attempt.close, hstage, eq_comm]
      cause := by
        rintro _ ⟨⟩
        exact he.imp_right fun h => ⟨_, leg.step_mem_ofLogin, h⟩
      ordered := by
        rintro _ _ ⟨⟩
        simp [FlowError.step?] at he
      configured := by
        rintro _ ⟨⟩
        simp [FlowError.step?] at he
      known := by
        rintro _ ⟨⟩ field
        rw [hknown, ← leg.isSet_state field]
        exact Bool.eq_iff_iff.mp (leg.state.isSet_fail e.message field) }

theorem of_rejected (rejection : Rejection) (grant : AuthorizationGrant) :
    Ended (.ok (.invalidCredentials rejection)) (.refused grant) where
  terminal := rfl
  authenticated := by simp [FlowState.refused]
  rejected := by simp [FlowState.refused]
  failed := by simp [FlowState.refused]
  cause _ h := nomatch h
  ordered _ _ h := nomatch h
  configured _ h := nomatch h
  known _ h := nomatch h

theorem of_authenticated (tokens : Tokens) (grant : AuthorizationGrant) (redirectTo : String)
    (consent : ConsentGrant) :
    Ended (.ok (.authenticated tokens)) (.exchanged grant redirectTo consent tokens) where
  terminal := rfl
  authenticated := by simp [FlowState.exchanged]
  rejected := by simp [FlowState.exchanged]
  failed := by simp [FlowState.exchanged]
  cause _ h := nomatch h
  ordered _ _ h := nomatch h
  configured _ h := nomatch h
  known _ h := nomatch h

end Ended

theorem FlowError.known_of_step {e : FlowError} {step : Step} (h : e.step? = some step) :
    e.known = step.known := by
  rw [known, h, Option.getD_some]

/-- On whatever course a login goes, its result and its closed state agree. -/
theorem Course.ended {r : LoginRun} {leg : Leg} {log : Log} {ws : List Warning}
    {result : Except FlowError LoginOutcome} {state : FlowState}
    (h : Course r leg log ws result state) : Ended result (Attempt.close result state) := by
  induction h with
  | refused hrequest =>
    have hstep := LoginRun.request_error_step hrequest
    exact .of_error _ (.inr hstep) (FlowError.known_of_step hstep)
  | broken _ houtcome =>
    have hstep := LoginRun.outcome_error_step houtcome
    exact .of_error _ (.inr hstep) (FlowError.known_of_step hstep)
  | last _ _ hnext =>
    rcases LoginRun.next_last hnext with ⟨grant, fault, rfl, rfl, rfl⟩ |
      ⟨grant, _, rejection, rfl, rfl, rfl⟩ | ⟨grant, redirectTo, consent, tokens, rfl, rfl, rfl⟩
    · -- the first reply was read by then, so the state is that of the second leg
      exact .of_error (.submitLogin grant "") (.inl ⟨fault, rfl⟩) rfl
    · exact .of_rejected rejection grant
    · exact .of_authenticated tokens grant redirectTo consent
  | onward _ _ _ _ ih => exact ih

/-! ## Running again -/

/-- What becomes of a login when it is run any number of times, whatever it is run with. -/
inductive Attempt.Later (a : Attempt) : Attempt → Prop where
  | same : Later a a
  | again {b : Attempt} (f : LoginFlow) (seed : Draw 32) (credentials : Credentials)
      (script : List Reply) :
      Later a b → Later a ((b.run f seed credentials).play script).result.2

/-- A closed login that is run again says nothing and stays as it is. -/
theorem Attempt.run_of_terminal {a : Attempt} (h : a.state.stage.isTerminal = true)
    (f : LoginFlow) (seed : Draw 32) (credentials : Credentials) :
    a.run f seed credentials = .done (.error (.outOfOrder .init a.state.stage), a) := by
  -- the first transition is refused, and nothing behind it is said
  have hdrive : (a.drive f seed credentials).run.run a.state =
      .done (.error (.outOfOrder .init a.state.stage), a.state) := by
    unfold drive
    exact Drive.run_record_refused_bind (FlowState.expect_init_of_terminal h)
  unfold run
  rw [hdrive]
  -- closing a closed state again leaves it as it is, with its first reason
  change Dialogue.done (_, { a with state := a.state.fail _ }) = _
  rw [FlowState.fail_of_terminal h]

theorem Attempt.Later.eq_of_terminal {a b : Attempt} (h : a.state.stage.isTerminal = true)
    (hlater : a.Later b) : b = a := by
  induction hlater with
  | same => rfl
  | again f seed credentials script _ ih =>
    rw [ih, run_of_terminal h]
    rfl

/-! ## The first run and all that follow -/

/-- A login that was run once is over: its state agrees with the result, and to be run again is
refused, any number of times. -/
structure Attempt.Over (a : Attempt) (result : Except FlowError LoginOutcome) : Prop where
  ended : Ended result a.state
  /-- Each later run sends nothing, reads nothing and changes nothing. -/
  later : ∀ b, a.Later b → b = a ∧ ∀ f seed credentials script,
    (b.run f seed credentials).play script =
      ⟨(.error (.outOfOrder .init a.state.stage), a), [], [], script⟩

theorem LoginRun.closes {r : LoginRun} (hfresh : r.attempt.state = .new) (script : List Reply) :
    (r.dialogue.play script).result.2.Over (r.dialogue.play script).result.1 := by
  obtain ⟨closed, hcourse, hattempt⟩ := course_of_play hfresh script
  -- the play is made opaque first, or unification would evaluate it
  generalize (r.dialogue.play script).result = out at hcourse hattempt
  obtain ⟨result, a⟩ := out
  have hstate : a.state = Attempt.close result closed := congrArg Attempt.state hattempt
  have hended : Ended result a.state := hstate ▸ hcourse.ended
  refine ⟨hended, fun b hlater => ?_⟩
  obtain rfl := hlater.eq_of_terminal hended.terminal
  refine ⟨rfl, fun f seed credentials script => ?_⟩
  rw [Attempt.run_of_terminal hended.terminal]
  rfl

/-- The first run of a login ends it. -/
theorem login_run_over (f : LoginFlow) (verifier : Draw Pkce.verifierBytes)
    (state : Draw Pkce.stateBytes) (seed : Draw 32) (credentials : Credentials)
    (script : List Reply) :
    (((LoginFlow.begin verifier state).run f seed credentials).play script).result.2.Over
      (((LoginFlow.begin verifier state).run f seed credentials).play script).result.1 := by
  rw [← LoginRun.dialogue_mk]
  exact LoginRun.closes rfl script

end CodeFlow
