import CodeFlow.Proofs.Flow.Visits

/-!
# The order of requests

A login makes the requests of its steps in their order, each at most once. How far it comes is told
by its result: tokens take all six requests, refused credentials two, a fault of the encryption one,
and an error at a step all requests before that step and the step's own, unless the leg that the
login came to was refused its request.
-/

namespace CodeFlow

open CodeFlow.Http

/-! ## How far a login comes -/

/-- What the result of a login that is answered by a script tells about the number of its
requests. -/
structure Reached (r : LoginRun) (script : List Reply) (requests : Nat)
    (result : Except FlowError LoginOutcome) : Prop where
  authenticated : ∀ tokens, result = .ok (.authenticated tokens) → requests = 6
  invalidCredentials : ∀ rejection, result = .ok (.invalidCredentials rejection) → requests = 2
  crypto : ∀ fault, result = .error (.crypto fault) → requests = 1
  /-- All requests before the step were sent. That of the step was sent, too, unless the leg to
  which the replies led was refused it. -/
  failed : ∀ e step, result = .error e → e.step? = some step →
    ∃ before, Step.ofLogin[before]? = some step ∧
      (requests = before + 1 ∨
        requests = before ∧ ∃ leg, r.Visits script leg ∧ leg.step = step ∧ r.Refuses leg e)

namespace Reached

variable {r : LoginRun} {script : List Reply}

/-- An error at a step, behind all requests before it and perhaps that of the step. -/
theorem of_error {n before : Nat} {e : FlowError} {step : Step}
    (hstep : Step.ofLogin[before]? = some step) (he : e.step? = some step)
    (hn : n = before + 1 ∨
      n = before ∧ ∃ leg, r.Visits script leg ∧ leg.step = step ∧ r.Refuses leg e) :
    Reached r script n (.error e) where
  authenticated _ h := nomatch h
  invalidCredentials _ h := nomatch h
  crypto _ h := by
    cases h
    cases he
  failed e' step' h he' := by
    cases h
    rw [he] at he'
    cases he'
    exact ⟨before, hstep, hn⟩

theorem of_crypto (fault : CryptoError) : Reached r script 1 (.error (.crypto fault)) where
  authenticated _ h := nomatch h
  invalidCredentials _ h := nomatch h
  crypto _ _ := rfl
  failed e step h hstep := by
    cases h
    cases hstep

theorem of_invalidCredentials (rejection : Rejection) :
    Reached r script 2 (.ok (.invalidCredentials rejection)) where
  authenticated _ h := nomatch h
  invalidCredentials _ _ := rfl
  crypto _ h := nomatch h
  failed _ _ h := nomatch h

theorem of_authenticated (tokens : Tokens) :
    Reached r script 6 (.ok (.authenticated tokens)) where
  authenticated _ _ := rfl
  invalidCredentials _ h := nomatch h
  crypto _ h := nomatch h
  failed _ _ h := nomatch h

end Reached

/-! ## Along a course -/

namespace Course

variable {r : LoginRun} {script : List Reply} {leg : Leg} {log : Log} {ws : List Warning}
  {result : Except FlowError LoginOutcome} {state : FlowState}

/-- From a leg on, the requests are those of its step and of the steps behind it. -/
theorem requests (h : Course r leg log ws result state) :
    List.Forall₂ r.Asks (log.map Prod.fst) ((Step.ofLogin.drop leg.index).take log.length) := by
  -- with each leg the index goes up by one, and one step less is left
  induction h with
  | refused => exact .nil
  | broken hrequest =>
    rw [Leg.drop_index]
    exact .cons (LoginRun.asks_of_request hrequest) .nil
  | last hrequest =>
    rw [Leg.drop_index]
    exact .cons (LoginRun.asks_of_request hrequest) .nil
  | onward hrequest _ hnext _ ih =>
    rw [LoginRun.next_onward_index hnext] at ih
    rw [Leg.drop_index]
    exact .cons (LoginRun.asks_of_request hrequest) ih

/-- As long as there is time, the result tells how many requests were sent. -/
theorem reached (htime : r.flow.client.timeout ≠ 0) (h : Course r leg log ws result state)
    (hanswered : Answered script leg.index log) (hvisits : r.Visits script leg) :
    Reached r script (leg.index + log.length) result := by
  -- the sum stays the same along the course: what the index gains, the log loses
  induction h with
  | @refused leg e hrequest =>
    have hrefuses := LoginRun.refuses_of_request htime hrequest
    exact .of_error leg.ofLogin_index (LoginRun.request_error_step hrequest)
      (.inr ⟨rfl, leg, hvisits, rfl, hrefuses⟩)
  | @broken leg q reply e _ houtcome =>
    exact .of_error leg.ofLogin_index (LoginRun.outcome_error_step houtcome) (.inl rfl)
  | last _ _ hnext =>
    rcases LoginRun.next_last hnext with
      ⟨_, fault, rfl, rfl, -⟩ | ⟨_, _, rejection, rfl, rfl, -⟩ | ⟨_, _, _, tokens, rfl, rfl, -⟩
    · exact .of_crypto fault
    · exact .of_invalidCredentials rejection
    · exact .of_authenticated tokens
  | onward hrequest houtcome hnext _ ih =>
    obtain ⟨a, rfl, hread⟩ := Trip.outcome_eq_ok_iff.mp houtcome
    have hanswer := getElem?_of_answered hanswered
    rw [LoginRun.next_onward_index hnext, Nat.add_assoc, Nat.add_comm 1] at ih
    exact ih hanswered.2 (hvisits.onward hrequest hanswer hread hnext)

end Course

/-! ## Runs against a script -/

/-- A run against a script makes its requests in their order, each answered by the reply in its
place, and reads no other reply. -/
structure LoginRun.InOrder (r : LoginRun) (script : List Reply)
    (t : Dialogue.Transcript (Except FlowError LoginOutcome × Attempt)) : Prop where
  requests : List.Forall₂ r.Asks t.requests (Step.ofLogin.take t.requests.length)
  /-- Each request gets the reply in its place, or none behind the end of the script. -/
  answered : r.dialogue.Holds (t.log script) t.warnings t.result
  unread : t.unread = script.drop t.requests.length
  /-- A script that gives the same replies to these requests leads to the same run. -/
  unaffected : ∀ script', List.takeD t.requests.length script' .dropped =
      List.takeD t.requests.length script .dropped →
    (r.dialogue.play script').result = t.result ∧
      (r.dialogue.play script').requests = t.requests ∧
      (r.dialogue.play script').warnings = t.warnings
  reached : Reached r script t.requests.length t.result.1

theorem LoginRun.inOrder {r : LoginRun} (hfresh : r.attempt.state = .new)
    (htime : r.flow.client.timeout ≠ 0) (script : List Reply) :
    r.InOrder script (r.dialogue.play script) := by
  obtain ⟨closed, hcourse, -⟩ := course_of_play hfresh script
  have hrequests := hcourse.requests
  have hreached :=
    hcourse.reached htime ((r.dialogue.play script).answered_log script) .first
  rw [Dialogue.Transcript.map_fst_log, Dialogue.Transcript.length_log] at hrequests
  rw [Dialogue.Transcript.length_log, Leg.index, Nat.zero_add] at hreached
  exact
    { requests := hrequests
      answered := r.dialogue.holds_play script
      unread := r.dialogue.play_unread script
      unaffected := fun script' h => r.dialogue.play_congr h
      reached := hreached }

/-- A configuration that was accepted gives its requests time. -/
theorem LoginFlow.timeout_ne_zero {config : FlowConfig} {f : LoginFlow}
    (hf : LoginFlow.ofConfig config = .ok f) : f.client.timeout ≠ 0 := by
  unfold LoginFlow.ofConfig at hf
  split at hf
  · cases hf
  · rename_i hcheck
    split at hf
    · cases hf
    · cases hf
      intro htimeout
      change config.httpTimeoutSeconds = 0 at htimeout
      -- without time the check fails, here or at what it looks at before
      unfold FlowConfig.check at hcheck
      rw [if_pos htimeout] at hcheck
      split at hcheck
      · cases hcheck
      · split at hcheck <;> cases hcheck

/-- A run of a fresh login of an accepted configuration goes in order, against every script. -/
theorem login_run_in_order {config : FlowConfig} {f : LoginFlow}
    (hf : LoginFlow.ofConfig config = .ok f) (verifier : Draw Pkce.verifierBytes)
    (state : Draw Pkce.stateBytes) (seed : Draw 32) (credentials : Credentials)
    (script : List Reply) :
    (LoginRun.mk f (LoginFlow.begin verifier state) seed credentials).InOrder script
      (((LoginFlow.begin verifier state).run f seed credentials).play script) := by
  rw [← LoginRun.dialogue_mk]
  exact LoginRun.inOrder rfl (LoginFlow.timeout_ne_zero hf) script

/-- The smallest key, published. -/
def smallestKey : String :=
  "LS0tLS1CRUdJTiBQVUJMSUMgS0VZLS0tLS1NQm93RFFZSktvWklodmNOQVFFQkJRQURDUUF3" ++
    "QmdJQkJRSUJBdz09LS0tLS1FTkQgUFVCTElDIEtFWS0tLS0t"

/-- A configuration for a provider and a backend on one host. -/
def localConfig : FlowConfig :=
  .new "http://idp" "web" "http://app/cb" smallestKey (.ofBase "http://api")

/-- A login of the local configuration that asks the provider and waits for the answer in vain. -/
theorem login_run_in_order_local : ∃ f, LoginFlow.ofConfig localConfig = .ok f ∧
    (((LoginFlow.begin (Vector.replicate _ 7) (Vector.replicate _ 7)).run f
      (Vector.replicate _ 7) ⟨"alice", "secret"⟩).play [.silent]).requests.length = 1 ∧
    (LoginRun.mk f (LoginFlow.begin (Vector.replicate _ 7) (Vector.replicate _ 7))
      (Vector.replicate _ 7) ⟨"alice", "secret"⟩).InOrder [.silent]
      (((LoginFlow.begin (Vector.replicate _ 7) (Vector.replicate _ 7)).run f
        (Vector.replicate _ 7) ⟨"alice", "secret"⟩).play [.silent]) := by
  -- flows cannot be compared, so only what becomes of the run is computed
  have hsent : (LoginFlow.ofConfig localConfig).toOption.map (fun f =>
      (((LoginFlow.begin (Vector.replicate _ 7) (Vector.replicate _ 7)).run f
        (Vector.replicate _ 7) ⟨"alice", "secret"⟩).play [.silent]).requests.length) = some 1 := by
    decide +kernel
  cases hf : LoginFlow.ofConfig localConfig with
  | error e =>
    rw [hf] at hsent
    cases hsent
  | ok f =>
    rw [hf] at hsent
    exact ⟨f, rfl, Option.some.inj hsent, login_run_in_order hf _ _ _ _ _⟩

end CodeFlow
