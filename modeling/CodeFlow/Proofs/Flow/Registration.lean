import CodeFlow.Flow.Attempt
import CodeFlow.Proofs.Flow.Trip

/-!
# Calls of one request

To register a user and to verify an account are calls of one request, so each is a trip on its own.
What comes of it is settled by the first reply, and no other reply is read.
-/

namespace CodeFlow

open CodeFlow.Http

namespace Trip

variable {α : Type} {t : Trip α} {q : Request} {e : FlowError}

theorem play_session_of_error (h : t.request = .error e) (script : List Reply) :
    t.session.run.play script = ⟨.error e, [], [], script⟩ := by
  rw [session, h]
  rfl

/-- The trip that is made on its own reads the first reply. -/
theorem play_session_of_ok (h : t.request = .ok q) (script : List Reply) :
    t.session.run.play script =
      ⟨t.outcome q (replyAt script 0), [q], t.remarks (replyAt script 0), script.tail⟩ := by
  have hplay (reply : Reply) : (t.rest q reply).play script.tail =
      ⟨t.outcome q reply, [], t.remarks reply, script.tail⟩ := by
    cases reply with
    | answer a =>
      simp only [rest, outcome, remarks, behind]
      cases t.remark a <;> rfl
    | unreachable | dropped | silent => rfl
  rw [session, h]
  change (Dialogue.send q (t.rest q)).play script = _
  rw [Dialogue.play_send, hplay]
  cases script <;> rfl

/-- A trip on its own ends in an error just where it fails. -/
theorem result_play_eq_error_iff {script : List Reply} :
    (t.session.run.play script).result = .error e ↔ t.Fails (replyAt script 0) e := by
  unfold Fails
  cases hrequest : t.request with
  | error e' => simp [play_session_of_error hrequest]
  | ok q => simp [play_session_of_ok hrequest]

end Trip

namespace LoginFlow

/-- Registering a user: the password is encrypted before the request is made. -/
def registration (f : LoginFlow) (seed : Draw 32) (c : Credentials) : Trip RegistrationOutcome where
  step := .register
  request := ((encrypt f.key seed c.password).mapError .crypto).bind fun password =>
    (f.client.registerTrip f.config.backend.register ⟨c.email, password, password⟩).request
  remark := Client.registrationRemark
  read _ := Client.readRegistration

theorem register_eq (f : LoginFlow) (seed : Draw 32) (c : Credentials) :
    f.register seed c = (f.registration seed c).session := by
  unfold register encrypted Trip.session registration
  cases encrypt f.key seed c.password with
  | error e => rfl
  | ok password =>
    simp only [pure_bind, Client.register_eq]
    rfl

/-- Verifying an account. -/
def verification (f : LoginFlow) (code : String) : Trip Unit :=
  f.client.verifyTrip f.config.backend.verify code

theorem verifyAccount_eq (f : LoginFlow) (code : String) :
    f.verifyAccount code = (f.verification code).session :=
  f.client.verifyAccount_eq f.config.backend.verify code

/-! ## Errors of the calls -/

variable {f : LoginFlow} {seed : Draw 32} {c : Credentials} {code : String} {script : List Reply}
  {e : FlowError}

/-- A registration fails in the encryption or at its step. -/
theorem register_error (h : ((f.register seed c).run.play script).result = .error e) :
    (∃ fault, e = .crypto fault) ∨ e.step? = some .register := by
  rw [f.register_eq, Trip.result_play_eq_error_iff] at h
  rcases h with hrequest | ⟨q, -, houtcome⟩
  · rcases bind_eq_error_iff.mp hrequest with hencrypt | ⟨password, -, hregister⟩
    · cases hsealed : encrypt f.key seed c.password with
      | ok password => simp [hsealed, Except.mapError] at hencrypt
      | error fault =>
        rw [hsealed] at hencrypt
        cases hencrypt
        exact .inl ⟨fault, rfl⟩
    · exact .inr (Client.postTrip_request_error_iff.mp hregister).step
  · refine .inr (Trip.outcome_error_step (fun a e hread => ?_) houtcome)
    change Client.readRegistration a = .error e at hread
    unfold Client.readRegistration at hread
    split at hread
    · cases hread
    · split at hread
      · cases hread
      · cases hread
        rfl

/-- A verification fails at its step. -/
theorem verifyAccount_error (h : ((f.verifyAccount code).run.play script).result = .error e) :
    e.step? = some .verifyAccount := by
  rw [f.verifyAccount_eq, Trip.result_play_eq_error_iff] at h
  rcases h with hrequest | ⟨q, -, houtcome⟩
  · exact (Client.asking_eq_error_iff.mp hrequest).step
  · refine Trip.outcome_error_step (fun a e hread => ?_) houtcome
    change (if a.isSuccess then _ else _) = Except.error e at hread
    split at hread
    · cases hread
    · cases hread
      rfl

end LoginFlow

end CodeFlow
