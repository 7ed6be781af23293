import CodeFlow.Cli.Run
import CodeFlow.Proofs.Flow.Course
import CodeFlow.Proofs.Flow.Registration

/-!
# What commands play

Before anything is sent, a command looks for credentials and opens its flow. Behind that it plays a
registration, a login or both, and the verification of an account; nothing is sent besides.
-/

namespace CodeFlow

open CodeFlow.Http

/-- What happened, with another result. -/
def Dialogue.Transcript.map {α β : Type} (t : Transcript α) (g : α → β) : Transcript β :=
  { t with result := g t.result }

@[simp] theorem Dialogue.Transcript.result_map {α β : Type} (t : Transcript α) (g : α → β) :
    (t.map g).result = g t.result := rfl

@[simp] theorem Dialogue.Transcript.requests_map {α β : Type} (t : Transcript α) (g : α → β) :
    (t.map g).requests = t.requests := rfl

namespace Cli

/-! ## Parts of commands -/

section

variable {f : LoginFlow} {d : Draws} {credentials : Credentials} {outcome : RegistrationOutcome}
  {script : List Reply} {e : CliError}

/-- The login of a command. -/
def loginRun (f : LoginFlow) (d : Draws) (c : Credentials) : LoginRun :=
  ⟨f, LoginFlow.begin d.login.verifier d.login.state, d.login.password, c⟩

theorem dialogue_loginRun : (loginRun f d credentials).dialogue = f.login d.login credentials :=
  LoginRun.dialogue_mk f _ d.login.password credentials

theorem play_logIn :
    (logIn f d credentials).run.play script =
      ((f.login d.login credentials).play script).map fun result => reportOf result.1 := by
  have hrun : (logIn f d credentials).run =
      f.login d.login credentials >>= fun result => pure (reportOf result.1) := rfl
  rw [hrun, Dialogue.play_map]
  rfl

theorem play_ofSession {α : Type} (s : Session α) :
    (Run.ofSession s).run.play script = (s.run.play script).map (Except.mapError .flow) := by
  have hrun : (Run.ofSession s).run = s.run >>= fun result => pure (Except.mapError .flow result) :=
    rfl
  rw [hrun, Dialogue.play_map]
  rfl

theorem play_signUp :
    (signUp f d credentials).run.play script =
      ((f.registration d.registration credentials).session.run.play script).map
        (Except.mapError .flow) := by
  rw [← LoginFlow.register_eq]
  exact play_ofSession _

/-- A registration that succeeds has sent its request and read one reply. -/
theorem play_signUp_of_ok
    (h : ((signUp f d credentials).run.play script).result = .ok outcome) :
    ∃ q, (f.registration d.registration credentials).request = .ok q ∧
      (signUp f d credentials).run.play script =
        ⟨.ok outcome, [q], (f.registration d.registration credentials).remarks (replyAt script 0),
          script.tail⟩ := by
  rw [play_signUp] at h ⊢
  cases hrequest : (f.registration d.registration credentials).request with
  | error e =>
    rw [Trip.play_session_of_error hrequest] at h
    cases h
  | ok q =>
    rw [Trip.play_session_of_ok hrequest] at h ⊢
    exact ⟨q, rfl, congrArg (Dialogue.Transcript.mk · _ _ _) h⟩

/-- What is said once a user is registered, before the login. -/
def announced : RegistrationOutcome → List Warning
  | .created => []
  | .alreadyRegistered message => [.loggingIn message]

theorem play_announce :
    (announce outcome).play script = ⟨(), [], announced outcome, script⟩ := by
  cases outcome <;> rfl

end

/-- The flow of the settings has their configuration. -/
theorem openFlow_eq_ok {c : Config} {f : LoginFlow} (h : openFlow c = .ok f) :
    LoginFlow.ofConfig c.flowConfig = .ok f ∧ f.config = c.flowConfig := by
  unfold openFlow at h
  cases hflow : LoginFlow.ofConfig c.flowConfig with
  | error e =>
    rw [hflow] at h
    cases h
  | ok f' =>
    rw [hflow] at h
    cases h
    refine ⟨rfl, ?_⟩
    unfold LoginFlow.ofConfig at hflow
    split at hflow
    · cases hflow
    · split at hflow
      · cases hflow
      · cases hflow
        rfl

/-! ## Commands -/

/-- The command speaks for a user. -/
def Command.needsCredentials : Command → Bool
  | .verify _ => false
  | _ => true

/-- What a command that speaks for a user has in hand before anything is sent. -/
def Args.prepared (a : Args) (c : Config) : Except CliError (LoginFlow × Credentials) :=
  (a.credentials c).bind fun credentials => (openFlow c).map fun f => (f, credentials)

namespace Args

variable {a : Args} {c : Config} {d : Draws} {f : LoginFlow} {credentials : Credentials}
  {outcome : RegistrationOutcome} {script : List Reply} {e : CliError}

theorem prepared_eq_ok_iff :
    a.prepared c = .ok (f, credentials) ↔ a.credentials c = .ok credentials ∧ openFlow c = .ok f := by
  unfold prepared
  cases a.credentials c with
  | error e => simp [Except.bind]
  | ok credentials' => cases openFlow c <;> simp [Except.bind, Except.map, and_comm]

/-- Looking for credentials and opening the flow go before all else. -/
theorem bind_of_unprepared (h : a.prepared c = .error e)
    (k : LoginFlow → Credentials → Run Report) :
    (do
      let credentials ← Run.ofExcept (a.credentials c)
      let f ← Run.ofExcept (openFlow c)
      k f credentials) = Run.ofExcept (.error e) := by
  unfold prepared at h
  cases hcredentials : a.credentials c with
  | error e' =>
    rw [hcredentials] at h
    cases h
    rfl
  | ok credentials =>
    cases hflow : openFlow c with
    | error e' =>
      rw [hcredentials, hflow] at h
      cases h
      rfl
    | ok f =>
      rw [hcredentials, hflow] at h
      cases h

theorem bind_of_prepared (h : a.prepared c = .ok (f, credentials))
    (k : LoginFlow → Credentials → Run Report) :
    (do
      let credentials ← Run.ofExcept (a.credentials c)
      let f ← Run.ofExcept (openFlow c)
      k f credentials) = k f credentials := by
  obtain ⟨hcredentials, hflow⟩ := prepared_eq_ok_iff.mp h
  rw [hcredentials, hflow]
  rfl

/-- Without credentials or a flow nothing is sent. -/
theorem play_of_unprepared (hneeds : a.command.needsCredentials = true)
    (h : a.prepared c = .error e) :
    (a.run c d).run.play script = ⟨.error e, [], [], script⟩ := by
  have hrun : a.run c d = Run.ofExcept (.error e) := by
    unfold run
    cases hcommand : a.command with
    | verify code => simp [hcommand, Command.needsCredentials] at hneeds
    | login => exact bind_of_unprepared h _
    | register => exact bind_of_unprepared h _
    | bootstrap => exact bind_of_unprepared h _
  rw [hrun]
  rfl

theorem run_login (hcommand : a.command = .login) (h : a.prepared c = .ok (f, credentials)) :
    a.run c d = logIn f d credentials := by
  unfold run
  rw [hcommand]
  exact bind_of_prepared h _

theorem play_register (hcommand : a.command = .register)
    (h : a.prepared c = .ok (f, credentials)) :
    (a.run c d).run.play script =
      ((signUp f d credentials).run.play script).map (Except.map .ofRegistration) := by
  have hrun : a.run c d = signUp f d credentials >>= fun outcome =>
      pure (.ofRegistration outcome) := by
    unfold run
    rw [hcommand]
    exact bind_of_prepared h _
  have hbind : (a.run c d).run = (signUp f d credentials).run >>= fun result =>
      pure (Except.map .ofRegistration result) := by
    rw [hrun, ExceptT.run_bind]
    refine congrArg ((signUp f d credentials).run >>= ·) (funext fun result => ?_)
    cases result <;> rfl
  rw [hbind, Dialogue.play_map]
  rfl

theorem run_bootstrap (hcommand : a.command = .bootstrap)
    (h : a.prepared c = .ok (f, credentials)) :
    a.run c d = (do
      let outcome ← signUp f d credentials
      ExceptT.lift (announce outcome)
      logIn f d credentials) := by
  unfold run
  rw [hcommand]
  exact bind_of_prepared h _

/-- A registration that fails is the end of a bootstrap. -/
theorem play_bootstrap_of_error (hcommand : a.command = .bootstrap)
    (h : a.prepared c = .ok (f, credentials))
    (hsigned : ((signUp f d credentials).run.play script).result = .error e) :
    (a.run c d).run.play script =
      ((signUp f d credentials).run.play script).map fun _ => .error e := by
  rw [run_bootstrap hcommand h, ExceptT.run_bind, Dialogue.play_bind]
  simp only [hsigned]
  change Dialogue.Transcript.mk _ (_ ++ []) (_ ++ []) _ = _
  rw [List.append_nil, List.append_nil]
  rfl

/-- A registration that succeeds is followed by the login, on what it has left of the script. -/
theorem play_bootstrap_of_ok (hcommand : a.command = .bootstrap)
    (h : a.prepared c = .ok (f, credentials))
    (hsigned : ((signUp f d credentials).run.play script).result = .ok outcome) :
    (a.run c d).run.play script =
      let t := (signUp f d credentials).run.play script
      let t' := (logIn f d credentials).run.play t.unread
      ⟨t'.result, t.requests ++ t'.requests, t.warnings ++ (announced outcome ++ t'.warnings),
        t'.unread⟩ := by
  have hlift : (ExceptT.lift (announce outcome) >>= fun _ => logIn f d credentials : Run _).run =
      announce outcome >>= fun _ => (logIn f d credentials).run := by
    rw [ExceptT.run_bind, ExceptT.run_lift]
    cases outcome <;> rfl
  rw [run_bootstrap hcommand h, ExceptT.run_bind, Dialogue.play_bind]
  simp only [hsigned, hlift, Dialogue.play_bind, play_announce, List.nil_append]

theorem play_verify_of_error {code : String} (hcommand : a.command = .verify code)
    (h : openFlow c = .error e) :
    (a.run c d).run.play script = ⟨.error e, [], [], script⟩ := by
  unfold run
  rw [hcommand, h]
  rfl

theorem play_verify {code : String} (hcommand : a.command = .verify code)
    (h : openFlow c = .ok f) :
    (a.run c d).run.play script =
      ((f.verification code).session.run.play script).map fun result =>
        (result.mapError .flow).map fun _ => .verified := by
  have hrun : a.run c d = Run.ofSession (f.verifyAccount code) >>= fun _ => pure .verified := by
    unfold run
    rw [hcommand, h]
    rfl
  have hbind : (a.run c d).run = (Run.ofSession (f.verifyAccount code)).run >>= fun result =>
      pure (result.map fun _ => .verified) := by
    rw [hrun, ExceptT.run_bind]
    refine congrArg ((Run.ofSession (f.verifyAccount code)).run >>= ·) (funext fun result => ?_)
    cases result <;> rfl
  rw [hbind, Dialogue.play_map, play_ofSession, LoginFlow.verifyAccount_eq]
  rfl

end Args

end Cli

end CodeFlow
