import CodeFlow.Cli.Program
import CodeFlow.Proofs.Cli.Bootstrap
import CodeFlow.Proofs.Flow.Possession
import CodeFlow.Proofs.Flow.Stopping

/-!
# What the exit status tells

The exit status tells whether credentials are missing, whether they were refused, whether the flow
failed or whether there is a report. Each command ends in one of a few ways (`Args.plays`), and what
the status says is read off these, for every script (`exit_status_tells`).
-/

namespace CodeFlow.Cli

open CodeFlow.Http

/-- The exit status behind a run. -/
def exitStatus (result : Except CliError Report) : Nat :=
  (Outcome.ofResult result).exitCode

namespace Args

/-! ## Credentials -/

/-- A value from the command line, or else from the settings. -/
def Given (here settings : Option String) (value : String) : Prop :=
  here = some value ∨ here = none ∧ settings = some value

theorem or_eq_some_iff_given {here settings : Option String} {value : String} :
    here.or settings = some value ↔ Given here settings value := by
  cases here <;> simp [Given]

/-- The email or the password is given neither on the command line nor in the settings. -/
def LacksCredentials (a : Args) (c : Config) : Prop :=
  (a.email = none ∧ c.email = none) ∨ (a.password = none ∧ c.password = none)

variable {a : Args} {c : Config} {d : Draws} {script : List Reply} {f : LoginFlow}
  {credentials : Credentials}

theorem credentials_eq_ok_iff {email password : String} :
    a.credentials c = .ok ⟨email, password⟩ ↔
      Given a.email c.email email ∧ Given a.password c.password password := by
  rw [← or_eq_some_iff_given, ← or_eq_some_iff_given, Args.credentials, Config.credentialsWith]
  cases a.email.or c.email <;> cases a.password.or c.password <;> simp

theorem credentials_eq_error_iff {e : CliError} :
    a.credentials c = .error e ↔ e = .noCredentials ∧ a.LacksCredentials c := by
  rw [Args.credentials, Config.credentialsWith, LacksCredentials, ← Option.or_eq_none_iff,
    ← Option.or_eq_none_iff]
  cases a.email.or c.email <;> cases a.password.or c.password <;> simp [eq_comm]

/-- Without credentials nothing else is looked at. -/
theorem prepared_of_lacks (h : a.LacksCredentials c) : a.prepared c = .error .noCredentials := by
  rw [prepared, credentials_eq_error_iff.mpr ⟨rfl, h⟩]
  rfl

/-! ## How commands end -/

/-- The ways in which a command ends, each with its result and its requests. -/
inductive Plays (a : Args) (c : Config) (d : Draws) (script : List Reply) :
    Except CliError Report → List Request → Prop where
  /-- There are no credentials. -/
  | lacking : a.command.needsCredentials = true → a.LacksCredentials c →
      Plays a c d script (.error .noCredentials) []
  /-- The configuration is not accepted. -/
  | unopened {e : FlowError} :
      (a.command.needsCredentials = true → ¬ a.LacksCredentials c) →
      LoginFlow.ofConfig c.flowConfig = .error e → Plays a c d script (.error (.flow e)) []
  | login {f : LoginFlow} {credentials : Credentials} : a.command = .login →
      a.prepared c = .ok (f, credentials) →
      Plays a c d script (reportOf ((f.login d.login credentials).play script).result.1)
        ((f.login d.login credentials).play script).requests
  | register {f : LoginFlow} {credentials : Credentials} : a.command = .register →
      a.prepared c = .ok (f, credentials) →
      Plays a c d script
        ((((f.register d.registration credentials).run.play script).result.mapError .flow).map
          .ofRegistration)
        ((f.register d.registration credentials).run.play script).requests
  /-- The registration before a login fails. -/
  | unregistered {f : LoginFlow} {credentials : Credentials} {e : FlowError} :
      a.command = .bootstrap → a.prepared c = .ok (f, credentials) →
      ((f.register d.registration credentials).run.play script).result = .error e →
      Plays a c d script (.error (.flow e))
        ((f.register d.registration credentials).run.play script).requests
  /-- A login follows its registration. -/
  | bootstrap {f : LoginFlow} {credentials : Credentials} {outcome : RegistrationOutcome}
      {q : Request} : a.command = .bootstrap → a.prepared c = .ok (f, credentials) →
      ((f.register d.registration credentials).run.play script).result = .ok outcome →
      a.Registers c q →
      Plays a c d script (reportOf ((f.login d.login credentials).play script.tail).result.1)
        (q :: ((f.login d.login credentials).play script.tail).requests)
  | verify {code : String} {f : LoginFlow} : a.command = .verify code → openFlow c = .ok f →
      Plays a c d script
        ((((f.verifyAccount code).run.play script).result.mapError .flow).map fun _ => .verified)
        ((f.verifyAccount code).run.play script).requests

theorem openFlow_eq_error {e : CliError} (h : openFlow c = .error e) :
    ∃ fault, e = .flow fault ∧ LoginFlow.ofConfig c.flowConfig = .error fault := by
  unfold openFlow at h
  cases hflow : LoginFlow.ofConfig c.flowConfig with
  | error fault =>
    rw [hflow] at h
    cases h
    exact ⟨fault, rfl, rfl⟩
  | ok f =>
    rw [hflow] at h
    cases h

/-- With a configuration that is not accepted nothing is sent. -/
theorem play_of_unopened {fault : FlowError}
    (hcredentials : a.command.needsCredentials = true → ¬ a.LacksCredentials c)
    (h : LoginFlow.ofConfig c.flowConfig = .error fault) :
    (a.run c d).run.play script = ⟨.error (.flow fault), [], [], script⟩ := by
  have hflow : openFlow c = .error (.flow fault) := by
    rw [openFlow, h]
    rfl
  cases hneeds : a.command.needsCredentials with
  | true =>
    refine play_of_unprepared hneeds ?_
    cases hgiven : a.credentials c with
    | error e => exact absurd (credentials_eq_error_iff.mp hgiven).2 (hcredentials hneeds)
    | ok credentials =>
      rw [prepared, hgiven, hflow]
      rfl
  | false =>
    cases hcommand : a.command with
    | verify code => exact play_verify_of_error hcommand hflow
    | login | register | bootstrap => simp [hcommand, Command.needsCredentials] at hneeds

/-- A command that speaks for a user is not prepared for one of two reasons. -/
theorem plays_of_unprepared {e : CliError} (hneeds : a.command.needsCredentials = true)
    (h : a.prepared c = .error e) :
    a.Plays c d script ((a.run c d).run.play script).result
      ((a.run c d).run.play script).requests := by
  rw [play_of_unprepared hneeds h]
  rcases bind_eq_error_iff.mp h with hcredentials | ⟨credentials, hcredentials, hflow⟩
  · obtain ⟨rfl, hlacks⟩ := credentials_eq_error_iff.mp hcredentials
    exact .lacking hneeds hlacks
  · obtain ⟨fault, rfl, hfault⟩ := openFlow_eq_error (map_eq_error_iff.mp hflow)
    refine .unopened (fun _ hlacks => ?_) hfault
    rw [credentials_eq_error_iff.mpr ⟨rfl, hlacks⟩] at hcredentials
    cases hcredentials

theorem result_signUp : ((signUp f d credentials).run.play script).result =
    ((f.register d.registration credentials).run.play script).result.mapError .flow := by
  rw [play_signUp, LoginFlow.register_eq]
  rfl

/-- Behind a registration that succeeds, a bootstrap ends as the login does. -/
theorem bootstrap_of_registered {outcome : RegistrationOutcome} (hcommand : a.command = .bootstrap)
    (h : a.prepared c = .ok (f, credentials))
    (hregistered : ((f.register d.registration credentials).run.play script).result =
      .ok outcome) :
    ∃ q, a.Registers c q ∧
      ((a.run c d).run.play script).result =
        reportOf ((f.login d.login credentials).play script.tail).result.1 ∧
      ((a.run c d).run.play script).requests =
        q :: ((f.login d.login credentials).play script.tail).requests := by
  have hsigned : ((signUp f d credentials).run.play script).result = .ok outcome := by
    rw [result_signUp, hregistered]
    rfl
  obtain ⟨q, hq, hplay⟩ := play_signUp_of_ok hsigned
  have hbootstrap := play_bootstrap_of_ok hcommand h hsigned
  rw [hplay] at hbootstrap
  simp only [play_logIn, Dialogue.Transcript.map, List.singleton_append] at hbootstrap
  refine ⟨q, registers_of_request h hq, ?_, ?_⟩
  · rw [hbootstrap]
  · rw [hbootstrap]

theorem bootstrap_of_unregistered {e : FlowError} (hcommand : a.command = .bootstrap)
    (h : a.prepared c = .ok (f, credentials))
    (hregistered : ((f.register d.registration credentials).run.play script).result = .error e) :
    (a.run c d).run.play script =
      ((f.register d.registration credentials).run.play script).map fun _ => .error (.flow e) := by
  have hsigned : ((signUp f d credentials).run.play script).result = .error (.flow e) := by
    rw [result_signUp, hregistered]
    rfl
  rw [play_bootstrap_of_error hcommand h hsigned, play_signUp, ← LoginFlow.register_eq]
  rfl

theorem plays (a : Args) (c : Config) (d : Draws) (script : List Reply) :
    a.Plays c d script ((a.run c d).run.play script).result
      ((a.run c d).run.play script).requests := by
  cases hcommand : a.command with
  | verify code =>
    cases hflow : openFlow c with
    | error e =>
      rw [play_verify_of_error hcommand hflow]
      obtain ⟨fault, rfl, hfault⟩ := openFlow_eq_error hflow
      exact .unopened (by simp [hcommand, Command.needsCredentials]) hfault
    | ok f =>
      rw [play_verify hcommand hflow, ← LoginFlow.verifyAccount_eq,
        Dialogue.Transcript.result_map, Dialogue.Transcript.requests_map]
      exact .verify hcommand hflow
  | login =>
    cases hprepared : a.prepared c with
    | error e => exact plays_of_unprepared (congrArg _ hcommand) hprepared
    | ok p =>
      rw [run_login hcommand hprepared, play_logIn, Dialogue.Transcript.result_map,
        Dialogue.Transcript.requests_map]
      exact .login hcommand hprepared
  | register =>
    cases hprepared : a.prepared c with
    | error e => exact plays_of_unprepared (congrArg _ hcommand) hprepared
    | ok p =>
      rw [play_register hcommand hprepared, play_signUp, ← LoginFlow.register_eq]
      simp only [Dialogue.Transcript.result_map, Dialogue.Transcript.requests_map]
      exact .register hcommand hprepared
  | bootstrap =>
    cases hprepared : a.prepared c with
    | error e => exact plays_of_unprepared (congrArg _ hcommand) hprepared
    | ok p =>
      obtain ⟨f, credentials⟩ := p
      cases hregistered : ((f.register d.registration credentials).run.play script).result with
      | error e =>
        rw [bootstrap_of_unregistered hcommand hprepared hregistered,
          Dialogue.Transcript.result_map, Dialogue.Transcript.requests_map]
        exact .unregistered hcommand hprepared hregistered
      | ok outcome =>
        obtain ⟨q, hq, hresult, hrequests⟩ :=
          bootstrap_of_registered hcommand hprepared hregistered
        rw [hresult, hrequests]
        exact .bootstrap hcommand hprepared hregistered hq

end Args

/-! ## What a status stands for -/

section

variable {result : Except CliError Report}

theorem exitStatus_eq_one_iff : exitStatus result = 1 ↔ ∃ e, result = .error (.flow e) := by
  unfold exitStatus Outcome.ofResult
  rcases result with (_ | _ | _ | _) | _ <;> simp [CliError.exitCode]

theorem exitStatus_eq_two_iff :
    exitStatus result = 2 ↔ ∃ message, result = .error (.invalidCredentials message) := by
  unfold exitStatus Outcome.ofResult
  rcases result with (_ | _ | _ | _) | _ <;> simp [CliError.exitCode]

theorem exitStatus_eq_three_iff :
    exitStatus result = 3 ↔
      result = .error .noCredentials ∨ ∃ fault, result = .error (.config fault) := by
  unfold exitStatus Outcome.ofResult
  rcases result with (_ | _ | _ | _) | _ <;> simp [CliError.exitCode]

/-- Where the status stands for nothing else, a report is printed. -/
theorem reported_iff (result : Except CliError Report) :
    exitStatus result ∉ [1, 2, 3] ↔
      ∃ report, result = .ok report ∧ Outcome.ofResult result = ⟨report.text ++ "\n", "", 0⟩ := by
  unfold exitStatus Outcome.ofResult
  rcases result with (_ | _ | _ | _) | _ <;> simp [CliError.exitCode]

end

section

variable {result : Except FlowError LoginOutcome}

theorem reportOf_eq_invalidCredentials_iff {message : String} :
    reportOf result = .error (.invalidCredentials message) ↔
      result = .ok (.invalidCredentials ⟨message⟩) := by
  unfold reportOf
  rcases result with _ | _ | ⟨⟨_⟩⟩ <;> simp

theorem reportOf_eq_flow_iff {e : FlowError} :
    reportOf result = .error (.flow e) ↔ result = .error e := by
  unfold reportOf
  rcases result with _ | _ | _ <;> simp

theorem reportOf_eq_ok_iff {report : Report} :
    reportOf result = .ok report ↔
      ∃ tokens, report = .authenticated tokens ∧ result = .ok (.authenticated tokens) := by
  unfold reportOf
  rcases result with _ | _ | _ <;> simp [eq_comm]

theorem exitStatus_reportOf_ne_three : exitStatus (reportOf result) ≠ 3 := by
  unfold reportOf
  rcases result with _ | _ | _ <;> simp [exitStatus, Outcome.ofResult, CliError.exitCode]

end

/-- A call that is no login ends in a report or in an error of the flow. -/
theorem exitStatus_call_ne {α : Type} {result : Except FlowError α} {g : α → Report}
    {status : Nat} (hstatus : 1 < status) :
    exitStatus ((result.mapError .flow).map g) ≠ status := by
  have hle : exitStatus ((result.mapError .flow).map g) ≤ 1 := by
    cases result with
    | error e => exact Nat.le_refl 1
    | ok x => exact Nat.zero_le 1
  omega

theorem call_ne_authenticated {α : Type} {result : Except FlowError α} {g : α → Report}
    {tokens : Tokens} (hg : ∀ x, g x ≠ .authenticated tokens) :
    (result.mapError CliError.flow).map g ≠ .ok (.authenticated tokens) := by
  cases result with
  | error e => simp [Except.mapError, Except.map]
  | ok x => simpa [Except.mapError, Except.map] using hg x

/-! ## Errors of the flow -/

/-- The place of the request by which a command submits credentials. -/
def Command.loginPlace? : Command → Option Nat
  | .login => some 1
  | .bootstrap => some 2
  | _ => none

namespace Args

/-- The flow returns an error to a command: it is not opened, or one of the command's calls ends in
an error. -/
inductive FlowFails (a : Args) (c : Config) (d : Draws) (script : List Reply) : FlowError → Prop
    where
  | unopened {e : FlowError} : (a.command.needsCredentials = true → ¬ a.LacksCredentials c) →
      LoginFlow.ofConfig c.flowConfig = .error e → FlowFails a c d script e
  | login {f : LoginFlow} {credentials : Credentials} {e : FlowError} :
      a.command = .login → a.prepared c = .ok (f, credentials) →
      ((f.login d.login credentials).play script).result.1 = .error e → FlowFails a c d script e
  | registration {f : LoginFlow} {credentials : Credentials} {e : FlowError} :
      a.command = .register ∨ a.command = .bootstrap → a.prepared c = .ok (f, credentials) →
      ((f.register d.registration credentials).run.play script).result = .error e →
      FlowFails a c d script e
  | loginBehind {f : LoginFlow} {credentials : Credentials} {outcome : RegistrationOutcome}
      {e : FlowError} : a.command = .bootstrap → a.prepared c = .ok (f, credentials) →
      ((f.register d.registration credentials).run.play script).result = .ok outcome →
      ((f.login d.login credentials).play script.tail).result.1 = .error e →
      FlowFails a c d script e
  | verification {code : String} {f : LoginFlow} {e : FlowError} : a.command = .verify code →
      openFlow c = .ok f → ((f.verifyAccount code).run.play script).result = .error e →
      FlowFails a c d script e

/-- A request submits the credentials of a command. -/
structure Submits (a : Args) (c : Config) (q : Request) : Prop where
  method : q.method = .post
  url : Url.parse c.flowConfig.backend.login = .ok q.url
  user : ∃ credentials password challenge, a.credentials c = .ok credentials ∧
    q.body = some (LoginSubmission.toJson ⟨credentials.email, password, challenge⟩).compact

variable {a : Args} {c : Config} {d : Draws} {script : List Reply} {f : LoginFlow}
  {credentials : Credentials} {result : Except CliError Report} {requests : List Request}

theorem map_mapError_eq_flow_iff {α : Type} {result : Except FlowError α} {g : α → Report}
    {e : FlowError} :
    (result.mapError CliError.flow).map g = .error (.flow e) ↔ result = .error e := by
  cases result <;> simp [Except.mapError, Except.map]

theorem Plays.flowFails {e : FlowError} (h : a.Plays c d script result requests)
    (hresult : result = .error (.flow e)) : a.FlowFails c d script e := by
  cases h with
  | lacking => cases hresult
  | unopened hcredentials hflow =>
    cases hresult
    exact .unopened hcredentials hflow
  | login hcommand hprepared =>
    rw [reportOf_eq_flow_iff] at hresult
    exact .login hcommand hprepared hresult
  | register hcommand hprepared =>
    rw [map_mapError_eq_flow_iff] at hresult
    exact .registration (.inl hcommand) hprepared hresult
  | unregistered hcommand hprepared hregistered =>
    cases hresult
    exact .registration (.inr hcommand) hprepared hregistered
  | bootstrap hcommand hprepared hregistered =>
    rw [reportOf_eq_flow_iff] at hresult
    exact .loginBehind hcommand hprepared hregistered hresult
  | verify hcommand hflow =>
    rw [map_mapError_eq_flow_iff] at hresult
    exact .verification hcommand hflow hresult

/-- What the flow returns is what the command ends with. -/
theorem FlowFails.result_run {e : FlowError} (h : a.FlowFails c d script e) :
    ((a.run c d).run.play script).result = .error (.flow e) := by
  cases h with
  | unopened hcredentials hflow => rw [play_of_unopened hcredentials hflow]
  | login hcommand hprepared hresult =>
    rw [run_login hcommand hprepared, play_logIn, Dialogue.Transcript.result_map,
      reportOf_eq_flow_iff]
    exact hresult
  | registration hcommand hprepared hresult =>
    rcases hcommand with hcommand | hcommand
    · rw [play_register hcommand hprepared, Dialogue.Transcript.result_map, result_signUp, hresult]
      rfl
    · rw [bootstrap_of_unregistered hcommand hprepared hresult]
      rfl
  | loginBehind hcommand hprepared hregistered hresult =>
    obtain ⟨q, -, hlogin, -⟩ := bootstrap_of_registered hcommand hprepared hregistered
    rw [hlogin, reportOf_eq_flow_iff]
    exact hresult
  | verification hcommand hflow hresult =>
    rw [play_verify hcommand hflow, ← LoginFlow.verifyAccount_eq, Dialogue.Transcript.result_map,
      hresult]
    rfl

/-! ## Logins of commands -/

theorem timeout_of_prepared (h : a.prepared c = .ok (f, credentials)) :
    (loginRun f d credentials).flow.client.timeout ≠ 0 :=
  LoginFlow.timeout_ne_zero (openFlow_eq_ok (prepared_eq_ok_iff.mp h).2).1

/-- The second request of a login submits the credentials. -/
theorem submits_of_getElem? {q : Request} (h : a.prepared c = .ok (f, credentials))
    (hq : ((f.login d.login credentials).play script).requests[1]? = some q) : a.Submits c q := by
  obtain ⟨hcredentials, hflow⟩ := prepared_eq_ok_iff.mp h
  rw [← dialogue_loginRun] at hq
  obtain ⟨step, hstep, hasks⟩ := LoginRun.asks_getElem? rfl script hq
  cases hstep
  obtain ⟨hmethod, -, hurl, password, challenge, hbody⟩ := hasks
  have hconfig : (loginRun f d credentials).flow.config = c.flowConfig := (openFlow_eq_ok hflow).2
  rw [hconfig] at hurl
  exact ⟨hmethod, hurl, credentials, password, challenge, hcredentials, hbody⟩

/-- The login of a command is refused just where the request that submits the credentials is
answered with that status, and then nothing else is asked. -/
theorem refused_iff (h : a.prepared c = .ok (f, credentials)) :
    (∃ message, reportOf ((f.login d.login credentials).play script).result.1 =
        .error (.invalidCredentials message)) ↔
      ∃ q answer, ((f.login d.login credentials).play script).requests[1]? = some q ∧
        a.Submits c q ∧ script[1]? = some (.answer answer) ∧ answer.status = 401 := by
  have hrefused := LoginRun.invalidCredentials_iff (r := loginRun f d credentials) rfl script
  rw [dialogue_loginRun] at hrefused
  simp only [reportOf_eq_invalidCredentials_iff]
  constructor
  · rintro ⟨message, hresult⟩
    obtain ⟨q, answer, hq, hanswer, hstatus⟩ := hrefused.mp ⟨_, hresult⟩
    exact ⟨q, answer, hq, submits_of_getElem? h hq, hanswer, hstatus⟩
  · rintro ⟨q, answer, hq, -, hanswer, hstatus⟩
    obtain ⟨⟨message⟩, hresult⟩ := hrefused.mpr ⟨q, answer, hq, hanswer, hstatus⟩
    exact ⟨message, hresult⟩

theorem length_of_refused {message : String} (h : a.prepared c = .ok (f, credentials))
    (hresult : reportOf ((f.login d.login credentials).play script).result.1 =
      .error (.invalidCredentials message)) :
    ((f.login d.login credentials).play script).requests.length = 2 := by
  rw [reportOf_eq_invalidCredentials_iff, ← dialogue_loginRun] at hresult
  rw [← dialogue_loginRun]
  have hinOrder := LoginRun.inOrder (r := loginRun f d credentials) rfl (timeout_of_prepared h) script
  exact hinOrder.reached.invalidCredentials _ hresult

theorem asks_of_authenticated {tokens : Tokens} (h : a.prepared c = .ok (f, credentials))
    (hresult : reportOf ((f.login d.login credentials).play script).result.1 =
      .ok (.authenticated tokens)) :
    List.Forall₂ (loginRun f d credentials).Asks
      ((f.login d.login credentials).play script).requests Step.ofLogin := by
  obtain ⟨tokens', heq, hresult'⟩ := reportOf_eq_ok_iff.mp hresult
  rw [← dialogue_loginRun] at hresult' ⊢
  exact LoginRun.asks_of_authenticated rfl (timeout_of_prepared h) hresult'

/-! ## The statuses -/

theorem not_lacks_of_prepared (h : a.prepared c = .ok (f, credentials)) :
    ¬ (a.command.needsCredentials = true ∧ a.LacksCredentials c) := by
  rintro ⟨-, hlacks⟩
  rw [prepared_of_lacks hlacks] at h
  cases h

theorem Plays.status_three_iff (h : a.Plays c d script result requests) :
    exitStatus result = 3 ↔ a.command.needsCredentials = true ∧ a.LacksCredentials c := by
  cases h with
  | lacking hneeds hlacks => exact iff_of_true rfl ⟨hneeds, hlacks⟩
  | unopened hcredentials =>
    exact iff_of_false (by simp [exitStatus_eq_three_iff]) fun h => hcredentials h.1 h.2
  | login hcommand hprepared =>
    exact iff_of_false exitStatus_reportOf_ne_three (not_lacks_of_prepared hprepared)
  | register hcommand hprepared =>
    exact iff_of_false (exitStatus_call_ne (by decide)) (not_lacks_of_prepared hprepared)
  | unregistered hcommand hprepared =>
    exact iff_of_false (by simp [exitStatus_eq_three_iff]) (not_lacks_of_prepared hprepared)
  | bootstrap hcommand hprepared =>
    exact iff_of_false exitStatus_reportOf_ne_three (not_lacks_of_prepared hprepared)
  | verify hcommand hflow =>
    refine iff_of_false (exitStatus_call_ne (by decide)) fun h => ?_
    simp [hcommand, Command.needsCredentials] at h

theorem Plays.silent (h : a.Plays c d script result requests) (hstatus : exitStatus result = 3) :
    requests = [] := by
  cases h with
  | lacking => rfl
  | unopened => rfl
  | login => exact absurd hstatus exitStatus_reportOf_ne_three
  | register => exact absurd hstatus (exitStatus_call_ne (by decide))
  | unregistered => simp [exitStatus_eq_three_iff] at hstatus
  | bootstrap => exact absurd hstatus exitStatus_reportOf_ne_three
  | verify => exact absurd hstatus (exitStatus_call_ne (by decide))

/-- The request that submits the credentials of a command was made and answered by a refusal. -/
def Refused (a : Args) (c : Config) (script : List Reply) (requests : List Request) : Prop :=
  ∃ place q answer, a.command.loginPlace? = some place ∧ requests[place]? = some q ∧
    a.Submits c q ∧ script[place]? = some (.answer answer) ∧ answer.status = 401

theorem refused_of_login (hcommand : a.command = .login) :
    a.Refused c script requests ↔ ∃ q answer, requests[1]? = some q ∧ a.Submits c q ∧
      script[1]? = some (.answer answer) ∧ answer.status = 401 := by
  simp [Refused, hcommand, Command.loginPlace?]

theorem refused_of_bootstrap (hcommand : a.command = .bootstrap) :
    a.Refused c script requests ↔ ∃ q answer, requests[2]? = some q ∧ a.Submits c q ∧
      script[2]? = some (.answer answer) ∧ answer.status = 401 := by
  simp [Refused, hcommand, Command.loginPlace?]

/-- Registering takes no second request. -/
theorem length_requests_register (f : LoginFlow) (seed : Draw 32) (credentials : Credentials)
    (script : List Reply) :
    ((f.register seed credentials).run.play script).requests.length ≤ 1 := by
  rw [f.register_eq, Trip.requests_play, Trip.requests]
  cases (f.registration seed credentials).request <;> simp

theorem Plays.status_two_iff (h : a.Plays c d script result requests) :
    exitStatus result = 2 ↔ a.Refused c script requests := by
  cases h with
  | lacking => simp [exitStatus_eq_two_iff, Refused]
  | unopened => simp [exitStatus_eq_two_iff, Refused]
  | login hcommand hprepared =>
    rw [exitStatus_eq_two_iff, refused_of_login hcommand]
    exact refused_iff hprepared
  | register hcommand =>
    refine iff_of_false (exitStatus_call_ne (by decide)) ?_
    simp [Refused, hcommand, Command.loginPlace?]
  | @unregistered f credentials e hcommand =>
    refine iff_of_false (by simp [exitStatus_eq_two_iff]) ?_
    have hlength := length_requests_register f d.registration credentials script
    rw [refused_of_bootstrap hcommand, List.getElem?_eq_none (by omega)]
    simp
  | bootstrap hcommand hprepared =>
    rw [refused_of_bootstrap hcommand, exitStatus_eq_two_iff, refused_iff hprepared]
    simp only [List.getElem?_cons_succ, List.getElem?_tail]
  | verify hcommand =>
    refine iff_of_false (exitStatus_call_ne (by decide)) ?_
    simp [Refused, hcommand, Command.loginPlace?]

theorem Plays.length_of_refused (h : a.Plays c d script result requests)
    (hstatus : exitStatus result = 2) :
    a.command = .login ∧ requests.length = 2 ∨ a.command = .bootstrap ∧ requests.length = 3 := by
  obtain ⟨message, hresult⟩ := exitStatus_eq_two_iff.mp hstatus
  cases h with
  | lacking => cases hresult
  | unopened => cases hresult
  | login hcommand hprepared =>
    exact .inl ⟨hcommand, Args.length_of_refused hprepared hresult⟩
  | register => exact absurd hstatus (exitStatus_call_ne (by decide))
  | unregistered => cases hresult
  | bootstrap hcommand hprepared =>
    rw [List.length_cons, Args.length_of_refused hprepared hresult]
    exact .inr ⟨hcommand, rfl⟩
  | verify => exact absurd hstatus (exitStatus_call_ne (by decide))

/-- The requests of a command hold a complete login, in a bootstrap behind a registration. -/
def LogsIn (a : Args) (c : Config) (d : Draws) (requests : List Request) : Prop :=
  ∃ f credentials login, a.prepared c = .ok (f, credentials) ∧
    List.Forall₂ (loginRun f d credentials).Asks login Step.ofLogin ∧
    (a.command = .login ∧ requests = login ∨
      a.command = .bootstrap ∧ ∃ q, a.Registers c q ∧ requests = q :: login)

theorem Plays.logsIn {tokens : Tokens} (h : a.Plays c d script result requests)
    (hresult : result = .ok (.authenticated tokens)) : a.LogsIn c d requests := by
  cases h with
  | lacking => cases hresult
  | unopened => cases hresult
  | @login f credentials hcommand hprepared =>
    exact ⟨f, credentials, _, hprepared, asks_of_authenticated hprepared hresult,
      .inl ⟨hcommand, rfl⟩⟩
  | register =>
    refine absurd hresult (call_ne_authenticated fun outcome => ?_)
    cases outcome <;> simp [Report.ofRegistration]
  | unregistered => cases hresult
  | @bootstrap f credentials _ q hcommand hprepared _ hq =>
    exact ⟨f, credentials, _, hprepared, asks_of_authenticated hprepared hresult,
      .inr ⟨hcommand, q, hq, rfl⟩⟩
  | verify => exact absurd hresult (call_ne_authenticated (by simp))

/-! ## Whose credentials -/

/-- A command that speaks for no user does not look at credentials. -/
theorem run_of_unneeded (hneeds : a.command.needsCredentials = false)
    (email password email' password' : Option String) :
    Args.run { a with email, password } { c with email := email', password := password' } d =
      a.run c d := by
  unfold run
  cases hcommand : a.command with
  | verify code => rfl
  | login | register | bootstrap => simp [hcommand, Command.needsCredentials] at hneeds

/-- Where the email and the password come from makes no difference. -/
theorem run_of_given {email password : String} (hemail : Given a.email c.email email)
    (hpassword : Given a.password c.password password) :
    a.run c d =
      Args.run { a with email := some email, password := some password }
        { c with email := none, password := none } d := by
  have hcredentials : a.credentials c = .ok ⟨email, password⟩ :=
    credentials_eq_ok_iff.mpr ⟨hemail, hpassword⟩
  unfold run
  rw [hcredentials]
  rfl

/-! ## All that the status tells -/

/-- What the exit status of a command tells, and where its credentials come from. -/
structure ExitTells (a : Args) (c : Config) (d : Draws) (script : List Reply)
    (t : Dialogue.Transcript (Except CliError Report)) : Prop where
  lacking : exitStatus t.result = 3 ↔ a.command.needsCredentials = true ∧ a.LacksCredentials c
  silent : exitStatus t.result = 3 → t.requests = [] ∧ t.unread = script
  refused : exitStatus t.result = 2 ↔ a.Refused c script t.requests
  refusedLast : exitStatus t.result = 2 →
    a.command = .login ∧ t.requests.length = 2 ∨ a.command = .bootstrap ∧ t.requests.length = 3
  failed : exitStatus t.result = 1 ↔ ∃ e, a.FlowFails c d script e
  /-- The error of the flow is what is complained about. -/
  failure : ∀ e, t.result = .error (.flow e) ↔ a.FlowFails c d script e
  /-- In all other cases there is a report, and it is printed. -/
  reported : exitStatus t.result ∉ [1, 2, 3] ↔
    ∃ report, t.result = .ok report ∧ Outcome.ofResult t.result = ⟨report.text ++ "\n", "", 0⟩
  authenticated : ∀ tokens, t.result = .ok (.authenticated tokens) → a.LogsIn c d t.requests
  credentials : ∀ email password, a.credentials c = .ok ⟨email, password⟩ ↔
    Given a.email c.email email ∧ Given a.password c.password password
  given : ∀ email password, Given a.email c.email email → Given a.password c.password password →
    a.run c d = Args.run { a with email := some email, password := some password }
      { c with email := none, password := none } d
  unneeded : a.command.needsCredentials = false → ∀ email password email' password',
    Args.run { a with email, password } { c with email := email', password := password' } d =
      a.run c d

end Args

/-- The exit status of a command tells how its run ended, for all settings and all replies. -/
theorem exit_status_tells (a : Args) (c : Config) (d : Draws) (script : List Reply) :
    a.ExitTells c d script ((a.run c d).run.play script) := by
  have hplays := a.plays c d script
  have hfailure (e : FlowError) : ((a.run c d).run.play script).result = .error (.flow e) ↔
      a.FlowFails c d script e :=
    ⟨fun hresult => hplays.flowFails hresult, fun hfails => hfails.result_run⟩
  have hunread := (a.run c d).run.play_unread script
  generalize (a.run c d).run.play script = t at hplays hfailure hunread ⊢
  exact
    { lacking := hplays.status_three_iff
      silent := fun hstatus => by
        have hrequests := hplays.silent hstatus
        rw [hunread, hrequests]
        exact ⟨rfl, List.drop_zero⟩
      refused := hplays.status_two_iff
      refusedLast := hplays.length_of_refused
      failed := exitStatus_eq_one_iff.trans (exists_congr hfailure)
      failure := hfailure
      reported := reported_iff t.result
      authenticated := fun tokens hresult => hplays.logsIn hresult
      credentials := fun email password => Args.credentials_eq_ok_iff
      given := fun email password => Args.run_of_given
      unneeded := Args.run_of_unneeded }

end CodeFlow.Cli
