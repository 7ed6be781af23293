import CodeFlow.Proofs.Cli.Commands
import CodeFlow.Proofs.Flow.Secrecy

/-!
# Bootstrapping

To bootstrap is to register and then to log in: it plays the registration on the first reply and the
login on the replies behind it. Whether the user was new makes no difference but in what is logged,
and a registration that fails is all that there is (`bootstrap_registers_then_logs_in`).
-/

namespace CodeFlow.Cli

open CodeFlow.Http

/-- What is played if a command stands in place of that of a command line. -/
def Args.playing (a : Args) (command : Command) (c : Config) (d : Draws) (script : List Reply) :
    Dialogue.Transcript (Except CliError Report) :=
  (Args.run { a with command } c d).run.play script

/-- A request registers the user for whom a command line and settings speak. -/
structure Args.Registers (a : Args) (c : Config) (q : Request) : Prop where
  method : q.method = .post
  url : Url.parse c.flowConfig.backend.register = .ok q.url
  user : ∃ credentials ciphertext, a.credentials c = .ok credentials ∧
    RegistersWith credentials.email ciphertext q

/-- What is logged between a registration that was reported and the login behind it. -/
def Report.announced : Report → List Warning
  | .alreadyRegistered message => [.loggingIn message]
  | _ => []

theorem Report.announced_ofRegistration (outcome : RegistrationOutcome) :
    (Report.ofRegistration outcome).announced = Cli.announced outcome := by
  cases outcome <;> rfl

/-- A bootstrap goes on from a registration to the login: the request of the registration comes
first, and all else is the login's, on the replies behind the first. -/
structure Args.GoesOn (a : Args) (c : Config) (d : Draws) (script : List Reply) (q : Request)
    (report : Report) : Prop where
  registered : (a.playing .register c d script).requests = [q]
  result : (a.playing .bootstrap c d script).result = (a.playing .login c d script.tail).result
  requests : (a.playing .bootstrap c d script).requests =
    q :: (a.playing .login c d script.tail).requests
  unread : (a.playing .bootstrap c d script).unread = (a.playing .login c d script.tail).unread
  /-- Only what is logged tells a new user from one that exists. -/
  warnings : (a.playing .bootstrap c d script).warnings =
    (a.playing .register c d script).warnings ++
      (report.announced ++ (a.playing .login c d script.tail).warnings)

namespace Args

variable {a : Args} {c : Config} {d : Draws} {script : List Reply} {f : LoginFlow}
  {credentials : Credentials}

/-- What a registration sends is known before any reply. -/
theorem registers_of_request {q : Request} (h : a.prepared c = .ok (f, credentials))
    (hq : (f.registration d.registration credentials).request = .ok q) : a.Registers c q := by
  obtain ⟨hcredentials, hflow⟩ := prepared_eq_ok_iff.mp h
  obtain ⟨password, -, hrequest⟩ := bind_eq_ok_iff.mp hq
  obtain ⟨url, hurl, -, rfl⟩ := Client.registerTrip_request_iff.mp hrequest
  rw [(openFlow_eq_ok hflow).2] at hurl
  exact ⟨rfl, hurl, credentials, password, hcredentials, .of_body rfl⟩

theorem playing_register (h : a.prepared c = .ok (f, credentials)) :
    a.playing .register c d script =
      ((signUp f d credentials).run.play script).map (Except.map .ofRegistration) :=
  play_register (a := { a with command := .register }) rfl h

theorem goesOn_of_ok {outcome : RegistrationOutcome} (h : a.prepared c = .ok (f, credentials))
    (hsigned : ((signUp f d credentials).run.play script).result = .ok outcome) :
    ∃ q, (f.registration d.registration credentials).request = .ok q ∧
      a.GoesOn c d script q (.ofRegistration outcome) := by
  obtain ⟨q, hq, hplay⟩ := play_signUp_of_ok hsigned
  have hregister : a.playing .register c d script = _ := playing_register h
  have hlogin : a.playing .login c d script.tail = (logIn f d credentials).run.play script.tail :=
    congrArg (fun run => run.run.play script.tail)
      (run_login (a := { a with command := .login }) rfl h)
  have hbootstrap : a.playing .bootstrap c d script = _ :=
    play_bootstrap_of_ok (a := { a with command := .bootstrap }) rfl h hsigned
  rw [hplay] at hregister hbootstrap
  refine ⟨q, hq, ?_⟩
  constructor
  · rw [hregister]
    rfl
  · rw [hbootstrap, hlogin]
  · rw [hbootstrap, hlogin]
    rfl
  · rw [hbootstrap, hlogin]
  · rw [hbootstrap, hregister, hlogin, Report.announced_ofRegistration]
    rfl

/-- A command that only registers is a bootstrap that does not go on. -/
theorem playing_bootstrap_of_error {e : CliError}
    (h : (a.playing .register c d script).result = .error e) :
    a.playing .bootstrap c d script = a.playing .register c d script := by
  cases hprepared : a.prepared c with
  | error e' =>
    have hunprepared (command : Command) (hneeds : command.needsCredentials = true) :
        a.playing command c d script = ⟨.error e', [], [], script⟩ :=
      play_of_unprepared (a := { a with command }) hneeds hprepared
    rw [hunprepared .bootstrap rfl, hunprepared .register rfl]
  | ok p =>
    obtain ⟨f, credentials⟩ := p
    rw [playing_register hprepared] at h ⊢
    cases hsigned : ((signUp f d credentials).run.play script).result with
    | ok outcome =>
      rw [Dialogue.Transcript.map, hsigned] at h
      cases h
    | error e' =>
      have hbootstrap : a.playing .bootstrap c d script = _ :=
        play_bootstrap_of_error (a := { a with command := .bootstrap }) rfl hprepared hsigned
      rw [hbootstrap, Dialogue.Transcript.map, Dialogue.Transcript.map, hsigned]
      rfl

/-- Registering asks once or not at all. -/
theorem registers_of_mem {q : Request} (h : q ∈ (a.playing .register c d script).requests) :
    a.Registers c q ∧ (a.playing .register c d script).requests = [q] := by
  cases hprepared : a.prepared c with
  | error e =>
    have hunprepared : a.playing .register c d script = ⟨.error e, [], [], script⟩ :=
      play_of_unprepared (a := { a with command := .register }) rfl hprepared
    rw [hunprepared] at h
    cases h
  | ok p =>
    obtain ⟨f, credentials⟩ := p
    have hrequests : (a.playing .register c d script).requests =
        (f.registration d.registration credentials).requests := by
      rw [playing_register hprepared, play_signUp, ← Trip.requests_play _ script]
      rfl
    rw [hrequests] at h ⊢
    obtain ⟨hq, hall⟩ := Trip.mem_requests_iff.mp h
    exact ⟨registers_of_request hprepared hq, hall⟩

theorem ok_of_playing_register {report : Report}
    (h : (a.playing .register c d script).result = .ok report) :
    ∃ f credentials outcome, a.prepared c = .ok (f, credentials) ∧
      ((signUp f d credentials).run.play script).result = .ok outcome ∧
      report = .ofRegistration outcome := by
  cases hprepared : a.prepared c with
  | error e =>
    have hunprepared : a.playing .register c d script = ⟨.error e, [], [], script⟩ :=
      play_of_unprepared (a := { a with command := .register }) rfl hprepared
    rw [hunprepared] at h
    cases h
  | ok p =>
    obtain ⟨f, credentials⟩ := p
    rw [playing_register hprepared] at h
    cases hsigned : ((signUp f d credentials).run.play script).result with
    | error e =>
      rw [Dialogue.Transcript.map, hsigned] at h
      cases h
    | ok outcome =>
      rw [Dialogue.Transcript.map, hsigned] at h
      cases h
      exact ⟨f, credentials, outcome, rfl, hsigned, rfl⟩

end Args

/-- To bootstrap is to register and then to log in, if the user was registered or is known; to what
comes of it and to what is sent the difference between the two is nothing. If registering fails,
that is the end. -/
theorem bootstrap_registers_then_logs_in (a : Args) (c : Config) (d : Draws)
    (script : List Reply) :
    (∀ report, (a.playing .register c d script).result = .ok report →
      ∃ q, a.Registers c q ∧ a.GoesOn c d script q report) ∧
    (∀ reply reply' report report',
      (a.playing .register c d (reply :: script)).result = .ok report →
      (a.playing .register c d (reply' :: script)).result = .ok report' →
      (a.playing .bootstrap c d (reply :: script)).result =
          (a.playing .bootstrap c d (reply' :: script)).result ∧
        (a.playing .bootstrap c d (reply :: script)).requests =
          (a.playing .bootstrap c d (reply' :: script)).requests) ∧
    ∀ e, (a.playing .register c d script).result = .error e →
      a.playing .bootstrap c d script = a.playing .register c d script ∧
        ∀ q ∈ (a.playing .bootstrap c d script).requests,
          a.Registers c q ∧ (a.playing .bootstrap c d script).requests = [q] := by
  refine ⟨fun report h => ?_, fun reply reply' report report' h h' => ?_, fun e h => ?_⟩
  · obtain ⟨f, credentials, outcome, hprepared, hsigned, rfl⟩ := Args.ok_of_playing_register h
    obtain ⟨q, hq, hgoesOn⟩ := Args.goesOn_of_ok hprepared hsigned
    exact ⟨q, Args.registers_of_request hprepared hq, hgoesOn⟩
  · obtain ⟨f, credentials, outcome, hprepared, hsigned, -⟩ := Args.ok_of_playing_register h
    obtain ⟨f', credentials', outcome', hprepared', hsigned', -⟩ := Args.ok_of_playing_register h'
    cases hprepared.symm.trans hprepared'
    obtain ⟨q, hq, hgoesOn⟩ := Args.goesOn_of_ok hprepared hsigned
    obtain ⟨q', hq', hgoesOn'⟩ := Args.goesOn_of_ok hprepared' hsigned'
    cases hq.symm.trans hq'
    exact ⟨hgoesOn.result.trans hgoesOn'.result.symm,
      hgoesOn.requests.trans hgoesOn'.requests.symm⟩
  · have hbootstrap := Args.playing_bootstrap_of_error h
    refine ⟨hbootstrap, fun q hq => ?_⟩
    rw [hbootstrap] at hq ⊢
    exact Args.registers_of_mem hq

end CodeFlow.Cli
