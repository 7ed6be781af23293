import CodeFlow.Cli.Run
import CodeFlow.Proofs.Flow.Provenance

/-!
# Passwords that stay secret

A password goes nowhere but into its encryption. So whoever sees all that two runs send, report,
record and log cannot tell their passwords apart by more than what encryption makes of them: where
both come to one ciphertext, or neither is encrypted, the two runs are the same.
-/

namespace CodeFlow

open CodeFlow.Http CodeFlow.Text

/-! ## Passwords that seal alike -/

/-- Under the random bytes of two runs, the encryption of two passwords comes to the same: to one
ciphertext, or to a failure of both. -/
inductive LoginFlow.SealsAlike (f : LoginFlow) (seed₁ seed₂ : Draw 32)
    (password₁ password₂ : String) : Prop where
  | sealed (ciphertext : String)
      (first : encrypt f.key seed₁ password₁ = .ok ciphertext)
      (second : encrypt f.key seed₂ password₂ = .ok ciphertext)
  | unsealed (fault₁ fault₂ : Rsa.EncryptFault)
      (first : encrypt f.key seed₁ password₁ = .error (.encryptionFailed fault₁))
      (second : encrypt f.key seed₂ password₂ = .error (.encryptionFailed fault₂))

section TwoRuns

variable {f : LoginFlow} {seed₁ seed₂ : Draw 32} {email password₁ password₂ : String}

/-- A run cannot tell apart what seals alike, not even by the reason of a failure. -/
theorem LoginFlow.SealsAlike.encrypted_eq (h : f.SealsAlike seed₁ seed₂ password₁ password₂) :
    f.encrypted seed₁ password₁ = f.encrypted seed₂ password₂ := by
  unfold LoginFlow.encrypted
  cases h with
  | sealed ciphertext first second => rw [first, second]
  | unsealed fault₁ fault₂ first second =>
    -- there is only one reason why a password is not encrypted
    have hfault : fault₁ = fault₂ := by cases fault₁; cases fault₂; rfl
    rw [first, second, hfault]

/-- Two passwords seal alike if both are encrypted, to the same ciphertext. -/
theorem LoginFlow.SealsAlike.of_toOption
    (hsealed : (encrypt f.key seed₁ password₁).isOk = true)
    (hsame : (encrypt f.key seed₁ password₁).toOption =
      (encrypt f.key seed₂ password₂).toOption) :
    f.SealsAlike seed₁ seed₂ password₁ password₂ := by
  cases hfirst : encrypt f.key seed₁ password₁ with
  | error e =>
    rw [hfirst] at hsealed
    cases hsealed
  | ok ciphertext =>
    cases hsecond : encrypt f.key seed₂ password₂ with
    | error e =>
      rw [hfirst, hsecond] at hsame
      cases hsame
    | ok ciphertext' =>
      rw [hfirst, hsecond] at hsame
      cases hsame
      exact .sealed ciphertext hfirst hsecond

namespace Attempt

variable {a : Attempt}

theorem drive_eq_of_sealsAlike (h : f.SealsAlike seed₁ seed₂ password₁ password₂) :
    a.drive f seed₁ ⟨email, password₁⟩ = a.drive f seed₂ ⟨email, password₂⟩ := by
  unfold drive
  simp only [h.encrypted_eq]

/-- The run of a login is the same, and so is the state that it leaves. -/
theorem run_eq_of_sealsAlike (h : f.SealsAlike seed₁ seed₂ password₁ password₂) :
    a.run f seed₁ ⟨email, password₁⟩ = a.run f seed₂ ⟨email, password₂⟩ := by
  unfold run
  rw [drive_eq_of_sealsAlike h]

end Attempt

namespace LoginFlow

theorem login_eq_of_sealsAlike {d₁ d₂ : LoginDraws} (hverifier : d₁.verifier = d₂.verifier)
    (hstate : d₁.state = d₂.state) (h : f.SealsAlike d₁.password d₂.password password₁ password₂) :
    f.login d₁ ⟨email, password₁⟩ = f.login d₂ ⟨email, password₂⟩ := by
  unfold login
  rw [hverifier, hstate, Attempt.run_eq_of_sealsAlike h]

theorem register_eq_of_sealsAlike (h : f.SealsAlike seed₁ seed₂ password₁ password₂) :
    f.register seed₁ ⟨email, password₁⟩ = f.register seed₂ ⟨email, password₂⟩ := by
  unfold register
  rw [h.encrypted_eq]

end LoginFlow

end TwoRuns

/-! ## What a registration sends -/

/-- A request registers a user with one ciphertext in both places. -/
structure RegistersWith (email ciphertext : String) (q : Request) : Prop where
  body : q.body = some (RegistrationSubmission.toJson ⟨email, ciphertext, ciphertext⟩).compact
  email : q.member? "email" = some (.str email)
  password : q.member? "password" = some (.str ciphertext)
  confirmPassword : q.member? "confirmPassword" = some (.str ciphertext)

theorem RegistersWith.of_body {email ciphertext : String} {q : Request}
    (h : q.body = some (RegistrationSubmission.toJson ⟨email, ciphertext, ciphertext⟩).compact) :
    RegistersWith email ciphertext q where
  body := h
  email := Posting.member?_eq (p := .registration _) h "email"
  password := Posting.member?_eq (p := .registration _) h "password"
  confirmPassword := Posting.member?_eq (p := .registration _) h "confirmPassword"

/-! ## Commands -/

namespace Cli

/-- Two runs of one command under one flow, for one user with two passwords. They draw the same
random bytes, except for those that seal the passwords; both times the passwords seal alike. -/
structure SameButPassword (f : LoginFlow) (email password₁ password₂ : String) (a₁ a₂ : Args)
    (c₁ c₂ : Config) (d₁ d₂ : Draws) : Prop where
  command : a₁.command = a₂.command
  flow₁ : openFlow c₁ = .ok f
  flow₂ : openFlow c₂ = .ok f
  credentials₁ : a₁.credentials c₁ = .ok ⟨email, password₁⟩
  credentials₂ : a₂.credentials c₂ = .ok ⟨email, password₂⟩
  verifier : d₁.login.verifier = d₂.login.verifier
  state : d₁.login.state = d₂.login.state
  registration : f.SealsAlike d₁.registration d₂.registration password₁ password₂
  login : f.SealsAlike d₁.login.password d₂.login.password password₁ password₂

theorem Run.ofExcept_ok {α : Type} (a : α) : Run.ofExcept (.ok a) = pure a := rfl

theorem SameButPassword.run_eq {f : LoginFlow} {email password₁ password₂ : String}
    {a₁ a₂ : Args} {c₁ c₂ : Config} {d₁ d₂ : Draws}
    (h : SameButPassword f email password₁ password₂ a₁ a₂ c₁ c₂ d₁ d₂) :
    a₁.run c₁ d₁ = a₂.run c₂ d₂ := by
  have hlogin : logIn f d₁ ⟨email, password₁⟩ = logIn f d₂ ⟨email, password₂⟩ := by
    unfold logIn
    rw [LoginFlow.login_eq_of_sealsAlike h.verifier h.state h.login]
  have hregistration : signUp f d₁ ⟨email, password₁⟩ = signUp f d₂ ⟨email, password₂⟩ := by
    unfold signUp
    rw [LoginFlow.register_eq_of_sealsAlike h.registration]
  unfold Args.run
  rw [h.command, h.credentials₁, h.credentials₂, h.flow₁, h.flow₂]
  simp only [Run.ofExcept_ok, pure_bind]
  cases a₂.command with
  | login => exact hlogin
  | register => simp only [hregistration]
  | verify code => rfl
  | bootstrap => simp only [hregistration, hlogin]

end Cli

/-! ## Concealment -/

/-- Nothing that can be observed of a flow tells two passwords of a user apart: for all scripts,
the requests, the result or the error, the state with the reason of its failure, and the warnings
are the same. -/
structure LoginFlow.Conceals (f : LoginFlow) (seed₁ seed₂ : Draw 32)
    (email password₁ password₂ : String) : Prop where
  /-- The run of a login that was begun before, whatever its state. -/
  run : ∀ (a : Attempt) (script : List Reply),
    (a.run f seed₁ ⟨email, password₁⟩).play script = (a.run f seed₂ ⟨email, password₂⟩).play script
  /-- A login as a whole. -/
  login : ∀ (verifier : Draw Pkce.verifierBytes) (state : Draw Pkce.stateBytes)
    (script : List Reply),
    (f.login ⟨verifier, state, seed₁⟩ ⟨email, password₁⟩).play script =
      (f.login ⟨verifier, state, seed₂⟩ ⟨email, password₂⟩).play script
  /-- A registration. -/
  register : ∀ script : List Reply,
    (f.register seed₁ ⟨email, password₁⟩).run.play script =
      (f.register seed₂ ⟨email, password₂⟩).run.play script
  /-- What a registration sends is one request with one ciphertext in both places. -/
  twice : ∀ (script : List Reply),
    ∀ q ∈ ((f.register seed₁ ⟨email, password₁⟩).run.play script).requests,
      ∃ ciphertext, encrypt f.key seed₁ password₁ = .ok ciphertext ∧
        RegistersWith email ciphertext q ∧
        ((f.register seed₁ ⟨email, password₁⟩).run.play script).requests = [q]
  /-- It is sent if the password is encrypted and the request can be made. -/
  sent : ∀ (script : List Reply) (ciphertext : String) (url : Url),
    encrypt f.key seed₁ password₁ = .ok ciphertext →
    Url.parse f.config.backend.register = .ok url →
    f.client.Admits ⟨.post, url, none,
      some (RegistrationSubmission.toJson ⟨email, ciphertext, ciphertext⟩).compact⟩ →
    ((f.register seed₁ ⟨email, password₁⟩).run.play script).requests = [⟨.post, url, none,
      some (RegistrationSubmission.toJson ⟨email, ciphertext, ciphertext⟩).compact⟩]
  /-- What may be shown of the credentials. -/
  shown : Credentials.describe ⟨email, password₁⟩ = Credentials.describe ⟨email, password₂⟩
  /-- A command of the program, with its report or its complaint. -/
  command : ∀ (a₁ a₂ : Cli.Args) (c₁ c₂ : Cli.Config) (d₁ d₂ : Cli.Draws),
    Cli.SameButPassword f email password₁ password₂ a₁ a₂ c₁ c₂ d₁ d₂ → ∀ script : List Reply,
      (a₁.run c₁ d₁).run.play script = (a₂.run c₂ d₂).run.play script

/-- Two passwords of a user that seal alike are concealed. -/
theorem passwords_concealed {f : LoginFlow} {seed₁ seed₂ : Draw 32}
    {email password₁ password₂ : String} (h : f.SealsAlike seed₁ seed₂ password₁ password₂) :
    f.Conceals seed₁ seed₂ email password₁ password₂ where
  run a script := by rw [Attempt.run_eq_of_sealsAlike h]
  login verifier state script := by
    have hlogin : f.login ⟨verifier, state, seed₁⟩ ⟨email, password₁⟩ =
        f.login ⟨verifier, state, seed₂⟩ ⟨email, password₂⟩ :=
      LoginFlow.login_eq_of_sealsAlike rfl rfl h
    rw [hlogin]
  register script := by rw [LoginFlow.register_eq_of_sealsAlike h]
  twice script q hq := by
    cases hencrypt : LoginFlow.encrypt f.key seed₁ password₁ with
    | error e =>
      rw [LoginFlow.requests_register_of_error hencrypt] at hq
      cases hq
    | ok ciphertext =>
      rw [LoginFlow.requests_register_of_ok hencrypt] at hq ⊢
      obtain ⟨hrequest, hall⟩ := Trip.mem_requests_iff.mp hq
      obtain ⟨url, -, -, hsent⟩ := Client.registerTrip_request_iff.mp hrequest
      have hbody : q.body = some (RegistrationSubmission.toJson
          ⟨email, ciphertext, ciphertext⟩).compact := by rw [hsent]
      exact ⟨ciphertext, rfl, .of_body hbody, hall⟩
  sent script ciphertext url hencrypt hurl hadmits := by
    rw [LoginFlow.requests_register_of_ok hencrypt]
    apply Trip.requests_of_request
    exact Client.registerTrip_request_iff.mpr ⟨url, hurl, hadmits, rfl⟩
  shown := rfl
  command a₁ a₂ c₁ c₂ d₁ d₂ hsame script := by rw [hsame.run_eq]

/-- The number that a padded message stands for, for a key of 73 bytes. -/
def paddedNumber (seed : Draw 32) (password : String) : Nat :=
  Rsa.ofBytes (Rsa.pad 73 seed.toList (Utf8.bytesOf password))

/-- A flow with a key that does not keep apart two messages: its modulus divides the difference of
their cubes. -/
def forgetfulFlow : LoginFlow :=
  { shortestFlow with
    key := ⟨3 * (paddedNumber (.replicate 32 1) "Tr0ub4d" -
      paddedNumber (.replicate 32 3) "hunter2"), 3, by decide +kernel⟩ }

theorem passwords_concealed_forgetful :
    forgetfulFlow.SealsAlike (.replicate 32 3) (.replicate 32 1) "hunter2" "Tr0ub4d" ∧
      ((forgetfulFlow.register (.replicate 32 3) ⟨"ada@example.org", "hunter2"⟩).run.play
        willingServers).requests.length = 1 ∧
      forgetfulFlow.Conceals (.replicate 32 3) (.replicate 32 1) "ada@example.org" "hunter2"
        "Tr0ub4d" := by
  have halike : forgetfulFlow.SealsAlike (.replicate 32 3) (.replicate 32 1) "hunter2"
      "Tr0ub4d" := by
    apply LoginFlow.SealsAlike.of_toOption
    · decide +kernel
    · decide +kernel
  exact ⟨halike, by decide +kernel, passwords_concealed halike⟩

end CodeFlow
