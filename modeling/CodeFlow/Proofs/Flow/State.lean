import CodeFlow.Flow.State

/-!
# Fields and failures of a state

Which fields of a state are filled, and what a failure does: it closes the state, keeps what was
found out, and leaves a state alone that is closed already.
-/

namespace CodeFlow

/-! ## Fields -/

/-- What a login finds out. -/
inductive Field where
  | loginChallenge
  | authenticationCookie
  | redirectTo
  | authenticationSession
  | consentCookie
  | authorizationCode
  | accessToken
  | sessionId
  | expiresIn
  | expiresAt
deriving DecidableEq

/-- What a field can hold. -/
@[reducible]
def Field.Value : Field → Type
  | .loginChallenge => String
  | .authenticationCookie => Cookie
  | .redirectTo => String
  | .authenticationSession => Cookie
  | .consentCookie => Cookie
  | .authorizationCode => String
  | .accessToken => String
  | .sessionId => String
  | .expiresIn => Int64
  | .expiresAt => String

namespace FlowState

/-- A field is filled. -/
def isSet (s : FlowState) : Field → Bool
  | .loginChallenge => s.loginChallenge.isSome
  | .authenticationCookie => s.authenticationCookie.isSome
  | .redirectTo => s.redirectTo.isSome
  | .authenticationSession => s.authenticationSession.isSome
  | .consentCookie => s.consentCookie.isSome
  | .authorizationCode => s.authorizationCode.isSome
  | .accessToken => s.accessToken.isSome
  | .sessionId => s.sessionId.isSome
  | .expiresIn => s.expiresIn.isSome
  | .expiresAt => s.expiresAt.isSome

/-- What a field holds. -/
def get? (s : FlowState) : (field : Field) → Option field.Value
  | .loginChallenge => s.loginChallenge
  | .authenticationCookie => s.authenticationCookie
  | .redirectTo => s.redirectTo
  | .authenticationSession => s.authenticationSession
  | .consentCookie => s.consentCookie
  | .authorizationCode => s.authorizationCode
  | .accessToken => s.accessToken
  | .sessionId => s.sessionId
  | .expiresIn => s.expiresIn
  | .expiresAt => s.expiresAt

/-- A field is filled if it holds something. -/
theorem isSet_eq_isSome (s : FlowState) (field : Field) :
    s.isSet field = (s.get? field).isSome := by
  cases field <;> rfl

/-! ## Failures -/

theorem fail_of_terminal {s : FlowState} (h : s.stage.isTerminal = true) (reason : String) :
    s.fail reason = s :=
  if_pos h

theorem fail_of_open {s : FlowState} (h : s.stage.isTerminal = false) (reason : String) :
    s.fail reason = { s with stage := .failed reason } :=
  if_neg (by simp [h])

/-- A failure changes nothing but the stage. -/
theorem fail_eq (s : FlowState) (reason : String) :
    s.fail reason = { s with stage := (s.fail reason).stage } := by
  unfold fail
  split <;> rfl

@[simp] theorem isSet_withStage (s : FlowState) (stage : Stage) (field : Field) :
    { s with stage := stage }.isSet field = s.isSet field := by
  cases field <;> rfl

@[simp] theorem isSet_fail (s : FlowState) (reason : String) (field : Field) :
    (s.fail reason).isSet field = s.isSet field := by
  rw [fail_eq, isSet_withStage]

/-- A state that has failed is closed, then as before. -/
theorem isTerminal_fail (s : FlowState) (reason : String) :
    (s.fail reason).stage.isTerminal = true := by
  unfold fail
  split
  · assumption
  · rfl

/-- A stage that is asked for is there, or the request is refused; the state stays as it is. -/
theorem run_expect (s : FlowState) (expected : Stage) :
    (expect expected).run.run s =
      if s.stage = expected then (.ok (), s) else (.error (.outOfOrder expected s.stage), s) := by
  change (if s.stage = expected then pure () else throw (.outOfOrder expected s.stage) :
    Transition).run.run s = _
  split <;> rfl

/-- A closed state is at no stage that a login starts from. -/
theorem expect_init_of_terminal {s : FlowState} (h : s.stage.isTerminal = true) :
    (expect .init).run.run s = (.error (.outOfOrder .init s.stage), s) := by
  rw [run_expect, if_neg]
  intro hinit
  rw [hinit] at h
  cases h

end FlowState

end CodeFlow
