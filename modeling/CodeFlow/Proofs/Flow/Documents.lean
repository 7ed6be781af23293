import CodeFlow.Cookie
import CodeFlow.Flow.Config
import CodeFlow.Flow.Token
import CodeFlow.Proofs.Json.RoundTrip

/-!
# Documents of logins read back

Cookies, configurations and tokens are kept as documents. Each is read back from its text as it was
written, whatever its texts, numbers and times are.
-/

namespace CodeFlow

open Json (Fields Shape)

/-! ## Shapes -/

theorem Cookie.sound_form : Cookie.form.shape.Sound := by
  simp [form, Shape.Sound, Fields.Sound, Fields.keys]

theorem Endpoints.sound_form : Endpoints.form.shape.Sound := by
  simp [form, Shape.Sound, Fields.Sound, Fields.keys]

theorem CookieNames.sound_form : CookieNames.form.shape.Sound := by
  simp [form, Shape.Sound, Fields.Sound, Fields.keys, Shape.isOptional]

theorem FlowConfig.sound_form : FlowConfig.form.shape.Sound := by
  have hbackend := Endpoints.sound_form
  have hcookies := CookieNames.sound_form
  simp [form, Shape.Sound, Fields.Sound, Fields.keys, hbackend, hcookies]

theorem Tokens.sound_form : Tokens.form.shape.Sound := by
  simp [form, Shape.Sound, Fields.Sound, Fields.keys, Shape.isOptional]

/-! ## The position of the session cookie -/

/-- How the position of the session cookie stands in the document of a configuration. -/
def FlowConfig.positionMember? (c : FlowConfig) : Option Json :=
  ((FlowConfig.form.toJson c).get? "cookies").bind (·.get? "session_position")

theorem FlowConfig.positionMember?_eq (c : FlowConfig) : c.positionMember? =
    some ((Shape.optional (.unsigned "usize")).toJson c.cookies.sessionPosition) := rfl

/-- No position is written as null, and a position as a number. -/
theorem FlowConfig.positionMember?_eq_null_iff (c : FlowConfig) :
    c.positionMember? = some .null ↔ c.cookies.sessionPosition = none := by
  rw [positionMember?_eq]
  cases c.cookies.sessionPosition with
  | none => simp [Shape.toJson]
  | some n => simp [Shape.toJson]

/-! ## Reading back -/

/-- Every cookie, every configuration and every token is read back from its text. A configuration
without a position of the session cookie says so by null, so that no usual position takes the place
of none. -/
theorem documents_read_back :
    (∀ c : Cookie, Cookie.form.ReadsBack c) ∧
    (∀ c : FlowConfig, FlowConfig.form.ReadsBack c ∧
      (c.positionMember? = some .null ↔ c.cookies.sessionPosition = none)) ∧
    ∀ t : Tokens, Tokens.form.ReadsBack t :=
  ⟨Json.Form.readsBack Cookie.sound_form,
    fun c => ⟨Json.Form.readsBack FlowConfig.sound_form c, c.positionMember?_eq_null_iff⟩,
    Json.Form.readsBack Tokens.sound_form⟩

end CodeFlow
