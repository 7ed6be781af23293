import CodeFlow.Proofs.Flow.Reading
import CodeFlow.Proofs.Flow.Registration
import CodeFlow.Proofs.Json.RoundTrip

/-!
# Verdicts of the backend

The backend decides by a status about a login and about a registration, and its body says the rest.
A verdict has as parameters what counts for acceptance, so that what the backend promises and what
is made of its answers are two readings of one definition. The two agree but for some answers that
are taken too widely: every success for an accepted login (`submissions_judged`) and for a new user,
and every 422 for a known one (`enrolments_judged`).
-/

namespace CodeFlow

open CodeFlow.Http

/-- The statuses of success. -/
def Http.Succeeds (status : Nat) : Prop :=
  200 ≤ status ∧ status < 300

instance (status : Nat) : Decidable (Succeeds status) :=
  inferInstanceAs (Decidable (_ ∧ _))

theorem isSuccess_eq_true_iff {a : Answer} : a.isSuccess = true ↔ Succeeds a.status := by
  simp [Answer.isSuccess, Succeeds]

theorem isSuccess_eq_false_iff {a : Answer} : a.isSuccess = false ↔ ¬ Succeeds a.status := by
  rw [← isSuccess_eq_true_iff, Bool.not_eq_true]

/-! ## Logins -/

/-- What an answer to credentials comes to, if some statuses are taken for acceptance. -/
inductive LoginVerdict (accepting : Nat → Prop) (status : Nat) (body : String) :
    Except FlowError LoginReply → Prop where
  | rejected :
      status = 401 →
      LoginVerdict accepting status body
        (.ok (.rejected ⟨(BackendMessage.ofBody body).text?.getD usualRejection⟩))
  | accepted {redirectTo : String} :
      status ≠ 401 → accepting status → RedirectBody.form.ofText body = .ok ⟨redirectTo⟩ →
      LoginVerdict accepting status body (.ok (.accepted redirectTo))
  | undecodable {message : String} :
      status ≠ 401 → accepting status → RedirectBody.form.ofText body = .error message →
      LoginVerdict accepting status body (.error (.protocol .submitLogin (.invalidBody message)))
  | unexpected :
      status ≠ 401 → ¬ accepting status →
      LoginVerdict accepting status body
        (.error (.protocol .submitLogin (.unexpectedStatus status body)))

section

variable {accepting accepting' : Nat → Prop} {status : Nat} {body : String}
  {result result' : Except FlowError LoginReply} {a : Answer}

/-- There is no other verdict. -/
theorem LoginVerdict.unique (h : LoginVerdict accepting status body result)
    (h' : LoginVerdict accepting status body result') : result = result' := by
  cases h <;> cases h' <;> simp_all

/-- Two readings agree about an answer just where they agree about its status. -/
theorem LoginVerdict.agrees_iff (h : LoginVerdict accepting status body result) :
    LoginVerdict accepting' status body result ↔
      (status ≠ 401 → (accepting' status ↔ accepting status)) := by
  constructor
  · intro h' hstatus
    cases h <;> cases h' <;> simp_all
  · intro hagree
    cases h with
    | rejected hstatus => exact .rejected hstatus
    | accepted hstatus haccepting hbody =>
      exact .accepted hstatus ((hagree hstatus).mpr haccepting) hbody
    | undecodable hstatus haccepting hbody =>
      exact .undecodable hstatus ((hagree hstatus).mpr haccepting) hbody
    | unexpected hstatus hother =>
      exact .unexpected hstatus (mt (hagree hstatus).mp hother)

/-- An answer that came whole is judged with every success for acceptance. -/
theorem readLoginReply_verdict (htext : a.text? = some body) :
    LoginVerdict Succeeds a.status body (Client.readLoginReply a) := by
  unfold Client.readLoginReply
  split
  · rename_i hrejected
    have hbody : a.text = body := by rw [Answer.text, htext, Option.getD_some]
    exact hbody ▸ .rejected hrejected
  · rename_i hstatus
    cases hread : readBody .submitLogin RedirectBody.form a with
    | ok redirect =>
      obtain ⟨hsuccess, text, htext', hbody⟩ := readBody_eq_ok_iff.mp hread
      obtain rfl := Option.some.inj (htext.symm.trans htext')
      exact .accepted hstatus (isSuccess_eq_true_iff.mp hsuccess) hbody
    | error fault =>
      obtain ⟨hbroken, -⟩ | ⟨text, htext', hfault⟩ := readBody_eq_error_iff.mp hread
      · cases htext.symm.trans hbroken
      · obtain rfl := Option.some.inj (htext.symm.trans htext')
        obtain ⟨hother, rfl⟩ | ⟨hsuccess, message, hbody, rfl⟩ := hfault
        · exact .unexpected hstatus (isSuccess_eq_false_iff.mp hother)
        · exact .undecodable hstatus (isSuccess_eq_true_iff.mp hsuccess) hbody

end

/-- Credentials are posted while a server answers by a script. -/
def submission (c : Client) (endpoint : String) (s : LoginSubmission) (script : List Reply) :
    Dialogue.Transcript (Except FlowError LoginReply) :=
  (c.submitLogin endpoint s).run.play script

section

variable {c : Client} {endpoint : String} {url : Url}

/-- A posting is sent where the client can ask its address. -/
theorem submission_of_reaches (hurl : Url.parse endpoint = .ok url) (hreaches : c.Reaches url)
    (s : LoginSubmission) (a : Answer) (rest : List Reply) :
    submission c endpoint s (.answer a :: rest) =
      ⟨Client.readLoginReply a, [⟨.post, url, none, some s.toJson.compact⟩], [], rest⟩ := by
  rw [submission, Client.submitLogin_eq, Client.submitTrip,
    Trip.play_session_of_ok (Client.postTrip_request_of_reaches hurl hreaches)]
  rfl

/-- Where credentials can be posted, the status and the body of the answer settle what comes of it.
Credentials are refused by 401, whatever the body is and even if it broke off. They are accepted by
every success that says where to go, and by no other answer. The backend promises acceptance by 200
alone, so its promise is kept for all answers but those of another success. -/
theorem submissions_judged (hurl : Url.parse endpoint = .ok url) (hreaches : c.Reaches url)
    (s : LoginSubmission) (a : Answer) (rest : List Reply) :
    let t := submission c endpoint s (.answer a :: rest)
    t.requests = [⟨.post, url, none, some s.toJson.compact⟩] ∧ t.unread = rest ∧
      (a.status = 401 → ∃ rejection, t.result = .ok (.rejected rejection)) ∧
      ∀ body, a.text? = some body →
        (∀ result, t.result = result ↔ LoginVerdict Succeeds a.status body result) ∧
        (LoginVerdict (· = 200) a.status body t.result ↔
          ¬(Succeeds a.status ∧ a.status ≠ 200)) := by
  simp only [submission_of_reaches hurl hreaches, true_and]
  refine ⟨fun hstatus => ?_, fun body htext => ⟨fun result => ⟨?_, ?_⟩, ?_⟩⟩
  · simp [Client.readLoginReply, hstatus]
  · rintro rfl
    exact readLoginReply_verdict htext
  · exact (readLoginReply_verdict htext).unique
  · rw [(readLoginReply_verdict htext).agrees_iff]
    unfold Succeeds
    omega

end

/-- The address of a backend of a short name. -/
def shortBackend (path : String) : Url :=
  ⟨"http".toList, some ⟨[], [], .name "api".toList, none⟩, .segments [path.toList], none, none⟩

/-- An answer with a body that came whole. -/
def saying (status : Nat) (body : String) : Answer :=
  { status, headers := [], body := some (Text.Utf8.bytesOf body), received := .epoch }

/-- An acceptance that does not say where to go. -/
theorem submissions_judged_nowhere :
    Url.parse "http://api/login" = .ok (shortBackend "login") ∧
      Client.Reaches ⟨5⟩ (shortBackend "login") ∧
      ∃ message,
        (submission ⟨5⟩ "http://api/login" ⟨"", "", ""⟩ [.answer (saying 200 "[]")]).result =
          .error (.protocol .submitLogin (.invalidBody message)) := by
  have hurl : Url.parse "http://api/login" = .ok (shortBackend "login") := by decide +kernel
  have hreaches : Client.Reaches ⟨5⟩ (shortBackend "login") := by decide +kernel
  have htext : (saying 200 "[]").text? = some "[]" := by decide +kernel
  obtain ⟨-, -, -, hjudged⟩ := submissions_judged hurl hreaches ⟨"", "", ""⟩ (saying 200 "[]") []
  cases hbody : RedirectBody.form.ofText "[]" with
  | error message =>
    exact ⟨hurl, hreaches, message,
      ((hjudged "[]" htext).1 _).mpr (.undecodable (by decide) (by decide) hbody)⟩
  | ok redirect =>
    have hnone : (RedirectBody.form.ofText "[]").toOption.isNone = true := by decide +kernel
    rw [hbody] at hnone
    cases hnone

/-- A body that says where to go. -/
def leadingBody : String := "\x7b\"redirect_to\":\"http://idp/?1\"\x7d"

/-- The backend accepts nothing by a 201, but with one the login goes on. -/
theorem other_successes_accepted :
    let t := submission ⟨5⟩ "http://api/login" ⟨"", "", ""⟩ [.answer (saying 201 leadingBody)]
    (∃ redirectTo, t.result = .ok (.accepted redirectTo)) ∧
      (saying 201 leadingBody).text? = some leadingBody ∧
      ¬ LoginVerdict (· = 200) (saying 201 leadingBody).status leadingBody t.result := by
  have hurl : Url.parse "http://api/login" = .ok (shortBackend "login") := by decide +kernel
  have hreaches : Client.Reaches ⟨5⟩ (shortBackend "login") := by decide +kernel
  have htext : (saying 201 leadingBody).text? = some leadingBody := by decide +kernel
  have hleads : (RedirectBody.form.ofText leadingBody).toOption.isSome = true := by decide +kernel
  simp only [submission_of_reaches hurl hreaches]
  refine ⟨?_, htext, fun hkept => ?_⟩
  · cases hbody : RedirectBody.form.ofText leadingBody with
    | error message =>
      rw [hbody] at hleads
      cases hleads
    | ok redirect =>
      exact ⟨redirect.redirectTo, readLoginReply_accepted_iff.mpr
        ⟨by decide, readBody_eq_ok_iff.mpr ⟨rfl, leadingBody, htext, hbody⟩⟩⟩
  · have hagree := (readLoginReply_verdict htext).agrees_iff.mp hkept (by decide)
    exact absurd (hagree.mpr (by decide)) (by decide)

/-! ## Registrations -/

/-- What an answer to a registration comes to, if some statuses are taken for a new user and some
answers for a known one. -/
inductive RegistrationVerdict (new : Nat → Prop) (known : Nat → String → Prop) (status : Nat)
    (body : String) : Except FlowError RegistrationOutcome → Prop where
  | created : new status → RegistrationVerdict new known status body (.ok .created)
  | known :
      ¬ new status → known status body →
      RegistrationVerdict new known status body
        (.ok (.alreadyRegistered ((BackendMessage.ofBody body).text?.getD usualRefusal)))
  | unexpected :
      ¬ new status → ¬ known status body →
      RegistrationVerdict new known status body
        (.error (.protocol .register (.unexpectedStatus status body)))

/-- The body is an object in which the backend says that the user is known: its status asks to try
again. -/
def AsksAgain (body : String) : Prop :=
  ∃ members, Json.parse? body = some (.obj members) ∧
    members.lookup "status" = some (.str "please try again")

/-- What the backend promises to say of a known user. -/
def PromisedKnown (status : Nat) (body : String) : Prop :=
  status = 422 ∧ AsksAgain body

section

variable {new new' : Nat → Prop} {known known' : Nat → String → Prop} {status : Nat}
  {body : String} {result result' : Except FlowError RegistrationOutcome} {a : Answer}

/-- There is no other verdict. -/
theorem RegistrationVerdict.unique (h : RegistrationVerdict new known status body result)
    (h' : RegistrationVerdict new known status body result') : result = result' := by
  cases h <;> cases h' <;> simp_all

/-- Two readings agree about an answer just where they agree about whom it tells of. -/
theorem RegistrationVerdict.agrees_iff (h : RegistrationVerdict new known status body result) :
    RegistrationVerdict new' known' status body result ↔
      (new' status ↔ new status) ∧ (¬ new status → (known' status body ↔ known status body)) := by
  constructor
  · intro h'
    cases h <;> cases h' <;> simp_all
  · rintro ⟨hnew, hknown⟩
    cases h with
    | created h => exact .created (hnew.mpr h)
    | known hother h => exact .known (mt hnew.mp hother) ((hknown hother).mpr h)
    | unexpected hother h => exact .unexpected (mt hnew.mp hother) (mt (hknown hother).mp h)

/-- An answer is judged with every success for a new user and every 422 for a known one. -/
theorem readRegistration_verdict :
    RegistrationVerdict Succeeds (fun status _ => status = 422) a.status a.text
      (Client.readRegistration a) := by
  unfold Client.readRegistration
  split
  · rename_i hsuccess
    exact .created (isSuccess_eq_true_iff.mp hsuccess)
  · rename_i hsuccess
    have hother := mt isSuccess_eq_true_iff.mpr hsuccess
    split
    · rename_i hstatus
      exact .known hother hstatus
    · rename_i hstatus
      exact .unexpected hother hstatus

end

/-- A registration is posted while a server answers by a script. -/
def enrolment (c : Client) (endpoint : String) (s : RegistrationSubmission) (script : List Reply) :
    Dialogue.Transcript (Except FlowError RegistrationOutcome) :=
  (c.register endpoint s).run.play script

section

variable {c : Client} {endpoint : String} {url : Url}

theorem enrolment_of_reaches (hurl : Url.parse endpoint = .ok url) (hreaches : c.Reaches url)
    (s : RegistrationSubmission) (a : Answer) (rest : List Reply) :
    enrolment c endpoint s (.answer a :: rest) =
      ⟨Client.readRegistration a, [⟨.post, url, none, some s.toJson.compact⟩],
        (Client.registrationRemark a).toList, rest⟩ := by
  rw [enrolment, Client.register_eq, Client.registerTrip,
    Trip.play_session_of_ok (Client.postTrip_request_of_reaches hurl hreaches)]
  rfl

/-- What is logged is that the user is known. -/
theorem mem_registrationRemark_iff {a : Answer} {w : Warning} :
    w ∈ (Client.registrationRemark a).toList ↔
      ∃ message, Client.readRegistration a = .ok (.alreadyRegistered message) ∧
        w = .alreadyRegistered message := by
  unfold Client.registrationRemark Client.readRegistration
  cases a.isSuccess with
  | true => simp
  | false => by_cases hstatus : a.status = 422 <;> simp [hstatus]

/-- Where a registration can be posted, the status and the body of the answer settle what comes of
it. Every success is taken for a new user, and every 422 for a known one, which is also logged. The
backend promises a new user by 200 and 201 alone, and a known one by a 422 that asks to try again,
so its promise is kept for all answers but those of another success and of another 422. -/
theorem enrolments_judged (hurl : Url.parse endpoint = .ok url) (hreaches : c.Reaches url)
    (s : RegistrationSubmission) (a : Answer) (rest : List Reply) :
    let t := enrolment c endpoint s (.answer a :: rest)
    t.requests = [⟨.post, url, none, some s.toJson.compact⟩] ∧ t.unread = rest ∧
      (∀ result, t.result = result ↔
        RegistrationVerdict Succeeds (fun status _ => status = 422) a.status a.text result) ∧
      (∀ w, w ∈ t.warnings ↔
        ∃ message, t.result = .ok (.alreadyRegistered message) ∧ w = .alreadyRegistered message) ∧
      (RegistrationVerdict (· ∈ [200, 201]) PromisedKnown a.status a.text t.result ↔
        ¬(Succeeds a.status ∧ a.status ≠ 200 ∧ a.status ≠ 201) ∧
          ¬(a.status = 422 ∧ ¬ AsksAgain a.text)) := by
  simp only [enrolment_of_reaches hurl hreaches, true_and]
  refine ⟨fun result => ⟨?_, readRegistration_verdict.unique⟩,
    fun w => mem_registrationRemark_iff, ?_⟩
  · rintro rfl
    exact readRegistration_verdict
  · rw [readRegistration_verdict.agrees_iff]
    refine and_congr ?_ ?_
    · simp only [Succeeds, List.mem_cons, List.not_mem_nil, or_false]
      omega
    -- a status of success is none that refuses, so nothing is asked of the body then
    · by_cases hstatus : a.status = 422 <;> simp [PromisedKnown, Succeeds, hstatus]

end

/-- A body of one member, which is a text. -/
def remark (name text : String) : String :=
  (Json.obj [(name, .str text)]).compact

theorem asksAgain_remark_iff {name text : String} :
    AsksAgain (remark name text) ↔ name = "status" ∧ text = "please try again" := by
  have hparse : Json.parse? (remark name text) = some (.obj [(name, .str text)]) :=
    Json.parse?_compact_texts [(name, text)]
  unfold AsksAgain
  rw [hparse]
  constructor
  · rintro ⟨members, hmembers, hlookup⟩
    cases hmembers
    rw [List.lookup_cons] at hlookup
    split at hlookup
    · rename_i hname
      cases hlookup
      exact ⟨(eq_of_beq hname).symm, rfl⟩
    · cases hlookup
  · rintro ⟨rfl, rfl⟩
    exact ⟨_, rfl, rfl⟩

/-- A user who is known, in the words of the backend. -/
theorem enrolments_judged_known :
    Url.parse "http://api/register" = .ok (shortBackend "register") ∧
      Client.Reaches ⟨5⟩ (shortBackend "register") ∧
      RegistrationVerdict (· ∈ [200, 201]) PromisedKnown 422
        (saying 422 (remark "status" "please try again")).text
        (enrolment ⟨5⟩ "http://api/register" ⟨"", "", ""⟩
          [.answer (saying 422 (remark "status" "please try again"))]).result := by
  have hurl : Url.parse "http://api/register" = .ok (shortBackend "register") := by decide +kernel
  have hreaches : Client.Reaches ⟨5⟩ (shortBackend "register") := by decide +kernel
  have htext : (saying 422 (remark "status" "please try again")).text =
      remark "status" "please try again" := by decide +kernel
  have hasks : AsksAgain (saying 422 (remark "status" "please try again")).text := by
    rw [htext]
    exact asksAgain_remark_iff.mpr ⟨rfl, rfl⟩
  obtain ⟨-, -, -, -, hkept⟩ := enrolments_judged hurl hreaches ⟨"", "", ""⟩
    (saying 422 (remark "status" "please try again")) []
  exact ⟨hurl, hreaches, hkept.mpr ⟨by decide, fun h => h.2 hasks⟩⟩

/-- The backend refuses an email, and the user is taken for a known one. -/
theorem other_refusals_mistaken :
    let a := saying 422 (remark "message" "email is invalid")
    let t := enrolment ⟨5⟩ "http://api/register" ⟨"", "", ""⟩ [.answer a]
    t.result = .ok (.alreadyRegistered "email is invalid") ∧
      ¬ RegistrationVerdict (· ∈ [200, 201]) PromisedKnown a.status a.text t.result := by
  have hurl : Url.parse "http://api/register" = .ok (shortBackend "register") := by decide +kernel
  have hreaches : Client.Reaches ⟨5⟩ (shortBackend "register") := by decide +kernel
  have htext : (saying 422 (remark "message" "email is invalid")).text =
      remark "message" "email is invalid" := by decide +kernel
  have hsaid : (BackendMessage.ofBody (remark "message" "email is invalid")).text? =
      some "email is invalid" := by decide +kernel
  simp only [enrolment_of_reaches hurl hreaches]
  refine ⟨?_, fun hkept => ?_⟩
  · change Except.ok (RegistrationOutcome.alreadyRegistered
      ((BackendMessage.ofBody (saying 422 _).text).text?.getD usualRefusal)) = _
    rw [htext, hsaid, Option.getD_some]
  · obtain ⟨-, hknown⟩ := readRegistration_verdict.agrees_iff.mp hkept
    obtain ⟨-, hasks⟩ := (hknown (by decide)).mpr rfl
    rw [htext, asksAgain_remark_iff] at hasks
    exact absurd hasks.1 (by decide)

end CodeFlow
