import CodeFlow.Proofs.Flow.Verdicts
import CodeFlow.Proofs.Json.TextMembers

/-!
# Explanations of the backend

A backend that refuses may say why, in an object with a message among other members. The message is
passed on as long as all that is read of the object can be read: each key stands for a text, and
neither a status nor an error comes twice or as anything but a text or null. Otherwise nothing of
the body is read, and the usual words stand in place of the message (`explanations_passed_on`).
-/

namespace CodeFlow

open CodeFlow.Http CodeFlow.Json

/-! ## Bodies that are objects -/

/-- The keys that are looked for in the body of a refusal. -/
def BackendMessage.keys : List String :=
  ["message", "status", "error"]

/-- A key comes once among some members, and with a text. -/
def TellsOnce (ms : List Member) (name text : String) : Prop :=
  ∃ before m after, ms = before ++ m :: after ∧ Says m.key name.toList ∧
    OptionalText m.value (some text) ∧ ∀ other ∈ before ++ after, ¬ Says other.key name.toList

section

variable {body text : String} {ms : List Member}

/-- An object is read for what it says as its members are collected. -/
theorem BackendMessage.ofText_eq_ok_iff (h : IsObject body.toList ms) {b : BackendMessage} :
    BackendMessage.form.ofText body = .ok b ↔
      ∃ known, Collects BackendMessage.keys (fun _ => none) ms known ∧
        b = ⟨(known "message").join, (known "status").join, (known "error").join⟩ := by
  have hkeys : BackendMessage.keys.Nodup := by decide
  have hread (vs : (textFields BackendMessage.keys).Val) :
      endText (BackendMessage.form.shape.read (Text.Utf8.bytesOf body)) = .ok vs ↔
        ∃ known, Collects BackendMessage.keys (fun _ => none) ms known ∧
          vs = known.texts BackendMessage.keys :=
    h.read_eq_ok_iff hkeys "BackendMessage"
  rw [Form.ofText_eq_ok_iff, Form.read, map_eq_ok_iff]
  constructor
  · rintro ⟨vs, hvs, rfl⟩
    obtain ⟨known, hcollects, rfl⟩ := (hread vs).mp hvs
    exact ⟨known, hcollects, rfl⟩
  · rintro ⟨known, hcollects, rfl⟩
    exact ⟨_, (hread _).mpr ⟨known, hcollects, rfl⟩, rfl⟩

/-- A message is told if the members let what the body says be read. -/
theorem BackendMessage.text?_of_legible (h : IsObject body.toList ms)
    (hmessage : TellsOnce ms "message" text) (hlegible : Legible BackendMessage.keys ms) :
    (BackendMessage.ofBody body).text? = some text := by
  obtain ⟨known, hcollects⟩ : ∃ known, Collects BackendMessage.keys (fun _ => none) ms known :=
    hlegible.exists_collects (by simp)
  obtain ⟨before, m, after, rfl, hspelt, htext, -⟩ := hmessage
  have hknown : known "message" = some (some text) :=
    hcollects.known_of_mem (List.mem_append_right before List.mem_cons_self) (by decide) hspelt
      htext
  rw [ofBody, (ofText_eq_ok_iff h).mpr ⟨known, hcollects, rfl⟩, hknown]
  rfl

/-- Nothing is told if they do not. -/
theorem BackendMessage.text?_of_not_legible (h : IsObject body.toList ms)
    (hillegible : ¬ Legible BackendMessage.keys ms) :
    (BackendMessage.ofBody body).text? = none := by
  unfold ofBody
  split
  · rename_i b hread
    obtain ⟨known, hcollects, -⟩ := (ofText_eq_ok_iff h).mp hread
    exact absurd hcollects.legible.1 hillegible
  · rfl

end

/-! ## Refusals -/

/-- What a body tells of a refusal, and what becomes of it: where the status of the answer refuses
credentials or a registration, this is the message, and the usual words are if nothing is told. -/
structure Explained (c : Client) (endpoint body : String) (told : Option String) : Prop where
  text : (BackendMessage.ofBody body).text? = told
  rejected : ∀ s a rest, a.status = 401 → a.text = body →
    (submission c endpoint s (.answer a :: rest)).result =
      .ok (.rejected ⟨told.getD usualRejection⟩)
  registered : ∀ s a rest, a.status = 422 → a.text = body →
    (enrolment c endpoint s (.answer a :: rest)).result =
        .ok (.alreadyRegistered (told.getD usualRefusal)) ∧
      (enrolment c endpoint s (.answer a :: rest)).warnings =
        [.alreadyRegistered (told.getD usualRefusal)]

section

variable {c : Client} {endpoint body text : String} {url : Url} {ms : List Member}

/-- What a body tells is passed on. -/
theorem explained_of_text (hurl : Url.parse endpoint = .ok url) (hreaches : c.Reaches url)
    {told : Option String} (h : (BackendMessage.ofBody body).text? = told) :
    Explained c endpoint body told where
  text := h
  rejected s a rest hstatus hbody := by
    rw [submission_of_reaches hurl hreaches, ← h, ← hbody]
    simp only [Client.readLoginReply, hstatus, if_true]
  registered s a rest hstatus hbody := by
    have hrefused : a.isSuccess = false := by
      simp [Answer.isSuccess, hstatus]
    rw [enrolment_of_reaches hurl hreaches, ← h, ← hbody]
    simp [Client.readRegistration, Client.registrationRemark, hrefused, hstatus]

/-- Where a body is an object that tells a message once, the message is passed on with a refusal of
credentials and of a registration if and only if the members let what is looked for be read: each
key stands for a text, and none of the three keys that are looked for comes twice or with anything
but a text or null. Other members may hold any value. Otherwise the message is lost, and the usual
words are passed on. -/
theorem explanations_passed_on (hurl : Url.parse endpoint = .ok url) (hreaches : c.Reaches url)
    (hobject : IsObject body.toList ms) (hmessage : TellsOnce ms "message" text) :
    (Legible BackendMessage.keys ms → Explained c endpoint body (some text)) ∧
      (¬ Legible BackendMessage.keys ms → Explained c endpoint body none) := by
  constructor
  · intro hlegible
    exact explained_of_text hurl hreaches
      (BackendMessage.text?_of_legible hobject hmessage hlegible)
  · intro hillegible
    exact explained_of_text hurl hreaches (BackendMessage.text?_of_not_legible hobject hillegible)

end

/-! ## Two bodies -/

/-- A text of plain characters in quotes. -/
def inQuotes (s : String) : List Char :=
  '"' :: (s.toList ++ ['"'])

theorem says_toList {s : String} (h : s.toList.all (IsPlain ·) = true) : Says s.toList s.toList :=
  says_self (by simpa using h)

theorem value_inQuotes {s : String} (h : s.toList.all (IsPlain ·) = true) : Value (inQuotes s) :=
  .string (says_toList h).quoted

theorem says_message : Says "message".toList "message".toList :=
  says_toList (by decide)

theorem optionalText_locked : OptionalText (inQuotes "account locked") (some "account locked") :=
  .text (says_toList (by decide))

theorem value_locked : Value (inQuotes "account locked") :=
  value_inQuotes (by decide)

/-- A key that stands for another text than the message. -/
theorem not_says_message {name : String} (h : name.toList.all (IsPlain ·) = true)
    (hname : name ≠ "message") : ¬ Says name.toList "message".toList :=
  fun hspelt => hname ((says_toList h).unique hspelt)

/-- An object that says why, behind a list that nobody asked for. -/
def lockedBody : String := "\x7b\"detail\":[],\"message\":\"account locked\"\x7d"

/-- The members of this object. -/
def lockedMembers : List Member :=
  [⟨"detail".toList, ['[', ']']⟩, ⟨"message".toList, inQuotes "account locked"⟩]

theorem explanations_passed_on_locked :
    Url.parse "http://api/login" = .ok (shortBackend "login") ∧
      Client.Reaches ⟨5⟩ (shortBackend "login") ∧ IsObject lockedBody.toList lockedMembers ∧
      TellsOnce lockedMembers "message" "account locked" ∧
      Legible BackendMessage.keys lockedMembers ∧
      Explained ⟨5⟩ "http://api/login" lockedBody (some "account locked") := by
  have hurl : Url.parse "http://api/login" = .ok (shortBackend "login") := by decide +kernel
  have hreaches : Client.Reaches ⟨5⟩ (shortBackend "login") := by decide +kernel
  have hdetail : Says "detail".toList "detail".toList := says_toList (by decide)
  have hobject : IsObject lockedBody.toList lockedMembers :=
    ⟨[], _, [], Gap.nil, .cons (.first Gap.nil) hdetail.quoted Gap.nil Gap.nil
      (.list (.nil Gap.nil)) (.cons (.further Gap.nil Gap.nil) says_message.quoted Gap.nil Gap.nil
        value_locked (.nil Gap.nil)), Gap.nil, rfl⟩
  have hmessage : TellsOnce lockedMembers "message" "account locked" := by
    refine ⟨[_], _, [], rfl, says_message, optionalText_locked, ?_⟩
    exact List.forall_mem_singleton.mpr (not_says_message (by decide) (by decide))
  have hlegible : Legible BackendMessage.keys lockedMembers := by
    have hcollects : Collects BackendMessage.keys (fun _ => none) lockedMembers _ :=
      .cons (.other hdetail (by decide)) (.cons (.field says_message (by decide) rfl
        optionalText_locked) .nil)
    exact hcollects.legible.1
  exact ⟨hurl, hreaches, hobject, hmessage, hlegible,
    (explanations_passed_on hurl hreaches hobject hmessage).1 hlegible⟩

/-- An object that says why, in front of the status of its answer. -/
def numberedBody : String := "\x7b\"message\":\"account locked\",\"status\":401\x7d"

/-- The members of this object. -/
def numberedMembers : List Member :=
  [⟨"message".toList, inQuotes "account locked"⟩, ⟨"status".toList, ['4', '0', '1']⟩]

/-- The backend says why, and its message is lost because its status is a number. -/
theorem numbered_explanation_lost :
    IsObject numberedBody.toList numberedMembers ∧
      TellsOnce numberedMembers "message" "account locked" ∧
      (BackendMessage.ofBody numberedBody).text? = none ∧
      (submission ⟨5⟩ "http://api/login" ⟨"", "", ""⟩
        [.answer (saying 401 numberedBody)]).result =
          .ok (.rejected ⟨"invalid email or password"⟩) ∧
      (enrolment ⟨5⟩ "http://api/register" ⟨"", "", ""⟩
        [.answer (saying 422 numberedBody)]).result =
          .ok (.alreadyRegistered "already registered") := by
  have hstatus : Says "status".toList "status".toList := says_toList (by decide)
  have hdigits : Whole ['4', '0', '1'] :=
    .digits ⟨List.cons_ne_nil _ _, List.all_eq_true.mp (by decide)⟩ (by decide)
  have hnumber : Value ['4', '0', '1'] := .positive (.mk hdigits .none .none)
  have hobject : IsObject numberedBody.toList numberedMembers :=
    ⟨[], _, [], Gap.nil, .cons (.first Gap.nil) says_message.quoted Gap.nil Gap.nil value_locked
      (.cons (.further Gap.nil Gap.nil) hstatus.quoted Gap.nil Gap.nil hnumber (.nil Gap.nil)),
        Gap.nil, rfl⟩
  have hmessage : TellsOnce numberedMembers "message" "account locked" := by
    refine ⟨[], _, [_], rfl, says_message, optionalText_locked, ?_⟩
    exact List.forall_mem_singleton.mpr (not_says_message (by decide) (by decide))
  have hlost : (BackendMessage.ofBody numberedBody).text? = none := by decide +kernel
  have hlogin : Url.parse "http://api/login" = .ok (shortBackend "login") := by decide +kernel
  have hregister : Url.parse "http://api/register" = .ok (shortBackend "register") := by
    decide +kernel
  have hrejected : (saying 401 numberedBody).text = numberedBody := by decide +kernel
  have hregistered : (saying 422 numberedBody).text = numberedBody := by decide +kernel
  refine ⟨hobject, hmessage, hlost, ?_, ?_⟩
  · exact (explained_of_text hlogin (c := ⟨5⟩) (by decide +kernel) hlost).rejected _ _ _ rfl
      hrejected
  · exact ((explained_of_text hregister (c := ⟨5⟩) (by decide +kernel) hlost).registered _ _ _ rfl
      hregistered).1

end CodeFlow
