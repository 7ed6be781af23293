import CodeFlow.Flow.Client
import Mathlib.Data.List.TakeDrop

/-!
# Conversations

A dialogue that is held leaves a log: its requests, each with the reply it got. `Dialogue.Holds`
says which logs, warnings and results a dialogue admits, without a script. Playing against a script
holds the dialogue with the first replies of the script and reads no others (`holds_play`,
`play_unread`, `play_congr`), and a composed dialogue is held piece by piece.
-/

namespace CodeFlow

open CodeFlow.Http

/-- Requests with the replies they got, in the order in which they were sent. -/
abbrev Log := List (Request × Reply)

/-! ## Places in a script -/

/-- The reply in a place of a script; there is none behind its end. -/
def replyAt (script : List Reply) (place : Nat) : Reply :=
  script[place]?.getD .dropped

theorem replyAt_of_answer {script : List Reply} {place : Nat} {a : Answer}
    (h : script[place]? = some (.answer a)) : replyAt script place = .answer a := by
  rw [replyAt, h, Option.getD_some]

theorem replyAt_eq_answer_iff {script : List Reply} {place : Nat} {a : Answer} :
    replyAt script place = .answer a ↔ script[place]? = some (.answer a) := by
  constructor
  · intro h
    unfold replyAt at h
    cases hplace : script[place]? with
    | none => simp [hplace] at h
    | some reply => simpa [hplace] using h
  · exact replyAt_of_answer

namespace Dialogue

variable {α β : Type}

/-! ## Holding a dialogue -/

/-- A dialogue, a log of its requests with their replies, its warnings and its result. -/
inductive Holds : Dialogue α → Log → List Warning → α → Prop where
  | done (a : α) : Holds (.done a) [] [] a
  | send {r : Request} {next : Reply → Dialogue α} {reply : Reply} {log : Log}
      {ws : List Warning} {a : α} :
      Holds (next reply) log ws a → Holds (.send r next) ((r, reply) :: log) ws a
  | warn {w : Warning} {next : Dialogue α} {log : Log} {ws : List Warning} {a : α} :
      Holds next log ws a → Holds (.warn w next) log (w :: ws) a

variable {d : Dialogue α} {exchanges : Log} {ws : List Warning}

@[simp] theorem holds_done_iff {a b : α} :
    (Dialogue.done a).Holds exchanges ws b ↔ exchanges = [] ∧ ws = [] ∧ b = a := by
  constructor
  · rintro ⟨⟩
    exact ⟨rfl, rfl, rfl⟩
  · rintro ⟨rfl, rfl, rfl⟩
    exact .done b

theorem holds_send_iff {r : Request} {next : Reply → Dialogue α} {a : α} :
    (Dialogue.send r next).Holds exchanges ws a ↔
      ∃ reply rest, exchanges = (r, reply) :: rest ∧ (next reply).Holds rest ws a := by
  constructor
  · rintro (_ | h)
    exact ⟨_, _, rfl, h⟩
  · rintro ⟨reply, rest, rfl, h⟩
    exact .send h

theorem holds_warn_iff {w : Warning} {next : Dialogue α} {a : α} :
    (Dialogue.warn w next).Holds exchanges ws a ↔
      ∃ rest, ws = w :: rest ∧ next.Holds exchanges rest a := by
  constructor
  · rintro (_ | _ | h)
    exact ⟨_, rfl, h⟩
  · rintro ⟨rest, rfl, h⟩
    exact .warn h

/-- A composed dialogue is held in two pieces. -/
theorem holds_andThen_iff {f : α → Dialogue β} {b : β} :
    (d.andThen f).Holds exchanges ws b ↔
      ∃ a log₁ log₂ ws₁ ws₂, d.Holds log₁ ws₁ a ∧ (f a).Holds log₂ ws₂ b ∧
        exchanges = log₁ ++ log₂ ∧ ws = ws₁ ++ ws₂ := by
  constructor
  · intro h
    induction d generalizing exchanges ws with
    | done a => exact ⟨a, [], exchanges, [], ws, .done a, h, rfl, rfl⟩
    | send r next ih =>
      obtain ⟨reply, rest, rfl, hrest⟩ := holds_send_iff.mp h
      obtain ⟨a, log₁, log₂, ws₁, ws₂, h₁, h₂, rfl, rfl⟩ := ih reply hrest
      exact ⟨a, _, log₂, ws₁, ws₂, .send h₁, h₂, rfl, rfl⟩
    | warn w next ih =>
      obtain ⟨rest, rfl, hrest⟩ := holds_warn_iff.mp h
      obtain ⟨a, log₁, log₂, ws₁, ws₂, h₁, h₂, rfl, rfl⟩ := ih hrest
      exact ⟨a, log₁, log₂, _, ws₂, .warn h₁, h₂, rfl, rfl⟩
  · rintro ⟨a, log₁, log₂, ws₁, ws₂, h₁, h₂, rfl, rfl⟩
    induction h₁ with
    | done a => exact h₂
    | send _ ih => exact .send (ih h₂)
    | warn _ ih => exact .warn (ih h₂)

theorem holds_bind_iff {f : α → Dialogue β} {b : β} :
    (d >>= f).Holds exchanges ws b ↔
      ∃ a log₁ log₂ ws₁ ws₂, d.Holds log₁ ws₁ a ∧ (f a).Holds log₂ ws₂ b ∧
        exchanges = log₁ ++ log₂ ∧ ws = ws₁ ++ ws₂ :=
  holds_andThen_iff

@[simp] theorem holds_pure_iff {a b : α} :
    (pure a : Dialogue α).Holds exchanges ws b ↔ exchanges = [] ∧ ws = [] ∧ b = a :=
  holds_done_iff

/-! ## Scripts -/

/-- The requests that were sent, each with the reply that a script has in its place; there is no
answer once the script is used up. -/
def Transcript.log (t : Transcript α) (script : List Reply) : Log :=
  t.requests.zip (List.takeD t.requests.length script .dropped)

theorem Transcript.map_fst_log (t : Transcript α) (script : List Reply) :
    (t.log script).map Prod.fst = t.requests :=
  List.map_fst_zip (by simp)

theorem Transcript.map_snd_log (t : Transcript α) (script : List Reply) :
    (t.log script).map Prod.snd = List.takeD t.requests.length script .dropped :=
  List.map_snd_zip (by simp)

theorem Transcript.length_log (t : Transcript α) (script : List Reply) :
    (t.log script).length = t.requests.length := by
  rw [← t.map_fst_log script, List.length_map]

/-- Sending takes the next reply off the script, whether or not there is one left. -/
theorem play_send (r : Request) (next : Reply → Dialogue α) (script : List Reply) :
    (Dialogue.send r next).play script =
      { (next (script.head?.getD .dropped)).play script.tail with
        requests := r :: ((next (script.head?.getD .dropped)).play script.tail).requests } := by
  cases script <;> rfl

/-- The i-th request is answered by the i-th reply. -/
theorem holds_play (d : Dialogue α) (script : List Reply) :
    d.Holds ((d.play script).log script) (d.play script).warnings (d.play script).result := by
  induction d generalizing script with
  | done a => exact .done a
  | send r next ih =>
    rw [play_send]
    simp only [Transcript.log, List.length_cons, List.takeD_succ, List.zip_cons_cons]
    exact .send (ih _ script.tail)
  | warn w next ih => exact .warn (ih script)

/-- What is left of a script are the replies behind those that were asked for. -/
theorem play_unread (d : Dialogue α) (script : List Reply) :
    (d.play script).unread = script.drop (d.play script).requests.length := by
  induction d generalizing script with
  | done a => rfl
  | send r next ih =>
    rw [play_send]
    simp only [List.length_cons, ih, List.drop_tail]
  | warn w next ih => exact ih script

/-- Nothing depends on replies that were not asked for. -/
theorem play_congr (d : Dialogue α) {script script' : List Reply}
    (h : List.takeD (d.play script).requests.length script' .dropped =
      List.takeD (d.play script).requests.length script .dropped) :
    (d.play script').result = (d.play script).result ∧
      (d.play script').requests = (d.play script).requests ∧
      (d.play script').warnings = (d.play script).warnings := by
  induction d generalizing script script' with
  | done a => exact ⟨rfl, rfl, rfl⟩
  | send r next ih =>
    simp only [play_send, List.length_cons, List.takeD_succ, List.cons.injEq] at h ⊢
    obtain ⟨hhead, htail⟩ := h
    rw [hhead]
    obtain ⟨hresult, hrequests, hwarnings⟩ := ih _ htail
    exact ⟨hresult, ⟨trivial, hrequests⟩, hwarnings⟩
  | warn w next ih =>
    obtain ⟨hresult, hrequests, hwarnings⟩ := ih h
    exact ⟨hresult, hrequests, congrArg (w :: ·) hwarnings⟩

/-- A composed dialogue is played piece by piece, the second on what the first has left. -/
theorem play_bind (d : Dialogue α) (f : α → Dialogue β) (script : List Reply) :
    (d >>= f).play script =
      let t := d.play script
      let t' := (f t.result).play t.unread
      ⟨t'.result, t.requests ++ t'.requests, t.warnings ++ t'.warnings, t'.unread⟩ := by
  change (d.andThen f).play script = _
  induction d generalizing script with
  | done a => rfl
  | send r next ih => simp only [andThen, play_send, ih, List.cons_append]
  | warn w next ih => simp only [andThen, play, ih, List.cons_append]

/-- A result that is only rewritten does not change what is said. -/
theorem play_map (d : Dialogue α) (g : α → β) (script : List Reply) :
    (d >>= fun a => pure (g a)).play script =
      ⟨g (d.play script).result, (d.play script).requests, (d.play script).warnings,
        (d.play script).unread⟩ := by
  rw [play_bind]
  change Transcript.mk _ (_ ++ []) (_ ++ []) _ = _
  rw [List.append_nil, List.append_nil]
  rfl

end Dialogue

end CodeFlow
