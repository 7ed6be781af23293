import CodeFlow.Proofs.Flow.Registration

/-!
# One trip after another

Where a session begins with a trip, what comes of it is settled by the trip, and by the rest of the
session if the trip yields something. A trip that breaks does so before its request is sent, because
the request has no answer, or in what is read from the answer.
-/

namespace CodeFlow

open CodeFlow.Http

/-! ## Sessions that begin with a trip -/

/-- A session that is played against a script sends these requests and has this result. -/
def Session.Comes {α : Type} (s : Session α) (script : List Reply) (sent : List Request)
    (result : Except FlowError α) : Prop :=
  (s.run.play script).requests = sent ∧ (s.run.play script).result = result

namespace Trip

variable {α β : Type}

/-- The request of a trip is sent, and its reply yields something. -/
def Yields (t : Trip α) (reply : Reply) (q : Request) (v : α) : Prop :=
  t.request = .ok q ∧ t.outcome q reply = .ok v

/-- A trip ends in an error, before or behind its request. -/
inductive Breaks (t : Trip α) (reply : Reply) : List Request → FlowError → Prop where
  | unsent {e : FlowError} : t.request = .error e → Breaks t reply [] e
  | sent {q : Request} {e : FlowError} :
      t.request = .ok q → t.outcome q reply = .error e → Breaks t reply [q] e

variable {t : Trip α} {k : α → Session β} {script : List Reply} {sent : List Request} {b : β}
  {e : FlowError} {q : Request}

/-- What is played behind a trip that was sent. -/
theorem play_bind_of_ok (h : t.request = .ok q) :
    (t.session >>= k).run.play script =
      match t.outcome q (replyAt script 0) with
      | .error e => ⟨.error e, [q], t.remarks (replyAt script 0), script.tail⟩
      | .ok v =>
        let rest := (k v).run.play script.tail
        ⟨rest.result, q :: rest.requests, t.remarks (replyAt script 0) ++ rest.warnings,
          rest.unread⟩ := by
  rw [ExceptT.run_bind, Dialogue.play_bind, play_session_of_ok h]
  cases t.outcome q (replyAt script 0) with
  | error e => simp [Dialogue.play, pure]
  | ok v => rfl

theorem play_bind_of_error (h : t.request = .error e) :
    (t.session >>= k).run.play script = ⟨.error e, [], [], script⟩ := by
  rw [ExceptT.run_bind, Dialogue.play_bind, play_session_of_error h]
  rfl

/-- Two sessions, of which the first is a trip, succeed if both do. -/
theorem comes_bind_ok_iff :
    (t.session >>= k).Comes script sent (.ok b) ↔
      ∃ q v rest, t.Yields (replyAt script 0) q v ∧ (k v).Comes script.tail rest (.ok b) ∧
        sent = q :: rest := by
  unfold Session.Comes Yields
  cases hrequest : t.request with
  | error e =>
    rw [play_bind_of_error hrequest]
    simp
  | ok q =>
    rw [play_bind_of_ok hrequest]
    cases houtcome : t.outcome q (replyAt script 0) with
    | error e => simp [houtcome]
    | ok v => simp [houtcome, and_comm, eq_comm]

/-- They fail if the first does, or if the second does behind it. -/
theorem comes_bind_error_iff :
    (t.session >>= k).Comes script sent (.error e) ↔
      t.Breaks (replyAt script 0) sent e ∨
      ∃ q v rest, t.Yields (replyAt script 0) q v ∧ (k v).Comes script.tail rest (.error e) ∧
        sent = q :: rest := by
  have hbreaks : t.Breaks (replyAt script 0) sent e ↔
      (t.request = .error e ∧ sent = []) ∨
      ∃ q, t.request = .ok q ∧ t.outcome q (replyAt script 0) = .error e ∧ sent = [q] := by
    constructor
    · rintro (hrequest | ⟨hrequest, houtcome⟩)
      · exact .inl ⟨hrequest, rfl⟩
      · exact .inr ⟨_, hrequest, houtcome, rfl⟩
    · rintro (⟨hrequest, rfl⟩ | ⟨q, hrequest, houtcome, rfl⟩)
      · exact .unsent hrequest
      · exact .sent hrequest houtcome
  rw [hbreaks]
  unfold Session.Comes Yields
  cases hrequest : t.request with
  | error e =>
    rw [play_bind_of_error hrequest]
    simp [and_comm, eq_comm]
  | ok q =>
    rw [play_bind_of_ok hrequest]
    cases houtcome : t.outcome q (replyAt script 0) with
    | error e => simp [houtcome, and_comm, eq_comm]
    | ok v => simp [houtcome, and_comm, eq_comm]

end Trip

theorem Session.comes_pure_iff {α : Type} {a : α} {script : List Reply} {sent : List Request}
    {result : Except FlowError α} :
    (pure a : Session α).Comes script sent result ↔ sent = [] ∧ result = .ok a := by
  change [] = sent ∧ .ok a = result ↔ _
  simp only [eq_comm]

theorem replyAt_tail (script : List Reply) (place : Nat) :
    replyAt script.tail place = replyAt script (place + 1) := by
  simp [replyAt]

/-! ## Requests that come to nothing -/

/-- Why a request that is sent has no answer. -/
inductive Unanswered (step : Step) : Reply → FlowError → Prop where
  | unreachable : Unanswered step .unreachable (.network step .unreachable)
  | closed : Unanswered step .dropped (.network step .closed)
  | silent : Unanswered step .silent (.protocol step .timeout)

theorem Trip.outcome_eq_error_iff {α : Type} {t : Trip α} {q : Request} {reply : Reply}
    {e : FlowError} :
    t.outcome q reply = .error e ↔
      Unanswered t.step reply e ∨ ∃ a, reply = .answer a ∧ t.read q a = .error e := by
  constructor
  · intro h
    cases reply with
    | answer a => exact .inr ⟨a, rfl, h⟩
    | unreachable =>
      cases h
      exact .inl .unreachable
    | dropped =>
      cases h
      exact .inl .closed
    | silent =>
      cases h
      exact .inl .silent
  · rintro (⟨⟨⟩⟩ | ⟨a, rfl, hread⟩)
    · rfl
    · rfl
    · rfl
    · exact hread

end CodeFlow
