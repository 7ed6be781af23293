import CodeFlow.Flow.Logins
import CodeFlow.Proofs.Flow.Ending

/-!
# Turns of a flow

Operations on the logins of a flow take turns, each with its own requests. Whatever is done in
between, the requests that belong to one login are those of a single run of it: a login that was
not run is as it was begun, and one that was run makes no requests any more.
-/

namespace CodeFlow

open CodeFlow.Http

/-! ## Whose requests -/

/-- Who makes the requests of a turn: a login that was begun, by its number, or a login that is
begun and run in one turn. -/
inductive Owner where
  | begun (index : Nat)
  | once (turn : Nat)
deriving DecidableEq

/-- The login for which an operation of a turn speaks, if it speaks for one. -/
def LoginOp.owner? (turn : Nat) : LoginOp → Option Owner
  | .run index _ => some (.begun index)
  | .login _ => some (.once turn)
  | .begin => none
  | .register _ => none
  | .verify _ => none
  | .finish _ => none

/-- One operation on the logins of a flow, for whom it spoke, and what it asked. -/
structure Turn where
  op : LoginOp
  owner? : Option Owner
  requests : List Request

/-- The requests of all turns that spoke for a login. -/
def requestsBy (o : Owner) (turns : List Turn) : List Request :=
  (turns.filter fun t => t.owner? = some o).flatMap Turn.requests

namespace Logins

variable (f : LoginFlow) (source : DrawSource)

/-- What happens when an operation is performed against a script. -/
def played (s : Logins) (op : LoginOp) (script : List Reply) :
    Dialogue.Transcript (LoginAnswer × Logins) :=
  (s.perform f source op).play script

/-- The turns of several operations, each played against what those before it have left. -/
def turns (s : Logins) : List LoginOp → List Reply → List Turn
  | [], _ => []
  | op :: ops, script =>
    ⟨op, op.owner? s.turn, (s.played f source op script).requests⟩ ::
      (s.played f source op script).result.2.turns ops (s.played f source op script).unread

/-- The turns hold all requests of the operations, in their order. -/
theorem requests_performAll (s : Logins) (ops : List LoginOp) (script : List Reply) :
    ((s.performAll f source ops).play script).requests =
      (s.turns f source ops script).flatMap Turn.requests := by
  induction ops generalizing s script with
  | nil => rfl
  | cons op ops ih =>
    have hplay : (s.performAll f source (op :: ops)).play script =
        ((s.perform f source op) >>= fun p => p.2.performAll f source ops >>= fun p' =>
          pure (p.1 :: p'.1, p'.2)).play script := rfl
    rw [hplay, Dialogue.play_bind]
    simp only [Dialogue.play_map]
    rw [ih]
    rfl

end Logins

/-! ## Single turns -/

namespace Logins

variable {f : LoginFlow} {source : DrawSource} {s : Logins} {script : List Reply}

theorem played_begin :
    s.played f source .begin script =
      ⟨(.begun s.attempts.length
          (LoginFlow.begin (source s.turn).verifier (source s.turn).state),
        { s.next with attempts := s.attempts ++
          [some (LoginFlow.begin (source s.turn).verifier (source s.turn).state)] }),
        [], [], script⟩ := rfl

theorem played_run_of_some {index : Nat} {c : Credentials} {a : Attempt}
    (h : s.attempt? index = some a) :
    s.played f source (.run index c) script =
      let t := (a.run f (source s.turn).password c).play script
      ⟨(.ran t.result.1 t.result.2, s.next.set index (some t.result.2)), t.requests, t.warnings,
        t.unread⟩ := by
  unfold played perform
  simp only [h]
  change (a.run f (source s.turn).password c >>= fun p =>
    pure (LoginAnswer.ran p.1 p.2, s.next.set index (some p.2))).play script = _
  rw [Dialogue.play_map]

theorem played_run_of_none {index : Nat} {c : Credentials} (h : s.attempt? index = Option.none) :
    s.played f source (.run index c) script = ⟨(.noAttempt, s.next), [], [], script⟩ := by
  unfold played perform
  simp only [h]
  rfl

theorem played_login {c : Credentials} :
    s.played f source (.login c) script =
      let t := ((LoginFlow.begin (source s.turn).verifier (source s.turn).state).run f
        (source s.turn).password c).play script
      ⟨(.loggedIn t.result.1, s.next), t.requests, t.warnings, t.unread⟩ := by
  unfold played perform LoginFlow.login
  change ((LoginFlow.begin (source s.turn).verifier (source s.turn).state).run f
    (source s.turn).password c >>= fun p =>
      pure (LoginAnswer.loggedIn p.1, s.next)).play script = _
  rw [Dialogue.play_map]

theorem played_register_next {c : Credentials} :
    (s.played f source (.register c) script).result.2 = s.next := by
  unfold played perform
  rw [Dialogue.play_map _ (fun result => (LoginAnswer.registered result, s.next))]

theorem played_verify_next {code : String} :
    (s.played f source (.verify code) script).result.2 = s.next := by
  unfold played perform
  rw [Dialogue.play_map _ (fun result => (LoginAnswer.verified result, s.next))]

theorem played_finish_of_some {index : Nat} {a : Attempt} (h : s.attempt? index = some a) :
    s.played f source (.finish index) script =
      ⟨(.finished a.state, s.next.set index Option.none), [], [], script⟩ := by
  unfold played perform
  simp only [h]
  rfl

theorem played_finish_of_none {index : Nat} (h : s.attempt? index = Option.none) :
    s.played f source (.finish index) script = ⟨(.noAttempt, s.next), [], [], script⟩ := by
  unfold played perform
  simp only [h]
  rfl

end Logins

/-! ## Places of a list -/

/-- Behind all others stands the last one. -/
theorem getElem?_concat_cases {α : Type} {xs : List α} {x y : α} {i : Nat}
    (h : (xs ++ [x])[i]? = some y) : xs[i]? = some y ∨ (i = xs.length ∧ y = x) := by
  by_cases hlt : i < xs.length
  · rw [List.getElem?_append_left hlt] at h
    exact .inl h
  · rw [List.getElem?_append_right (Nat.le_of_not_lt hlt), List.getElem?_singleton] at h
    split at h
    · cases h
      exact .inr ⟨by omega, rfl⟩
    · cases h

theorem getElem?_set_cases {α : Type} {xs : List α} {x y : α} {i j : Nat}
    (h : (xs.set i x)[j]? = some y) : xs[j]? = some y ∨ (i = j ∧ y = x) := by
  rw [List.getElem?_set] at h
  split at h
  · rename_i hplace
    split at h
    · exact .inr ⟨hplace, (Option.some.inj h).symm⟩
    · cases h
  · exact .inl h

/-! ## Stored logins -/

/-- A login as it was begun in some turn. -/
def Attempt.IsBegun (source : DrawSource) (a : Attempt) : Prop :=
  ∃ turn, a = LoginFlow.begin (source turn).verifier (source turn).state

theorem Attempt.IsBegun.state_eq {source : DrawSource} {a : Attempt} (h : a.IsBegun source) :
    a.state = .new := by
  obtain ⟨turn, rfl⟩ := h
  rfl

/-- A login that was begun or is closed is closed once it was run. -/
theorem Attempt.isTerminal_run {source : DrawSource} {a : Attempt}
    (h : a.IsBegun source ∨ a.state.stage.isTerminal = true) (f : LoginFlow) (seed : Draw 32)
    (c : Credentials) (script : List Reply) :
    ((a.run f seed c).play script).result.2.state.stage.isTerminal = true := by
  rcases h with hbegun | hclosed
  · exact (LoginRun.closes (r := ⟨f, a, seed, c⟩) hbegun.state_eq script).ended.terminal
  · rw [Attempt.run_of_terminal hclosed]
    exact hclosed

namespace Logins

variable {f : LoginFlow} {source : DrawSource} {s : Logins}

/-- Each stored login is as it was begun, or closed. -/
def Sound (source : DrawSource) (s : Logins) : Prop :=
  ∀ index a, s.attempt? index = some a → a.IsBegun source ∨ a.state.stage.isTerminal = true

/-- A login that makes no requests any more: it was run or finished, or its turn is over. -/
def Spent (s : Logins) : Owner → Prop
  | .begun index =>
    index < s.attempts.length ∧ ∀ a, s.attempt? index = some a → a.state.stage.isTerminal = true
  | .once turn => turn < s.turn

theorem attempt?_eq_some_iff {index : Nat} {a : Attempt} :
    s.attempt? index = some a ↔ s.attempts[index]? = some (some a) :=
  Option.join_eq_some_iff

theorem attempt?_lt {index : Nat} {a : Attempt} (h : s.attempt? index = some a) :
    index < s.attempts.length := by
  obtain ⟨hlt, -⟩ := List.getElem?_eq_some_iff.mp (attempt?_eq_some_iff.mp h)
  exact hlt

/-- What an operation leads to: the next turn, and the logins that were there, or one more as it is
begun, or a closed one, or none, in the place of another. -/
structure Moves (source : DrawSource) (s s' : Logins) : Prop where
  turn : s'.turn = s.turn + 1
  attempts : s'.attempts = s.attempts ∨
    (∃ a, a.IsBegun source ∧ s'.attempts = s.attempts ++ [some a]) ∨
    ∃ index stored, s'.attempts = s.attempts.set index stored ∧
      ∀ a, stored = some a → a.state.stage.isTerminal = true

theorem moves_next (s : Logins) : s.Moves source s.next :=
  ⟨rfl, .inl rfl⟩

theorem moves_next_set {index : Nat} {stored : Option Attempt}
    (h : ∀ a, stored = some a → a.state.stage.isTerminal = true) :
    s.Moves source (s.next.set index stored) :=
  ⟨rfl, .inr (.inr ⟨index, stored, rfl, h⟩)⟩

theorem moves_played (h : s.Sound source) (op : LoginOp) (script : List Reply) :
    s.Moves source (s.played f source op script).result.2 := by
  cases op with
  | begin =>
    rw [played_begin]
    exact ⟨rfl, .inr (.inl ⟨_, ⟨s.turn, rfl⟩, rfl⟩)⟩
  | run index c =>
    cases hstored : s.attempt? index with
    | none =>
      rw [played_run_of_none hstored]
      exact s.moves_next
    | some a =>
      rw [played_run_of_some hstored]
      refine moves_next_set ?_
      rintro _ ⟨⟩
      exact Attempt.isTerminal_run (h index a hstored) f _ c script
  | login c =>
    rw [played_login]
    exact s.moves_next
  | register c =>
    rw [played_register_next]
    exact s.moves_next
  | verify code =>
    rw [played_verify_next]
    exact s.moves_next
  | finish index =>
    cases hstored : s.attempt? index with
    | none =>
      rw [played_finish_of_none hstored]
      exact s.moves_next
    | some a =>
      rw [played_finish_of_some hstored]
      exact moves_next_set fun _ h => nomatch h

variable {s' : Logins}

theorem Moves.length_le (h : s.Moves source s') : s.attempts.length ≤ s'.attempts.length := by
  rcases h.attempts with heq | ⟨b, -, heq⟩ | ⟨other, stored, heq, -⟩ <;> rw [heq] <;> simp

/-- A login that is stored was stored before, unless it is as it is begun, or closed. -/
theorem Moves.attempt? (h : s.Moves source s') {index : Nat} {a : Attempt}
    (ha : s'.attempt? index = some a) :
    s.attempt? index = some a ∨ a.state.stage.isTerminal = true ∨
      (a.IsBegun source ∧ index = s.attempts.length) := by
  rw [attempt?_eq_some_iff] at ha ⊢
  rcases h.attempts with heq | ⟨b, hbegun, heq⟩ | ⟨other, stored, heq, hclosed⟩
  · rw [heq] at ha
    exact .inl ha
  · rw [heq] at ha
    rcases getElem?_concat_cases ha with hstored | ⟨hindex, hb⟩
    · exact .inl hstored
    · cases hb
      exact .inr (.inr ⟨hbegun, hindex⟩)
  · rw [heq] at ha
    rcases getElem?_set_cases ha with hstored | ⟨-, hset⟩
    · exact .inl hstored
    · exact .inr (.inl (hclosed a hset.symm))

theorem sound_none (source : DrawSource) : none.Sound source := by
  intro index a ha
  cases attempt?_lt ha

theorem Sound.moves (h : s.Sound source) (hmoves : s.Moves source s') : s'.Sound source := by
  intro index a ha
  rcases hmoves.attempt? ha with hstored | hclosed | ⟨hbegun, -⟩
  · exact h index a hstored
  · exact .inr hclosed
  · exact .inl hbegun

/-- What is spent stays spent. -/
theorem Spent.moves {o : Owner} (hspent : s.Spent o) (hmoves : s.Moves source s') :
    s'.Spent o := by
  cases o with
  | begun index =>
    obtain ⟨hlt, hclosed⟩ := hspent
    refine ⟨Nat.lt_of_lt_of_le hlt hmoves.length_le, fun a ha => ?_⟩
    rcases hmoves.attempt? ha with hstored | hclosed' | ⟨-, heq⟩
    · exact hclosed a hstored
    · exact hclosed'
    · exact absurd heq (Nat.ne_of_lt hlt)
  | once turn =>
    change turn < s'.turn
    rw [hmoves.turn]
    exact Nat.lt_succ_of_lt hspent

/-! ## The requests of one login -/

/-- A turn that speaks for a spent login makes no requests. -/
theorem requests_of_spent {o : Owner} (hspent : s.Spent o) {op : LoginOp}
    (howner : op.owner? s.turn = some o) (script : List Reply) :
    (s.played f source op script).requests = [] := by
  cases op with
  | run index c =>
    cases howner
    cases hstored : s.attempt? index with
    | none => rw [played_run_of_none hstored]
    | some a =>
      rw [played_run_of_some hstored, Attempt.run_of_terminal (hspent.2 a hstored)]
      rfl
  | login c =>
    cases howner
    exact absurd hspent (Nat.lt_irrefl s.turn)
  | begin => cases howner
  | register c => cases howner
  | verify code => cases howner
  | finish index => cases howner

/-- The requests of the only run of a login of the flow. -/
def OnlyRun (f : LoginFlow) (source : DrawSource) (requests : List Request) : Prop :=
  ∃ (r : LoginRun) (script : List Reply), r.flow = f ∧ r.attempt.IsBegun source ∧
    requests = (r.dialogue.play script).requests

theorem onlyRun_run {a : Attempt} (h : a.IsBegun source) (seed : Draw 32) (c : Credentials)
    (script : List Reply) : OnlyRun f source ((a.run f seed c).play script).requests := by
  refine ⟨⟨f, a, seed, c⟩, script, rfl, h, ?_⟩
  rw [LoginRun.dialogue_mk]

/-- A login that was run in its place is spent. -/
theorem spent_next_set {index : Nat} {a : Attempt} (hlt : index < s.attempts.length)
    (h : a.state.stage.isTerminal = true) : (s.next.set index (some a)).Spent (.begun index) := by
  have hattempts : (s.next.set index (some a)).attempts = s.attempts.set index (some a) := rfl
  refine ⟨by rwa [hattempts, List.length_set], fun b hb => ?_⟩
  rw [attempt?_eq_some_iff, hattempts, List.getElem?_set_self hlt] at hb
  cases hb
  exact h

/-- A turn that speaks for a login makes no requests, or runs it, and then the login is spent. -/
theorem requests_of_owner (h : s.Sound source) {o : Owner} {op : LoginOp}
    (howner : op.owner? s.turn = some o) (script : List Reply) :
    (s.played f source op script).requests = [] ∨
      (OnlyRun f source (s.played f source op script).requests ∧
        (s.played f source op script).result.2.Spent o) := by
  cases op with
  | run index c =>
    cases howner
    cases hstored : s.attempt? index with
    | none =>
      rw [played_run_of_none hstored]
      exact .inl rfl
    | some a =>
      rw [played_run_of_some hstored]
      rcases h index a hstored with hbegun | hclosed
      · exact .inr ⟨onlyRun_run hbegun _ c script, spent_next_set (attempt?_lt hstored)
          (Attempt.isTerminal_run (.inl hbegun) f _ c script)⟩
      · rw [Attempt.run_of_terminal hclosed]
        exact .inl rfl
  | login c =>
    cases howner
    rw [played_login]
    dsimp only
    have hbegun : (LoginFlow.begin (source s.turn).verifier (source s.turn).state).IsBegun source :=
      ⟨s.turn, rfl⟩
    exact .inr ⟨onlyRun_run hbegun _ c script, Nat.lt_succ_self s.turn⟩
  | begin => cases howner
  | register c => cases howner
  | verify code => cases howner
  | finish index => cases howner

theorem requestsBy_cons (o : Owner) (t : Turn) (ts : List Turn) :
    requestsBy o (t :: ts) = if t.owner? = some o then t.requests ++ requestsBy o ts
      else requestsBy o ts := by
  unfold requestsBy
  rw [List.filter_cons]
  split
  · rename_i h
    rw [if_pos (of_decide_eq_true h)]
    rfl
  · rename_i h
    rw [if_neg fun h' => h (decide_eq_true h')]

theorem requestsBy_of_spent {o : Owner} (hspent : s.Spent o) (h : s.Sound source)
    (ops : List LoginOp) (script : List Reply) :
    requestsBy o (s.turns f source ops script) = [] := by
  induction ops generalizing s script with
  | nil => rfl
  | cons op ops ih =>
    -- the operation leaves the login spent, so the turns behind it say nothing for it
    have hmoves := moves_played (f := f) h op script
    rw [turns, requestsBy_cons, ih (hspent.moves hmoves) (h.moves hmoves)]
    split
    · rename_i howner
      rw [requests_of_spent hspent howner, List.append_nil]
    · rfl

/-- Whatever is done with a flow, the requests that belong to a login are those of one run. -/
theorem requestsBy_turns (h : s.Sound source) (o : Owner) (ops : List LoginOp)
    (script : List Reply) :
    requestsBy o (s.turns f source ops script) = [] ∨
      OnlyRun f source (requestsBy o (s.turns f source ops script)) := by
  induction ops generalizing s script with
  | nil => exact .inl rfl
  | cons op ops ih =>
    have hmoves := moves_played (f := f) h op script
    have hrest := ih (h.moves hmoves) (s.played f source op script).unread
    rw [turns, requestsBy_cons]
    split
    · rename_i howner
      rcases requests_of_owner h howner script with hempty | ⟨hrun, hspent⟩
      · rw [hempty]
        exact hrest
      -- this is the run of the login; all later turns for it are empty
      · rw [requestsBy_of_spent hspent (h.moves hmoves), List.append_nil]
        exact .inr hrun
    · exact hrest

end Logins

end CodeFlow
