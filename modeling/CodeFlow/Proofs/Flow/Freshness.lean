import CodeFlow.Proofs.Flow.Interleaving
import CodeFlow.Proofs.Flow.Possession
import CodeFlow.Proofs.Pkce
import Mathlib.Data.List.Nodup

/-!
# Fresh logins

Every login is begun from the draws of a turn of its own (`pairwise_births`), and it keeps what was
made of them through all that happens on a desk (`Desk.Sound.after`): nothing is drawn anew, and
nothing is taken over from another login.
-/

namespace CodeFlow

open CodeFlow.Http

/-! ## What is made of draws -/

/-- The verifier that is made of the draws of a login. -/
def LoginDraws.verifierText (d : LoginDraws) : String :=
  Pkce.verifierOf d.verifier.toList

/-- The state that is made of them. -/
def LoginDraws.stateText (d : LoginDraws) : String :=
  Pkce.stateOf d.state.toList

/-- A login that was begun from draws: it has kept what was made of them, and it was not run yet or
is closed. -/
structure Attempt.StemsFrom (d : LoginDraws) (a : Attempt) : Prop where
  verifier : a.verifier = d.verifierText
  oauthState : a.oauthState = d.stateText
  stage : a.state = .new ∨ a.state.stage.isTerminal = true

namespace Attempt

variable {d : LoginDraws} {a : Attempt}

theorem stemsFrom_begin (d : LoginDraws) : (LoginFlow.begin d.verifier d.state).StemsFrom d :=
  ⟨rfl, rfl, .inl rfl⟩

theorem StemsFrom.eq_begin (h : a.StemsFrom d) (hnew : a.state = .new) :
    a = LoginFlow.begin d.verifier d.state := by
  obtain ⟨verifier, oauthState, state⟩ := a
  obtain ⟨rfl, rfl, -⟩ := h
  cases hnew
  rfl

/-- A run draws nothing anew. -/
theorem run_keeps (a : Attempt) (f : LoginFlow) (seed : Draw 32) (c : Credentials)
    (script : List Reply) :
    ((a.run f seed c).play script).result.2.verifier = a.verifier ∧
      ((a.run f seed c).play script).result.2.oauthState = a.oauthState := by
  have hrun : a.run f seed c = ((a.drive f seed c).run.run a.state >>= fun p =>
      pure (p.1, { a with state := close p.1 p.2 })) := rfl
  rw [hrun, Dialogue.play_map]
  exact ⟨rfl, rfl⟩

theorem StemsFrom.run (h : a.StemsFrom d) (f : LoginFlow) (seed : Draw 32) (c : Credentials)
    (script : List Reply) : ((a.run f seed c).play script).result.2.StemsFrom d := by
  obtain ⟨hverifier, hstate⟩ := a.run_keeps f seed c script
  refine ⟨hverifier.trans h.verifier, hstate.trans h.oauthState, .inr ?_⟩
  rcases h.stage with hnew | hclosed
  · exact (LoginRun.closes (r := ⟨f, a, seed, c⟩) hnew script).ended.terminal
  · rw [run_of_terminal hclosed]
    exact hclosed

/-- A login that is run just as it was begun is run as it is begun. -/
theorem run_begin (f : LoginFlow) (d : LoginDraws) (seed : Draw 32) (c : Credentials) :
    (LoginFlow.begin d.verifier d.state).run f seed c = f.login { d with password := seed } c :=
  rfl

/-- A login makes the requests that it makes when it is begun and run at once, or none. -/
theorem StemsFrom.requests (h : a.StemsFrom d) (f : LoginFlow) (seed : Draw 32) (c : Credentials)
    (script : List Reply) :
    ((a.run f seed c).play script).requests = [] ∨
      ((a.run f seed c).play script).requests =
        ((f.login { d with password := seed } c).play script).requests := by
  rcases h.stage with hnew | hclosed
  -- a login that was not run is still as it was begun
  · rw [h.eq_begin hnew, run_begin]
    exact .inr rfl
  · rw [run_of_terminal hclosed]
    exact .inl rfl

end Attempt

/-! ## Births -/

/-- The login that an operation begins: in a place of its own if it is kept, where some number of
logins are there already. -/
def LoginOp.birth? (index turn : Nat) : LoginOp → Option Owner
  | .begin => some (.begun index)
  | .login _ => some (.once turn)
  | .run _ _ => none
  | .register _ => none
  | .verify _ => none
  | .finish _ => none

/-- How many logins it leaves to be run. -/
def LoginOp.begins : LoginOp → Nat
  | .begin => 1
  | _ => 0

/-- The logins that operations begin, each with the turn whose draws it is begun from. -/
def births (index turn : Nat) : List LoginOp → List (Owner × Nat)
  | [] => []
  | op :: ops =>
    ((op.birth? index turn).map (·, turn)).toList ++ births (index + op.begins) (turn + 1) ops

section Births

variable {index turn : Nat} {op : LoginOp} {ops : List LoginOp} {p : Owner × Nat}

/-- A login that an operation begins is not there yet. -/
def Owner.AtLeast (index turn : Nat) : Owner → Prop
  | .begun i => index ≤ i
  | .once t => turn ≤ t

theorem atLeast_of_mem_births (h : p ∈ births index turn ops) :
    p.1.AtLeast index turn ∧ turn ≤ p.2 := by
  induction ops generalizing index turn with
  | nil => cases h
  | cons op ops ih =>
    rcases List.mem_append.mp h with hhere | hlater
    · cases op <;> simp [LoginOp.birth?] at hhere <;> subst hhere <;>
        exact ⟨Nat.le_refl _, Nat.le_refl _⟩
    · obtain ⟨howner, hturn⟩ := ih hlater
      refine ⟨?_, Nat.le_of_succ_le hturn⟩
      rcases p with ⟨i | t, turn'⟩
      · exact Nat.le_trans (Nat.le_add_right _ _) howner
      · exact Nat.le_of_succ_le howner

/-- Logins are begun one after another. -/
theorem pairwise_births (index turn : Nat) (ops : List LoginOp) :
    (births index turn ops).Pairwise fun p q => p.1 ≠ q.1 ∧ p.2 < q.2 := by
  induction ops generalizing index turn with
  | nil => exact .nil
  | cons op ops ih =>
    rw [births, List.pairwise_append]
    refine ⟨?_, ih _ _, ?_⟩
    · cases op.birth? index turn <;> simp
    -- what is begun here is not among what is begun later
    · intro p hp q hq
      obtain ⟨howner, hturn⟩ := atLeast_of_mem_births hq
      cases op with
      | begin =>
        obtain rfl := List.mem_singleton.mp hp
        refine ⟨fun heq => ?_, hturn⟩
        rw [← heq] at howner
        exact Nat.not_succ_le_self index howner
      | login c =>
        obtain rfl := List.mem_singleton.mp hp
        refine ⟨fun heq => ?_, hturn⟩
        rw [← heq] at howner
        exact Nat.not_succ_le_self turn howner
      | run i c => cases hp
      | register c => cases hp
      | verify code => cases hp
      | finish i => cases hp

end Births

/-! ## Logins on a desk -/

/-- A login in a place was begun there, from the draws of its turn. -/
def Attempt.BornAmong (source : DrawSource) (born : List (Owner × Nat)) (index : Nat)
    (a : Attempt) : Prop :=
  ∃ turn, (.begun index, turn) ∈ born ∧ a.StemsFrom (source turn)

theorem Attempt.BornAmong.append {source : DrawSource} {born : List (Owner × Nat)} {index : Nat}
    {a : Attempt} (h : a.BornAmong source born index) (more : List (Owner × Nat)) :
    a.BornAmong source (born ++ more) index := by
  obtain ⟨turn, hborn, hstems⟩ := h
  exact ⟨turn, List.mem_append_left more hborn, hstems⟩

namespace Logins

variable {f : LoginFlow} {source : DrawSource} {s : Logins} {op : LoginOp} {index : Nat}
  {a : Attempt}

theorem attempt?_set {place : Nat} {stored : Option Attempt}
    (h : (s.set place stored).attempt? index = some a) :
    s.attempt? index = some a ∨ (place = index ∧ stored = some a) := by
  rw [attempt?_eq_some_iff] at h ⊢
  rcases getElem?_set_cases h with hstored | ⟨hplace, hset⟩
  · exact .inl hstored
  · exact .inr ⟨hplace, hset.symm⟩

theorem attempt?_set_ne {place : Nat} (h : place ≠ index) (stored : Option Attempt) :
    (s.set place stored).attempt? index = s.attempt? index := by
  unfold attempt? set
  rw [List.getElem?_set_ne h]

/-- A login that is there once an operation is started was there before, or is begun by it. -/
theorem attempt?_lend (h : (s.lend source op).attempt? index = some a) :
    s.attempt? index = some a ∨ (op = .begin ∧ index = s.attempts.length ∧
      a = LoginFlow.begin (source s.turn).verifier (source s.turn).state) := by
  cases op with
  | begin =>
    rw [attempt?_eq_some_iff] at h ⊢
    rcases getElem?_concat_cases h with hstored | ⟨hindex, hbegun⟩
    · exact .inl hstored
    · exact .inr ⟨rfl, hindex, Option.some.inj hbegun⟩
  | run i c =>
    rcases attempt?_set h with hstored | ⟨-, hnone⟩
    · exact .inl hstored
    · cases hnone
  | finish i =>
    rcases attempt?_set h with hstored | ⟨-, hnone⟩
    · exact .inl hstored
    · cases hnone
  | login c => exact .inl h
  | register c => exact .inl h
  | verify code => exact .inl h

/-- A login that is there once an operation is over was there before, or was run by it. -/
theorem attempt?_settle {answer? : Option LoginAnswer}
    (h : (s.settle op answer?).attempt? index = some a) :
    s.attempt? index = some a ∨
      ∃ c result, op = .run index c ∧ answer? = some (.ran result a) := by
  unfold settle at h
  split at h
  · rename_i i c result stored
    rcases attempt?_set h with hstored | ⟨rfl, hrun⟩
    · exact .inl hstored
    · cases hrun
      exact .inr ⟨c, result, rfl, rfl⟩
  · exact .inl h

theorem attempt?_settle_of_ne (h : ∀ c, op ≠ .run index c) (answer? : Option LoginAnswer) :
    (s.settle op answer?).attempt? index = s.attempt? index := by
  unfold settle
  split
  · rename_i i c result a
    apply attempt?_set_ne
    rintro rfl
    exact h c rfl
  · rfl

theorem length_lend : (s.lend source op).attempts.length = s.attempts.length + op.begins := by
  cases op <;> simp [lend, LoginOp.begins, next, set]

theorem turn_lend : (s.lend source op).turn = s.turn + 1 := by
  cases op <;> rfl

theorem length_settle (answer? : Option LoginAnswer) :
    (s.settle op answer?).attempts.length = s.attempts.length := by
  unfold settle
  split
  · exact List.length_set
  · rfl

theorem turn_settle (answer? : Option LoginAnswer) : (s.settle op answer?).turn = s.turn := by
  unfold settle
  split <;> rfl

end Logins

namespace Desk

variable {f : LoginFlow} {source : DrawSource} {k : Desk} {born : List (Owner × Nat)}

/-- All logins come from births: those that are there, and those that operations bring back. -/
structure Sound (source : DrawSource) (born : List (Owner × Nat)) (k : Desk) : Prop where
  stored : ∀ index a, k.logins.attempt? index = some a → a.BornAmong source born index
  returned : ∀ (place : Nat) (t : Task), k.tasks[place]? = some t → ∀ index c, t.op = .run index c →
    ∀ script result a, (t.rest.play script).result = .ran result a →
      a.BornAmong source born index

theorem sound_empty (source : DrawSource) : empty.Sound source [] where
  stored _ _ h := nomatch Logins.attempt?_lt h
  returned _ _ h := nomatch h

/-- What a run brings back stems from the same draws. -/
theorem Sound.saying (h : k.Sound source born) {index : Nat} {c : Credentials}
    {script : List Reply} {result : Except FlowError LoginOutcome} {a : Attempt}
    (hresult : ((k.logins.saying f source (.run index c)).play script).result = .ran result a) :
    a.BornAmong source born index := by
  rw [Logins.play_saying] at hresult
  cases hstored : k.logins.attempt? index with
  | none =>
    rw [Logins.played_run_of_none hstored] at hresult
    cases hresult
  | some stored =>
    rw [Logins.played_run_of_some hstored] at hresult
    cases hresult
    obtain ⟨turn, hborn, hstems⟩ := h.stored index stored hstored
    exact ⟨turn, hborn, hstems.run f _ c script⟩

theorem Sound.start (h : k.Sound source born) (op : LoginOp) :
    (k.step f source (.start op)).Sound source
      (born ++ births k.logins.attempts.length k.logins.turn [op]) where
  stored index a ha := by
    -- a login is there from before, is begun now, or is back at once from a run that said nothing
    rcases Logins.attempt?_settle ha with hlent | ⟨c, result, rfl, hanswer⟩
    · rcases Logins.attempt?_lend hlent with hstored | ⟨rfl, rfl, rfl⟩
      · exact (h.stored index a hstored).append _
      · exact ⟨k.logins.turn, List.mem_append_right _ List.mem_cons_self,
          Attempt.stemsFrom_begin _⟩
    · exact (h.saying (Dialogue.result_of_result? hanswer [])).append _
  returned place t ht index c hop script result a hresult := by
    rcases getElem?_concat_cases ht with htask | ⟨-, rfl⟩
    · exact (h.returned place t htask index c hop script result a hresult).append _
    · cases hop
      exact (h.saying hresult).append _

theorem Sound.reply (h : k.Sound source born) (place : Nat) (reply : Reply) :
    (k.step f source (.reply place reply)).Sound source born := by
  cases hwaiting : k.waiting? place with
  | none =>
    rw [step_reply_of_none hwaiting]
    exact h
  | some t =>
    obtain ⟨htask, hwaits⟩ := waiting?_eq_some_iff.mp hwaiting
    obtain ⟨q, hq⟩ := Option.isSome_iff_exists.mp hwaits
    rw [step_reply_of_some hwaiting]
    -- what the rest brings back is what the whole would have brought back
    have hrest : ∀ index c, t.op = .run index c → ∀ script result a,
        ((t.rest.answered reply).play script).result = .ran result a →
          a.BornAmong source born index := by
      intro index c hop script result a hresult
      rw [← (Dialogue.play_of_waiting hq reply script).2] at hresult
      exact h.returned place t htask index c hop _ result a hresult
    constructor
    · intro index a ha
      rcases Logins.attempt?_settle ha with hstored | ⟨c, result, hop, hanswer⟩
      · exact h.stored index a hstored
      · exact hrest index c hop [] result a (Dialogue.result_of_result? hanswer [])
    · intro place' t' ht' index c hop script result a hresult
      rcases getElem?_set_cases ht' with htask' | ⟨-, rfl⟩
      · exact h.returned place' t' htask' index c hop script result a hresult
      · exact hrest index c hop script result a hresult

/-- The births of operations are those of what happens first and of what happens on the desk that
it leaves. -/
theorem births_opsOf_cons (f : LoginFlow) (source : DrawSource) (k : Desk) (h : Happening)
    (hs : List Happening) :
    births k.logins.attempts.length k.logins.turn (opsOf (h :: hs)) =
      births k.logins.attempts.length k.logins.turn (opsOf [h]) ++
        births (k.step f source h).logins.attempts.length (k.step f source h).logins.turn
          (opsOf hs) := by
  cases h with
  | start op =>
    rw [step, Logins.length_settle, Logins.length_lend, Logins.turn_settle, Logins.turn_lend]
    simp [opsOf, births]
  | reply place reply =>
    cases hwaiting : k.waiting? place with
    | none =>
      rw [step_reply_of_none hwaiting]
      rfl
    | some t =>
      rw [step_reply_of_some hwaiting, goOn, Logins.length_settle, Logins.turn_settle]
      rfl

theorem births_opsOf_append (f : LoginFlow) (source : DrawSource) (k : Desk)
    (before hs : List Happening) :
    births k.logins.attempts.length k.logins.turn (opsOf (before ++ hs)) =
      births k.logins.attempts.length k.logins.turn (opsOf before) ++
        births (k.after f source before).logins.attempts.length
          (k.after f source before).logins.turn (opsOf hs) := by
  induction before generalizing k with
  | nil => rfl
  | cons h before ih =>
    rw [List.cons_append, births_opsOf_cons f source k h (before ++ hs), ih,
      births_opsOf_cons f source k h before, List.append_assoc]
    rfl

theorem Sound.step (h : k.Sound source born) (happening : Happening) :
    (k.step f source happening).Sound source
      (born ++ births k.logins.attempts.length k.logins.turn (opsOf [happening])) := by
  cases happening with
  | start op => exact h.start op
  | reply place reply =>
    rw [opsOf, opsOf, births, List.append_nil]
    exact h.reply place reply

theorem Sound.after (h : k.Sound source born) (hs : List Happening) :
    (k.after f source hs).Sound source
      (born ++ births k.logins.attempts.length k.logins.turn (opsOf hs)) := by
  induction hs generalizing k born with
  | nil =>
    rw [opsOf, births, List.append_nil]
    exact h
  | cons happening hs ih =>
    have hnext := ih (h.step (f := f) happening)
    rw [List.append_assoc, ← births_opsOf_cons] at hnext
    exact hnext

end Desk

/-! ## Logins that nobody has taken -/

/-- Operations that take the login in a place, to run it or to give it up. -/
def LoginOp.Takes (index : Nat) : LoginOp → Prop
  | .run i _ => i = index
  | .finish i => i = index
  | .begin => False
  | .login _ => False
  | .register _ => False
  | .verify _ => False

namespace Logins

variable {source : DrawSource} {s : Logins} {op : LoginOp} {index : Nat} {a : Attempt}

/-- A login that is begun has the place behind all others. -/
theorem attempt?_lend_begin : (s.lend source .begin).attempt? s.attempts.length =
    some (LoginFlow.begin (source s.turn).verifier (source s.turn).state) := by
  rw [attempt?_eq_some_iff]
  exact List.getElem?_concat_length

theorem attempt?_lend_of_not_takes (hop : ¬ op.Takes index) (h : s.attempt? index = some a) :
    (s.lend source op).attempt? index = some a := by
  cases op with
  | begin =>
    rw [attempt?_eq_some_iff] at h ⊢
    have hlt := (List.getElem?_eq_some_iff.mp h).1
    exact (List.getElem?_append_left hlt).trans h
  | run i c => exact (attempt?_set_ne hop _).trans h
  | finish i => exact (attempt?_set_ne hop _).trans h
  | login c => exact h
  | register c => exact h
  | verify code => exact h

theorem attempt?_settle_of_not_takes (hop : ¬ op.Takes index) (answer? : Option LoginAnswer) :
    (s.settle op answer?).attempt? index = s.attempt? index := by
  apply attempt?_settle_of_ne
  rintro c rfl
  exact hop rfl

end Logins

namespace Desk

variable {f : LoginFlow} {source : DrawSource} {k : Desk} {index : Nat} {a : Attempt}

/-- No operation that was started has taken the login in a place. -/
def Untaken (index : Nat) (k : Desk) : Prop :=
  ∀ t ∈ k.tasks, ¬ t.op.Takes index

theorem untaken_empty (index : Nat) : empty.Untaken index :=
  fun _ ht => nomatch ht

theorem Untaken.step (h : k.Untaken index) {happening : Happening}
    (hops : ∀ op ∈ opsOf [happening], ¬ op.Takes index) :
    (k.step f source happening).Untaken index := by
  intro t ht
  cases happening with
  | start op =>
    rcases List.mem_append.mp ht with hold | hnew
    · exact h t hold
    · obtain rfl := List.mem_singleton.mp hnew
      exact hops op List.mem_cons_self
  | reply place reply =>
    cases hwaiting : k.waiting? place with
    | none =>
      rw [step_reply_of_none hwaiting] at ht
      exact h t ht
    | some t' =>
      obtain ⟨htask, -⟩ := waiting?_eq_some_iff.mp hwaiting
      rw [step_reply_of_some hwaiting] at ht
      rcases List.mem_or_eq_of_mem_set ht with hold | rfl
      · exact h t hold
      · exact h t' (List.mem_of_getElem? htask)

/-- A login stays as it is while nobody takes it. -/
theorem Untaken.attempt?_step (h : k.Untaken index) {happening : Happening}
    (hops : ∀ op ∈ opsOf [happening], ¬ op.Takes index)
    (ha : k.logins.attempt? index = some a) :
    (k.step f source happening).logins.attempt? index = some a := by
  cases happening with
  | start op =>
    have hop := hops op List.mem_cons_self
    rw [Desk.step, Logins.attempt?_settle_of_not_takes hop]
    exact Logins.attempt?_lend_of_not_takes hop ha
  | reply place reply =>
    cases hwaiting : k.waiting? place with
    | none => rwa [step_reply_of_none hwaiting]
    | some t =>
      obtain ⟨htask, -⟩ := waiting?_eq_some_iff.mp hwaiting
      rw [step_reply_of_some hwaiting, goOn,
        Logins.attempt?_settle_of_not_takes (h t (List.mem_of_getElem? htask)), ha]

theorem Untaken.attempt?_after (h : k.Untaken index) {hs : List Happening}
    (hops : ∀ op ∈ opsOf hs, ¬ op.Takes index) (ha : k.logins.attempt? index = some a) :
    (k.after f source hs).logins.attempt? index = some a := by
  induction hs generalizing k with
  | nil => exact ha
  | cons happening hs ih =>
    rw [opsOf_cons, List.forall_mem_append] at hops
    exact ih (h.step hops.1) hops.2 (h.attempt?_step hops.1 ha)

theorem eq_start_of_mem_births {happening : Happening} {next turn turn' : Nat}
    (h : (.begun index, turn') ∈ births next turn (opsOf [happening])) :
    happening = .start .begin ∧ index = next ∧ turn' = turn := by
  cases happening with
  | start op => cases op <;> simp_all [opsOf, births, LoginOp.birth?]
  | reply place reply => cases h

/-- A login that was begun and that nobody has taken is as it was begun. -/
theorem Untaken.attempt?_of_born (h : k.Untaken index) {hs : List Happening} {turn : Nat}
    (hops : ∀ op ∈ opsOf hs, ¬ op.Takes index)
    (hborn : (.begun index, turn) ∈ births k.logins.attempts.length k.logins.turn (opsOf hs)) :
    (k.after f source hs).logins.attempt? index =
      some (LoginFlow.begin (source turn).verifier (source turn).state) := by
  induction hs generalizing k with
  | nil => cases hborn
  | cons happening hs ih =>
    rw [births_opsOf_cons f source] at hborn
    rw [opsOf_cons, List.forall_mem_append] at hops
    have hstep : (k.step f source happening).Untaken index := h.step hops.1
    rcases List.mem_append.mp hborn with hnow | hlater
    · obtain ⟨rfl, rfl, rfl⟩ := eq_start_of_mem_births hnow
      exact hstep.attempt?_after hops.2 Logins.attempt?_lend_begin
    · exact ih hstep hops.2 hlater

end Desk

end CodeFlow
