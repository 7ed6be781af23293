import CodeFlow.Proofs.Flow.Freshness

/-!
# Draws of other logins

With other draws for all logins but one, all that happens to that one is the same. Two desks on
which the same happens need not do the same: a run may end on one and wait on the other. But they
agree on the login (`Desk.Agrees`), and each thing that happens leaves them in agreement.
-/

namespace CodeFlow

open CodeFlow.Http

/-! ## What operations say -/

namespace Logins

variable {f : LoginFlow} {source : DrawSource} {s : Logins} {index : Nat}

theorem saying_run_of_some {c : Credentials} {a : Attempt} (h : s.attempt? index = some a) :
    s.saying f source (.run index c) =
      a.run f (source s.turn).password c >>= fun p => pure (.ran p.1 p.2) := by
  unfold saying perform
  simp only [h, bind_assoc, pure_bind]

theorem saying_run_of_none {c : Credentials} (h : s.attempt? index = Option.none) :
    s.saying f source (.run index c) = pure .noAttempt := by
  unfold saying perform
  simp only [h, pure_bind]

theorem saying_login {c : Credentials} :
    s.saying f source (.login c) =
      f.login (source s.turn) c >>= fun p => pure (.loggedIn p.1) := by
  unfold saying perform
  simp only [bind_assoc, pure_bind]

end Logins

/-! ## Two desks that agree on a login -/

/-- Two states of a flow agree on a login, whatever they hold of the others. -/
structure Logins.AgreesOn (o : Owner) (s s' : Logins) : Prop where
  turn : s'.turn = s.turn
  length : s'.attempts.length = s.attempts.length
  stored : ∀ index, o = .begun index → s'.attempt? index = s.attempt? index

namespace Logins

variable {f : LoginFlow} {source source' : DrawSource} {s s' : Logins} {o : Owner} {op : LoginOp}
  {index : Nat}

theorem attempt?_set_congr (hlength : s'.attempts.length = s.attempts.length)
    (stored : Option Attempt) :
    (s'.set index stored).attempt? index = (s.set index stored).attempt? index := by
  unfold attempt? set
  simp only [List.getElem?_set, hlength, ↓reduceIte]

theorem AgreesOn.symm (h : s.AgreesOn o s') : s'.AgreesOn o s where
  turn := h.turn.symm
  length := h.length.symm
  stored index ho := (h.stored index ho).symm

/-- The end of an operation that speaks for another login changes nothing. -/
theorem AgreesOn.settle_other (h : s.AgreesOn o s') {place : Nat} (hop : op.owner? place ≠ some o)
    (answer? : Option LoginAnswer) : (s.settle op answer?).AgreesOn o s' where
  turn := by rw [turn_settle, h.turn]
  length := by rw [length_settle, h.length]
  stored index ho := by
    rw [attempt?_settle_of_ne, h.stored index ho]
    rintro c rfl
    exact hop (congrArg some ho.symm)

theorem AgreesOn.settle (h : s.AgreesOn o s') (op : LoginOp) (answer? : Option LoginAnswer) :
    (s.settle op answer?).AgreesOn o (s'.settle op answer?) where
  turn := by rw [turn_settle, turn_settle, h.turn]
  length := by rw [length_settle, length_settle, h.length]
  stored index ho := by
    unfold Logins.settle
    split
    · rename_i i c result a
      by_cases hplace : i = index
      · rw [hplace, attempt?_set_congr h.length]
      · rw [attempt?_set_ne hplace, attempt?_set_ne hplace, h.stored index ho]
    · exact h.stored index ho

theorem AgreesOn.lend (h : s.AgreesOn o s') (op : LoginOp)
    (hdraws : op.birth? s.attempts.length s.turn = some o → source' s.turn = source s.turn) :
    (s.lend source op).AgreesOn o (s'.lend source' op) where
  turn := by rw [turn_lend, turn_lend, h.turn]
  length := by rw [length_lend, length_lend, h.length]
  stored index ho := by
    subst ho
    have hset (i : Nat) : (s'.next.set i Option.none).attempt? index =
        (s.next.set i Option.none).attempt? index := by
      by_cases hplace : i = index
      · subst hplace
        exact attempt?_set_congr h.length _
      · rw [attempt?_set_ne hplace, attempt?_set_ne hplace]
        exact h.stored index rfl
    cases op with
    | begin =>
      change (s'.attempts ++ [_])[index]?.join = (s.attempts ++ [_])[index]?.join
      rw [List.getElem?_append, List.getElem?_append, h.length]
      split
      · exact h.stored index rfl
      · rename_i hge
        by_cases hlast : index = s.attempts.length
        · rw [h.turn, hdraws (congrArg (some ∘ Owner.begun) hlast.symm)]
        · have hbehind : [some (LoginFlow.begin (source s.turn).verifier
              (source s.turn).state)].length ≤ index - s.attempts.length := by
            simp only [List.length_singleton]
            omega
          rw [List.getElem?_eq_none hbehind, List.getElem?_eq_none (by simpa using hbehind)]
    | run i c => exact hset i
    | finish i => exact hset i
    | login c => exact h.stored index rfl
    | register c => exact h.stored index rfl
    | verify code => exact h.stored index rfl

/-- An operation for a login on which two states agree says the same in both. -/
theorem AgreesOn.saying_eq (h : s.AgreesOn o s') (howner : op.owner? s.turn = some o)
    (hpassword : (source' s.turn).password = (source s.turn).password)
    (hdraws : op.birth? s.attempts.length s.turn = some o → source' s.turn = source s.turn) :
    s'.saying f source' op = s.saying f source op := by
  cases op with
  | run index c =>
    cases howner
    have hstored := h.stored index rfl
    cases hattempt : s.attempt? index with
    | none =>
      rw [hattempt] at hstored
      rw [saying_run_of_none hstored, saying_run_of_none hattempt]
    | some a =>
      rw [hattempt] at hstored
      rw [saying_run_of_some hstored, saying_run_of_some hattempt, h.turn, hpassword]
  | login c =>
    rw [saying_login, saying_login, h.turn, hdraws howner]
  | begin => cases howner
  | register c => cases howner
  | verify code => cases howner
  | finish i => cases howner

end Logins

namespace Desk

/-- Two desks agree on a login if their operations are the same and those that speak for the login
still have the same to say. -/
structure Agrees (o : Owner) (k k' : Desk) : Prop where
  logins : k.logins.AgreesOn o k'.logins
  /-- Every turn has its task. -/
  place : k.tasks.length = k.logins.turn
  ops : k'.tasks.map Task.op = k.tasks.map Task.op
  own : ∀ (place : Nat) (t : Task), k.tasks[place]? = some t → t.op.owner? place = some o →
    k'.tasks[place]? = some t

variable {f : LoginFlow} {source source' : DrawSource} {k k' : Desk} {o : Owner} {place : Nat}
  {t : Task}

theorem Agrees.length (h : k.Agrees o k') : k'.tasks.length = k.tasks.length := by
  simpa using congrArg List.length h.ops

/-- In each place stands the same operation. -/
theorem Agrees.op_eq (h : k.Agrees o k') (htask : k.tasks[place]? = some t) :
    ∃ t', k'.tasks[place]? = some t' ∧ t'.op = t.op := by
  have hops : (k'.tasks.map Task.op)[place]? = some t.op := by
    rw [h.ops, List.getElem?_map, htask]
    rfl
  rw [List.getElem?_map] at hops
  exact Option.map_eq_some_iff.mp hops

theorem Agrees.symm (h : k.Agrees o k') : k'.Agrees o k where
  logins := h.logins.symm
  place := by rw [h.length, h.place, h.logins.turn]
  ops := h.ops.symm
  own place t' htask' howner := by
    -- the operation stands on both desks, so what the first has to say is what the second has
    have hlt : place < k.tasks.length := h.length ▸ (List.getElem?_eq_some_iff.mp htask').1
    obtain ⟨t, htask⟩ : ∃ t, k.tasks[place]? = some t := ⟨_, List.getElem?_eq_getElem hlt⟩
    obtain ⟨t'', htask'', hop⟩ := h.op_eq htask
    rw [htask'] at htask''
    cases htask''
    have hsame := h.own place t htask (by rw [← hop, howner])
    rw [htask'] at hsame
    rw [htask, hsame]

theorem map_op_set {tasks : List Task} (htask : tasks[place]? = some t) (d : Dialogue LoginAnswer) :
    (tasks.set place ⟨t.op, d⟩).map Task.op = tasks.map Task.op := by
  obtain ⟨hlt, rfl⟩ := List.getElem?_eq_some_iff.mp htask
  have hlt' : place < (tasks.map Task.op).length := by rwa [List.length_map]
  have hsame : (tasks.map Task.op)[place] = tasks[place].op := List.getElem_map _
  rw [List.map_set, ← hsame, List.set_getElem_self]

/-- A task that speaks for another login goes on. -/
theorem Agrees.goOn_other (h : k.Agrees o k') (htask : k.tasks[place]? = some t)
    (hother : t.op.owner? place ≠ some o) (d : Dialogue LoginAnswer) :
    (k.goOn place ⟨t.op, d⟩).Agrees o k' where
  logins := h.logins.settle_other hother _
  place := by
    rw [Desk.goOn, List.length_set, Logins.turn_settle, h.place]
  ops := h.ops.trans (map_op_set htask d).symm
  own place' t' ht' howner := by
    rcases getElem?_set_cases ht' with htask' | ⟨rfl, rfl⟩
    · exact h.own place' t' htask' howner
    · exact absurd howner hother

/-- A task that speaks for the login goes on alike on both desks. -/
theorem Agrees.goOn (h : k.Agrees o k') (htask : k.tasks[place]? = some t)
    (htask' : k'.tasks[place]? = some t) (d : Dialogue LoginAnswer) :
    (k.goOn place ⟨t.op, d⟩).Agrees o (k'.goOn place ⟨t.op, d⟩) where
  logins := h.logins.settle _ _
  place := by
    rw [Desk.goOn, List.length_set, Logins.turn_settle, h.place]
  ops := by
    rw [Desk.goOn, Desk.goOn, map_op_set htask d, map_op_set htask' d, h.ops]
  own place' t' ht' howner := by
    change (k.tasks.set place _)[place']? = _ at ht'
    change (k'.tasks.set place _)[place']? = _
    rw [List.getElem?_set] at ht' ⊢
    split
    · rename_i hplace
      rw [if_pos hplace] at ht'
      rw [h.length]
      exact ht'
    · rename_i hplace
      rw [if_neg hplace] at ht'
      exact h.own place' t' ht' howner

theorem Agrees.reply_other (h : k.Agrees o k')
    (hother : ∀ t, k.tasks[place]? = some t → t.op.owner? place ≠ some o) (reply : Reply) :
    (k.step f source (.reply place reply)).Agrees o k' := by
  cases hwaiting : k.waiting? place with
  | none =>
    rw [step_reply_of_none hwaiting]
    exact h
  | some t =>
    obtain ⟨htask, -⟩ := waiting?_eq_some_iff.mp hwaiting
    rw [step_reply_of_some hwaiting]
    exact h.goOn_other htask (hother t htask) _

theorem Agrees.reply (h : k.Agrees o k') (place : Nat) (reply : Reply) :
    (k.step f source (.reply place reply)).Agrees o (k'.step f source' (.reply place reply)) := by
  by_cases hmine : ∃ t, k.tasks[place]? = some t ∧ t.op.owner? place = some o
  · obtain ⟨t, htask, howner⟩ := hmine
    have htask' := h.own place t htask howner
    -- the same task waits on both desks, or on none
    have hsame : k'.waiting? place = k.waiting? place := by
      rw [waiting?, waiting?, htask, htask']
    cases hwaiting : k.waiting? place with
    | none =>
      rw [step_reply_of_none hwaiting, step_reply_of_none (hsame.trans hwaiting)]
      exact h
    | some t' =>
      obtain ⟨htask'', -⟩ := waiting?_eq_some_iff.mp hwaiting
      rw [htask] at htask''
      cases htask''
      rw [step_reply_of_some hwaiting, step_reply_of_some (hsame.trans hwaiting)]
      exact h.goOn htask htask' _
  -- the two desks may go on in different ways, each without touching the login
  · have hleft : (k.step f source (.reply place reply)).Agrees o k' := by
      apply h.reply_other
      intro t htask howner
      exact hmine ⟨t, htask, howner⟩
    apply Agrees.symm
    apply hleft.symm.reply_other
    intro t' htask' howner
    obtain ⟨t, htask, hop⟩ := h.symm.op_eq htask'
    exact hmine ⟨t, htask, hop ▸ howner⟩

theorem Agrees.start (h : k.Agrees o k') (op : LoginOp)
    (hpassword : (source' k.logins.turn).password = (source k.logins.turn).password)
    (hdraws : op.birth? k.logins.attempts.length k.logins.turn = some o →
      source' k.logins.turn = source k.logins.turn) :
    (k.step f source (.start op)).Agrees o (k'.step f source' (.start op)) := by
  have hlent := h.logins.lend op hdraws
  have hsaying (howner : op.owner? k.logins.turn = some o) :
      k'.logins.saying f source' op = k.logins.saying f source op :=
    h.logins.saying_eq howner hpassword hdraws
  constructor
  · by_cases howner : op.owner? k.logins.turn = some o
    -- an operation for another login may end at once on one desk only
    · rw [step, step, started, started, hsaying howner]
      exact hlent.settle op _
    · exact ((hlent.settle_other howner _).symm.settle_other howner _).symm
  · rw [step, List.length_append, Logins.turn_settle, Logins.turn_lend, h.place]
    rfl
  · rw [step, step, List.map_append, List.map_append, h.ops]
    rfl
  · intro place t ht howner
    change (k'.tasks ++ [k'.started f source' op])[place]? = _
    rcases getElem?_concat_cases ht with htask | ⟨rfl, rfl⟩
    · have htask' := h.own place t htask howner
      rw [List.getElem?_append_left (List.getElem?_eq_some_iff.mp htask').1, htask']
    · rw [h.place] at howner
      rw [← h.length, List.getElem?_concat_length, started, hsaying howner]
      rfl

theorem Agrees.after (h : k.Agrees o k') (hs : List Happening)
    (hpassword : ∀ turn, (source' turn).password = (source turn).password)
    (hdraws : ∀ turn, (o, turn) ∈ births k.logins.attempts.length k.logins.turn (opsOf hs) →
      source' turn = source turn) :
    (k.after f source hs).Agrees o (k'.after f source' hs) := by
  induction hs generalizing k k' with
  | nil => exact h
  | cons happening hs ih =>
    rw [births_opsOf_cons f source] at hdraws
    have hstep : (k.step f source happening).Agrees o (k'.step f source' happening) := by
      cases happening with
      | start op =>
        refine h.start op (hpassword _) fun hbirth => hdraws _ (List.mem_append_left _ ?_)
        simp [opsOf, births, hbirth]
      | reply place reply => exact h.reply place reply
    exact ih hstep fun turn hturn => hdraws turn (List.mem_append_right _ hturn)

theorem agrees_empty (o : Owner) : empty.Agrees o empty where
  logins := ⟨rfl, rfl, fun _ _ => rfl⟩
  place := rfl
  ops := rfl
  own _ _ h _ := h

theorem agrees_after_empty {hs : List Happening}
    (hpassword : ∀ turn, (source' turn).password = (source turn).password)
    (hdraws : ∀ turn, (o, turn) ∈ births 0 0 (opsOf hs) → source' turn = source turn) :
    (empty.after f source hs).Agrees o (empty.after f source' hs) :=
  (agrees_empty o).after hs hpassword hdraws

end Desk

end CodeFlow
