import CodeFlow.Proofs.Flow.Turns

/-!
# Operations side by side

The operations on the logins of a flow need not wait for one another: while one waits for a reply,
others are started and go on. A `Desk` keeps the operations in the order in which they were
started, each with what it still has to say. They share nothing but the logins, and a login that is
run is away until its run is over. So an operation says to the replies that it gets what it would
say alone, whatever happens beside it (`requestsOf_wire`).
-/

namespace CodeFlow

open CodeFlow.Http

/-! ## Dialogues that wait -/

namespace Dialogue

variable {α : Type}

/-- The request whose reply is waited for. -/
def request? : Dialogue α → Option Request
  | .done _ => none
  | .send r _ => some r
  | .warn _ next => next.request?

/-- The result, if nothing is left to ask. -/
def result? : Dialogue α → Option α
  | .done a => some a
  | .send _ _ => none
  | .warn _ next => next.result?

/-- What is left to say once a reply has come. -/
def answered (reply : Reply) : Dialogue α → Dialogue α
  | .done a => .done a
  | .send _ next => next reply
  | .warn _ next => next.answered reply

/-- The requests that follow upon replies, behind the one that is waited for. -/
def goesOn : Dialogue α → List Reply → List Request
  | _, [] => []
  | d, reply :: replies => (d.answered reply).request?.toList ++ (d.answered reply).goesOn replies

variable {d : Dialogue α} {replies : List Reply}

/-- Once nothing is waited for, replies change nothing. -/
theorem play_of_silent (h : d.request? = none) (script : List Reply) :
    (d.play script).requests = [] ∧ d.result? = some (d.play script).result := by
  induction d with
  | done a => exact ⟨rfl, rfl⟩
  | send r next ih => cases h
  | warn w next ih => exact ih h

theorem result?_of_waiting (h : d.request? ≠ none) : d.result? = none := by
  induction d with
  | done a => exact absurd rfl h
  | send r next ih => rfl
  | warn w next ih => exact ih h

theorem result_of_result? {a : α} (h : d.result? = some a) (script : List Reply) :
    (d.play script).result = a := by
  induction d with
  | done b => exact Option.some.inj h
  | send r next ih => cases h
  | warn w next ih => exact ih h

theorem answered_of_silent (h : d.request? = none) (reply : Reply) :
    (d.answered reply).request? = none := by
  induction d with
  | done a => rfl
  | send r next ih => cases h
  | warn w next ih => exact ih h

/-- The request that is waited for comes first; the rest is said to the reply. -/
theorem play_of_waiting {q : Request} (h : d.request? = some q) (reply : Reply)
    (script : List Reply) :
    (d.play (reply :: script)).requests = q :: ((d.answered reply).play script).requests ∧
      (d.play (reply :: script)).result = ((d.answered reply).play script).result := by
  induction d with
  | done a => cases h
  | send r next ih =>
    cases h
    exact ⟨rfl, rfl⟩
  | warn w next ih => exact ih h

theorem exists_requests_of_waiting {q : Request} (h : d.request? = some q) (script : List Reply) :
    ∃ rest, (d.play script).requests = q :: rest := by
  induction d with
  | done a => cases h
  | send r next ih =>
    cases h
    rw [play_send]
    exact ⟨_, rfl⟩
  | warn w next ih => exact ih h

theorem goesOn_of_silent (h : d.request? = none) (replies : List Reply) :
    d.goesOn replies = [] := by
  induction replies generalizing d with
  | nil => rfl
  | cons reply replies ih =>
    have hanswered := answered_of_silent h reply
    rw [goesOn, hanswered, ih hanswered]
    rfl

/-- With every reply comes one more request of those that a script of the replies brings about. -/
theorem requests_goesOn (d : Dialogue α) (replies : List Reply) :
    d.request?.toList ++ d.goesOn replies =
      (d.play replies).requests.take (replies.length + 1) := by
  -- each reply is to the request that is waited for and leads to the one behind it
  induction replies generalizing d with
  | nil =>
    cases h : d.request? with
    | none =>
      rw [(play_of_silent h []).1]
      rfl
    | some q =>
      obtain ⟨rest, hrest⟩ := exists_requests_of_waiting h []
      rw [hrest]
      rfl
  | cons reply replies ih =>
    cases h : d.request? with
    | none =>
      rw [goesOn_of_silent h, (play_of_silent h _).1]
      rfl
    | some q =>
      rw [goesOn, ih, (play_of_waiting h reply replies).1]
      rfl

end Dialogue

/-! ## Desks -/

namespace Logins

variable (f : LoginFlow) (source : DrawSource)

/-- What an operation says, and what comes of it. -/
def saying (s : Logins) (op : LoginOp) : Dialogue LoginAnswer :=
  s.perform f source op >>= fun p => pure p.1

/-- The logins once an operation is started. A login that is run is away until the run is over. -/
def lend (s : Logins) : LoginOp → Logins
  | .begin =>
    { s.next with attempts := s.attempts ++
      [some (LoginFlow.begin (source s.turn).verifier (source s.turn).state)] }
  | .run index _ => s.next.set index Option.none
  | .finish index => s.next.set index Option.none
  | .login _ => s.next
  | .register _ => s.next
  | .verify _ => s.next

/-- The logins once an operation is over, if it is: a login that was run is back in its place. -/
def settle (s : Logins) : LoginOp → Option LoginAnswer → Logins
  | .run index _, some (.ran _ a) => s.set index (some a)
  | _, _ => s

end Logins

/-- An operation that was started, with what it still has to say. -/
structure Task where
  op : LoginOp
  rest : Dialogue LoginAnswer

/-- The logins of a flow and the operations on them, in the order in which they were started. -/
structure Desk where
  logins : Logins
  tasks : List Task

/-- What happens next: an operation is started, or the one in a place gets a reply. -/
inductive Happening where
  | start (op : LoginOp)
  | reply (place : Nat) (reply : Reply)

/-- Requests on the wire, with the place of the operation that made them. -/
abbrev Wire := List (Nat × Request)

namespace Desk

/-- Nothing was started yet. -/
def empty : Desk := ⟨.none, []⟩

/-- The operation in a place, if it waits for a reply. -/
def waiting? (k : Desk) (place : Nat) : Option Task :=
  k.tasks[place]?.filter fun t => t.rest.request?.isSome

section

variable (f : LoginFlow) (source : DrawSource)

/-- A task just started. -/
def started (k : Desk) (op : LoginOp) : Task :=
  ⟨op, k.logins.saying f source op⟩

/-- The task in a place goes on to what it says next. -/
def goOn (k : Desk) (place : Nat) (t : Task) : Desk :=
  ⟨k.logins.settle t.op t.rest.result?, k.tasks.set place t⟩

/-- The desk after one thing has happened. A reply that nobody waits for is passed over. -/
def step (k : Desk) : Happening → Desk
  | .start op =>
    ⟨(k.logins.lend source op).settle op (k.started f source op).rest.result?,
      k.tasks ++ [k.started f source op]⟩
  | .reply place reply =>
    match k.waiting? place with
    | none => k
    | some t => k.goOn place ⟨t.op, t.rest.answered reply⟩

/-- The requests that it leads to at once. -/
def sends (k : Desk) : Happening → Wire
  | .start op => (k.started f source op).rest.request?.toList.map (k.tasks.length, ·)
  | .reply place reply =>
    match k.waiting? place with
    | none => []
    | some t => (t.rest.answered reply).request?.toList.map (place, ·)

/-- The desk after many things have happened. -/
def after (k : Desk) (hs : List Happening) : Desk :=
  hs.foldl (step f source) k

/-- All requests that they lead to, in their order. -/
def wire (k : Desk) : List Happening → Wire
  | [] => []
  | h :: hs => k.sends f source h ++ (k.step f source h).wire hs

end

/-- The operations that are started, in their order. -/
def opsOf : List Happening → List LoginOp
  | [] => []
  | .start op :: hs => op :: opsOf hs
  | .reply _ _ :: hs => opsOf hs

/-- The replies to the operation in a place, where some number of operations were started before.
What comes before the operation is started is no reply to it. -/
def heard (place : Nat) : Nat → List Happening → List Reply
  | _, [] => []
  | n, .start _ :: hs => heard place (n + 1) hs
  | n, .reply p reply :: hs =>
    if p = place ∧ place < n then reply :: heard place n hs else heard place n hs

end Desk

/-- The requests of the operation in a place. -/
def Wire.requestsOf (place : Nat) (w : Wire) : List Request :=
  (w.filter fun e => e.1 = place).map Prod.snd

namespace Wire

theorem requestsOf_append (place : Nat) (w w' : Wire) :
    requestsOf place (w ++ w') = requestsOf place w ++ requestsOf place w' := by
  simp [requestsOf]

theorem requestsOf_own (place : Nat) (qs : List Request) :
    requestsOf place (qs.map (place, ·)) = qs := by
  simp [requestsOf, List.filter_map, Function.comp_def]

theorem requestsOf_other {place place' : Nat} (h : place' ≠ place) (qs : List Request) :
    requestsOf place (qs.map (place', ·)) = [] := by
  simp [requestsOf, h]

end Wire

/-! ## What an operation says among others -/

namespace Desk

variable {f : LoginFlow} {source : DrawSource} {k : Desk} {place : Nat} {t : Task}

theorem waiting?_eq_some_iff :
    k.waiting? place = some t ↔ k.tasks[place]? = some t ∧ t.rest.request?.isSome = true := by
  rw [waiting?, Option.filter_eq_some_iff]

section

variable {reply : Reply}

theorem step_reply_of_none (h : k.waiting? place = none) :
    k.step f source (.reply place reply) = k := by
  simp only [step, h]

theorem sends_reply_of_none (h : k.waiting? place = none) :
    k.sends f source (.reply place reply) = [] := by
  simp only [sends, h]

theorem step_reply_of_some (h : k.waiting? place = some t) :
    k.step f source (.reply place reply) = k.goOn place ⟨t.op, t.rest.answered reply⟩ := by
  simp only [step, h]

theorem sends_reply_of_some (h : k.waiting? place = some t) :
    k.sends f source (.reply place reply) =
      (t.rest.answered reply).request?.toList.map (place, ·) := by
  simp only [sends, h]

end

theorem length_tasks_step (k : Desk) (h : Happening) :
    (k.step f source h).tasks.length = k.tasks.length + (opsOf [h]).length := by
  cases h with
  | start op => exact List.length_append
  | reply p reply =>
    cases hwaiting : k.waiting? p with
    | none =>
      rw [step_reply_of_none hwaiting]
      rfl
    | some t =>
      rw [step_reply_of_some hwaiting]
      exact List.length_set

theorem opsOf_cons (h : Happening) (hs : List Happening) :
    opsOf (h :: hs) = opsOf [h] ++ opsOf hs := by
  cases h <;> rfl

theorem opsOf_append (before hs : List Happening) :
    opsOf (before ++ hs) = opsOf before ++ opsOf hs := by
  induction before with
  | nil => rfl
  | cons h before ih =>
    rw [List.cons_append, opsOf_cons h (before ++ hs), opsOf_cons h before, ih, List.append_assoc]

theorem length_tasks_after (k : Desk) (hs : List Happening) :
    (k.after f source hs).tasks.length = k.tasks.length + (opsOf hs).length := by
  induction hs generalizing k with
  | nil => rfl
  | cons h hs ih =>
    change ((k.step f source h).after f source hs).tasks.length = _
    rw [ih, length_tasks_step, opsOf_cons h hs, List.length_append, Nat.add_assoc]

theorem silent_of_not_waiting (h : k.tasks[place]? = some t) (hwaiting : k.waiting? place = none) :
    t.rest.request? = none := by
  apply Option.eq_none_iff_forall_ne_some.mpr
  intro q hq
  have hsome : k.waiting? place = some t := waiting?_eq_some_iff.mpr ⟨h, by rw [hq]; rfl⟩
  rw [hwaiting] at hsome
  cases hsome

/-- What happens lets an operation say what is due upon its reply, if the reply is to it, and
otherwise leaves it as it is. -/
theorem goesOn_step (h : k.tasks[place]? = some t) (happening : Happening) (hs : List Happening) :
    ∃ t', (k.step f source happening).tasks[place]? = some t' ∧
      Wire.requestsOf place (k.sends f source happening) ++
          t'.rest.goesOn (heard place (k.step f source happening).tasks.length hs) =
        t.rest.goesOn (heard place k.tasks.length (happening :: hs)) := by
  have hlt : place < k.tasks.length := (List.getElem?_eq_some_iff.mp h).1
  rw [length_tasks_step]
  cases happening with
  | start op =>
    -- the new operation has the place behind all others
    refine ⟨t, ?_, ?_⟩
    · rw [← h]
      exact List.getElem?_append_left hlt
    · rw [sends, Wire.requestsOf_other (Nat.ne_of_gt hlt)]
      rfl
  | reply p reply =>
    rw [heard]
    by_cases hplace : p = place
    · subst hplace
      rw [if_pos ⟨rfl, hlt⟩]
      cases hwaiting : k.waiting? p with
      | none =>
        -- the operation is over: it says no more, whatever replies there are
        have hsilent := silent_of_not_waiting h hwaiting
        refine ⟨t, by rw [step_reply_of_none hwaiting, h], ?_⟩
        rw [sends_reply_of_none hwaiting, Dialogue.goesOn_of_silent hsilent,
          Dialogue.goesOn_of_silent hsilent]
        rfl
      | some t' =>
        obtain ⟨ht', -⟩ := waiting?_eq_some_iff.mp hwaiting
        rw [h] at ht'
        cases ht'
        refine ⟨⟨t.op, t.rest.answered reply⟩, ?_, ?_⟩
        · rw [step_reply_of_some hwaiting]
          exact List.getElem?_set_self hlt
        · rw [sends_reply_of_some hwaiting, Wire.requestsOf_own]
          rfl
    · -- the reply is to another operation
      rw [if_neg fun hmine => hplace hmine.1]
      cases hwaiting : k.waiting? p with
      | none =>
        refine ⟨t, by rw [step_reply_of_none hwaiting, h], ?_⟩
        rw [sends_reply_of_none hwaiting]
        rfl
      | some t' =>
        refine ⟨t, ?_, ?_⟩
        · rw [step_reply_of_some hwaiting, ← h]
          exact List.getElem?_set_ne hplace
        · rw [sends_reply_of_some hwaiting, Wire.requestsOf_other hplace]
          rfl

/-- An operation that was started goes on with the replies to it. -/
theorem requestsOf_wire_of_task (h : k.tasks[place]? = some t) (hs : List Happening) :
    Wire.requestsOf place (k.wire f source hs) =
      t.rest.goesOn (heard place k.tasks.length hs) := by
  induction hs generalizing k t with
  | nil => rfl
  | cons happening hs ih =>
    obtain ⟨t', ht', hsame⟩ := goesOn_step h happening hs
    rw [wire, Wire.requestsOf_append, ih ht', hsame]

/-- What happens concerns operations that were started, or the one that is started now. -/
theorem requestsOf_sends {h : Happening} (hplace : (k.step f source h).tasks.length ≤ place) :
    Wire.requestsOf place (k.sends f source h) = [] := by
  rw [length_tasks_step] at hplace
  cases h with
  | start op =>
    apply Wire.requestsOf_other
    exact Nat.ne_of_lt hplace
  | reply p reply =>
    cases hwaiting : k.waiting? p with
    | none =>
      rw [sends_reply_of_none hwaiting]
      rfl
    | some t =>
      obtain ⟨htask, -⟩ := waiting?_eq_some_iff.mp hwaiting
      rw [sends_reply_of_some hwaiting]
      apply Wire.requestsOf_other
      exact Nat.ne_of_lt (Nat.lt_of_lt_of_le (List.getElem?_eq_some_iff.mp htask).1 hplace)

theorem heard_cons {h : Happening} {n : Nat} (hplace : n + (opsOf [h]).length ≤ place)
    (hs : List Happening) :
    heard place n (h :: hs) = heard place (n + (opsOf [h]).length) hs := by
  cases h with
  | start op => rfl
  | reply p reply =>
    rw [heard, if_neg fun hmine => Nat.not_lt.mpr hplace hmine.2]
    rfl

/-- Whatever happens beside it, an operation makes the requests that it would make alone if it were
played against the replies that it gets. -/
theorem requestsOf_wire (f : LoginFlow) (source : DrawSource) (k : Desk) (before : List Happening)
    (op : LoginOp) (behind : List Happening) :
    let replies := heard (k.after f source before).tasks.length k.tasks.length
      (before ++ .start op :: behind)
    Wire.requestsOf (k.after f source before).tasks.length
        (k.wire f source (before ++ .start op :: behind)) =
      (((k.after f source before).logins.saying f source op).play replies).requests.take
        (replies.length + 1) := by
  induction before generalizing k with
  | nil =>
    -- the operation is started now, and its first request goes out at once
    have htask : (k.step f source (.start op)).tasks[k.tasks.length]? =
        some (k.started f source op) := by
      simp [step]
    change Wire.requestsOf k.tasks.length (k.sends f source (.start op) ++ _) = _
    rw [Wire.requestsOf_append, sends, Wire.requestsOf_own, requestsOf_wire_of_task htask,
      length_tasks_step, Dialogue.requests_goesOn]
    rfl
  | cons h before ih =>
    -- what happens before makes requests in other places, and its replies are to others
    have hlater : k.tasks.length + (opsOf [h]).length ≤
        (k.after f source (h :: before)).tasks.length := by
      change _ ≤ ((k.step f source h).after f source before).tasks.length
      rw [length_tasks_after, length_tasks_step]
      exact Nat.le_add_right _ _
    have hsends : Wire.requestsOf (k.after f source (h :: before)).tasks.length
        (k.sends f source h) = [] := by
      apply requestsOf_sends
      rw [length_tasks_step]
      exact hlater
    have hrest := ih (k.step f source h)
    rw [length_tasks_step k h] at hrest
    rw [List.cons_append, wire, Wire.requestsOf_append, hsends, heard_cons hlater]
    exact hrest

/-- Every operation has something before it and something behind. -/
theorem exists_split {hs : List Happening} {op : LoginOp} (h : (opsOf hs)[place]? = some op) :
    ∃ before behind, hs = before ++ .start op :: behind ∧ (opsOf before).length = place := by
  induction hs generalizing place with
  | nil => cases h
  | cons happening hs ih =>
    cases happening with
    | start first =>
      cases place with
      | zero =>
        cases h
        exact ⟨[], hs, rfl, rfl⟩
      | succ place =>
        obtain ⟨before, behind, rfl, hlength⟩ := ih h
        exact ⟨.start first :: before, behind, rfl, congrArg (· + 1) hlength⟩
    | reply p reply =>
      obtain ⟨before, behind, rfl, hlength⟩ := ih h
      exact ⟨.reply p reply :: before, behind, rfl, hlength⟩

end Desk

/-! ## Operations one after another -/

namespace Logins

variable {f : LoginFlow} {source : DrawSource} {s : Logins} {op : LoginOp}

theorem play_saying (script : List Reply) :
    (s.saying f source op).play script =
      ⟨(s.played f source op script).result.1, (s.played f source op script).requests,
        (s.played f source op script).warnings, (s.played f source op script).unread⟩ :=
  Dialogue.play_map _ _ _

theorem settle_none (s : Logins) (op : LoginOp) : s.settle op Option.none = s := by
  cases op <;> rfl

theorem set_set (s : Logins) (index : Nat) (a b : Option Attempt) :
    (s.set index a).set index b = s.set index b := by
  simp [set]

theorem set_none_of_none {index : Nat} (h : s.attempt? index = Option.none) :
    s.set index Option.none = s := by
  have hattempts : s.attempts.set index Option.none = s.attempts := by
    apply List.ext_getElem?
    intro i
    rw [List.getElem?_set]
    split
    · rename_i heq
      subst heq
      split
      · rename_i hlt
        rw [attempt?, List.getElem?_eq_getElem hlt, Option.join_some] at h
        rw [List.getElem?_eq_getElem hlt, h]
      · rename_i hge
        exact (List.getElem?_eq_none (Nat.le_of_not_lt hge)).symm
    · rfl
  rw [set, hattempts]

/-- Taking a login away and bringing it back is what an operation does that is performed. -/
theorem played_eq_settle (script : List Reply) :
    (s.played f source op script).result.2 =
      (s.lend source op).settle op (some (s.played f source op script).result.1) := by
  cases op with
  | begin => rw [played_begin]; rfl
  | run index c =>
    cases hstored : s.attempt? index with
    | none =>
      rw [played_run_of_none hstored]
      exact (set_none_of_none (s := s.next) hstored).symm
    | some a =>
      rw [played_run_of_some hstored]
      exact (set_set s.next index _ _).symm
  | login c => rw [played_login]; rfl
  | register c => rw [played_register_next]; rfl
  | verify code => rw [played_verify_next]; rfl
  | finish index =>
    cases hstored : s.attempt? index with
    | none =>
      rw [played_finish_of_none hstored]
      exact (set_none_of_none (s := s.next) hstored).symm
    | some a => rw [played_finish_of_some hstored]; rfl

end Logins

namespace Desk

variable {f : LoginFlow} {source : DrawSource} {k : Desk} {place : Nat} {t : Task}

theorem after_replies_of_silent (htask : k.tasks[place]? = some t) (h : t.rest.request? = none)
    (script : List Reply) :
    k.after f source (script.map (.reply place)) = k := by
  induction script with
  | nil => rfl
  | cons reply script ih =>
    have hwaiting : k.waiting? place = none := by
      rw [waiting?, htask, Option.filter_some_neg (by simp [h])]
    change (k.step f source (.reply place reply)).after f source _ = k
    rw [step_reply_of_none hwaiting, ih]

/-- An operation that gets all its replies leaves the logins that its end leaves. -/
theorem logins_after_replies (htask : k.tasks[place]? = some t) (hwaits : t.rest.request? ≠ none)
    (script : List Reply) (henough : (t.rest.play script).requests.length ≤ script.length) :
    (k.after f source (script.map (.reply place))).logins =
      k.logins.settle t.op (some (t.rest.play script).result) := by
  induction script generalizing k t with
  | nil =>
    obtain ⟨q, hq⟩ := Option.ne_none_iff_exists'.mp hwaits
    obtain ⟨rest, hrest⟩ := Dialogue.exists_requests_of_waiting hq []
    rw [hrest] at henough
    cases henough
  | cons reply script ih =>
    obtain ⟨q, hq⟩ := Option.ne_none_iff_exists'.mp hwaits
    obtain ⟨hrequests, hresult⟩ := Dialogue.play_of_waiting hq reply script
    have hlt := (List.getElem?_eq_some_iff.mp htask).1
    have hwaiting : k.waiting? place = some t :=
      waiting?_eq_some_iff.mpr ⟨htask, by rw [hq]; rfl⟩
    have hnext : (k.goOn place ⟨t.op, t.rest.answered reply⟩).tasks[place]? =
        some ⟨t.op, t.rest.answered reply⟩ :=
      List.getElem?_set_self hlt
    change ((k.step f source (.reply place reply)).after f source _).logins = _
    rw [step_reply_of_some hwaiting, hresult]
    by_cases hsilent : (t.rest.answered reply).request? = none
    -- the operation ends with this reply and passes over the others
    · rw [after_replies_of_silent hnext hsilent, goOn, (Dialogue.play_of_silent hsilent script).2]
    · rw [hrequests] at henough
      rw [ih hnext hsilent (Nat.le_of_succ_le_succ henough), goOn,
        Dialogue.result?_of_waiting hsilent, Logins.settle_none]

/-- An operation that nothing happens beside leaves the logins as it does when it is performed. -/
theorem after_alone (k : Desk) (op : LoginOp) (script : List Reply)
    (henough : (k.logins.played f source op script).requests.length ≤ script.length) :
    (k.after f source (.start op :: script.map (.reply k.tasks.length))).logins =
      (k.logins.played f source op script).result.2 := by
  have hplay : (k.logins.saying f source op).play script = _ := Logins.play_saying script
  have htask : (k.step f source (.start op)).tasks[k.tasks.length]? =
      some (k.started f source op) := by
    simp [step]
  change ((k.step f source (.start op)).after f source _).logins = _
  rw [Logins.played_eq_settle]
  by_cases hsilent : (k.logins.saying f source op).request? = none
  · rw [after_replies_of_silent htask hsilent, step, started,
      (Dialogue.play_of_silent hsilent script).2, hplay]
  · rw [logins_after_replies htask hsilent script (by rw [started, hplay]; exact henough), step,
      started, Dialogue.result?_of_waiting hsilent, Logins.settle_none, hplay]

end Desk

end CodeFlow
