import CodeFlow.Proofs.Flow.Order

/-!
# Where a login stops

A login stops on one of the legs that it visits (`LoginRun.exists_stop`), and which one that is can
be told leg by leg: a reply behind which there is nothing to ask is the last one that is read
(`LoginRun.last_of_visits`), and so is a reply that is of no use, which leaves the state of its leg
(`LoginRun.broken_of_visits`).
-/

namespace CodeFlow

open CodeFlow.Http

variable {r : LoginRun} {script script' : List Reply} {leg : Leg} {log : Log} {ws : List Warning}
  {result : Except FlowError LoginOutcome} {state : FlowState} {q : Request} {e : FlowError}

/-! ## Where a leg leads -/

/-- What a reply to the request of a leg leads to; one that is of no use is the end. -/
def LoginRun.landing (r : LoginRun) (leg : Leg) (q : Request) (reply : Reply) : Landing :=
  match (r.trip leg).outcome q reply with
  | .error e => .last (.error e) leg.state
  | .ok y => r.next leg y

theorem LoginRun.landing_of_error {reply : Reply} (h : (r.trip leg).outcome q reply = .error e) :
    r.landing leg q reply = .last (.error e) leg.state := by
  unfold landing
  rw [h]

theorem LoginRun.landing_of_ok {reply : Reply} {y : leg.Yield}
    (h : (r.trip leg).outcome q reply = .ok y) : r.landing leg q reply = r.next leg y := by
  unfold landing
  rw [h]

/-- A reply behind which there is nothing to ask is the last one of a course, whatever it holds
besides. -/
theorem Course.last_at {result' : Except FlowError LoginOutcome} {state' : FlowState}
    (h : Course r leg log ws result state) (hanswered : Answered script leg.index log)
    (hrequest : (r.trip leg).request = .ok q)
    (hlanding : r.landing leg q (replyAt script leg.index) = .last result' state') :
    log = [(q, replyAt script leg.index)] ∧ result = result' ∧ state = state' := by
  cases h with
  | refused hrequest' => cases hrequest.symm.trans hrequest'
  | broken hrequest' houtcome =>
    cases hrequest.symm.trans hrequest'
    obtain rfl := hanswered.1
    cases (LoginRun.landing_of_error houtcome).symm.trans hlanding
    exact ⟨rfl, rfl, rfl⟩
  | last hrequest' houtcome hnext =>
    cases hrequest.symm.trans hrequest'
    obtain rfl := hanswered.1
    cases ((LoginRun.landing_of_ok houtcome).trans hnext).symm.trans hlanding
    exact ⟨rfl, rfl, rfl⟩
  | onward hrequest' houtcome hnext =>
    cases hrequest.symm.trans hrequest'
    obtain rfl := hanswered.1
    cases ((LoginRun.landing_of_ok houtcome).trans hnext).symm.trans hlanding

/-- A fresh login is over on a leg that it visits if the reply leads to an end. -/
theorem LoginRun.last_of_visits (hfresh : r.attempt.state = .new) (hvisits : r.Visits script leg)
    (hrequest : (r.trip leg).request = .ok q)
    (hlanding : r.landing leg q (replyAt script leg.index) = .last result state) :
    (r.dialogue.play script).result.1 = result ∧
      (r.dialogue.play script).requests.length = leg.index + 1 ∧
      (r.dialogue.play script).result.2.state = Attempt.close result state := by
  obtain ⟨closed, hcourse, hattempt⟩ := course_of_play hfresh script
  have hanswered := (r.dialogue.play script).answered_log script
  obtain ⟨ws', hcourse', hanswered'⟩ := hvisits.course hcourse hanswered
  obtain ⟨hlog, hresult, rfl⟩ := hcourse'.last_at hanswered' hrequest hlanding
  refine ⟨hresult, ?_, ?_⟩
  · have hlength := congrArg List.length hlog
    rw [List.length_drop, Dialogue.Transcript.length_log, List.length_singleton] at hlength
    omega
  · rw [hattempt, hresult]

/-! ## Breaking off -/

/-- What a run comes to if it breaks off in a place, on a leg with a known state. -/
structure LoginRun.BreaksAt (r : LoginRun) (script : List Reply) (place : Nat) (state : FlowState)
    (e : FlowError) : Prop where
  result : (r.dialogue.play script).result.1 = .error e
  requests : (r.dialogue.play script).requests.length = place + 1
  unread : (r.dialogue.play script).unread = script.drop (place + 1)
  state : (r.dialogue.play script).result.2.state = state.fail e.message

/-- A fresh login breaks off where a reply is of no use. -/
theorem LoginRun.broken_of_visits (hfresh : r.attempt.state = .new) (hvisits : r.Visits script leg)
    (hrequest : (r.trip leg).request = .ok q)
    (houtcome : (r.trip leg).outcome q (replyAt script leg.index) = .error e) :
    r.BreaksAt script leg.index leg.state e := by
  obtain ⟨hresult, hrequests, hstate⟩ :=
    last_of_visits hfresh hvisits hrequest (landing_of_error houtcome)
  refine ⟨hresult, hrequests, ?_, hstate⟩
  rw [Dialogue.play_unread, hrequests]

/-! ## Where results come from -/

/-- On a leg, a login stops with a result. -/
inductive LoginRun.Stops (r : LoginRun) (script : List Reply) (leg : Leg) :
    Except FlowError LoginOutcome → Prop where
  | failing {e : FlowError} :
      (r.trip leg).Fails (replyAt script leg.index) e → Stops r script leg (.error e)
  | last {q : Request} {a : Answer} {y : leg.Yield} {result : Except FlowError LoginOutcome}
      {state : FlowState} :
      (r.trip leg).request = .ok q → script[leg.index]? = some (.answer a) →
      (r.trip leg).read q a = .ok y → r.next leg y = .last result state →
      Stops r script leg result

/-- On a leg, a login stops with a result, in a state that nothing but an error changes any more. -/
inductive LoginRun.Leaves (r : LoginRun) (script : List Reply) (leg : Leg) :
    Except FlowError LoginOutcome → FlowState → Prop where
  | failing {e : FlowError} :
      (r.trip leg).Fails (replyAt script leg.index) e → Leaves r script leg (.error e) leg.state
  | last {q : Request} {a : Answer} {y : leg.Yield} {result : Except FlowError LoginOutcome}
      {state : FlowState} :
      (r.trip leg).request = .ok q → script[leg.index]? = some (.answer a) →
      (r.trip leg).read q a = .ok y → r.next leg y = .last result state →
      Leaves r script leg result state

theorem LoginRun.Leaves.stops (h : r.Leaves script leg result state) : r.Stops script leg result := by
  cases h with
  | failing hfails => exact .failing hfails
  | last hrequest hanswer hread hnext => exact .last hrequest hanswer hread hnext

theorem Course.exists_leave (h : Course r leg log ws result state)
    (hanswered : Answered script leg.index log) (hvisits : r.Visits script leg) :
    ∃ leg', r.Visits script leg' ∧ r.Leaves script leg' result state := by
  -- result and state are the same along the course, and the leg where it stops is the last one
  induction h with
  | refused hrequest => exact ⟨_, hvisits, .failing (.inl hrequest)⟩
  | broken hrequest houtcome =>
    obtain rfl := hanswered.1
    exact ⟨_, hvisits, .failing (.inr ⟨_, hrequest, houtcome⟩)⟩
  | last hrequest houtcome hnext =>
    obtain ⟨a, rfl, hread⟩ := Trip.outcome_eq_ok_iff.mp houtcome
    exact ⟨_, hvisits, .last hrequest (getElem?_of_answered hanswered) hread hnext⟩
  | onward hrequest houtcome hnext _ ih =>
    obtain ⟨a, rfl, hread⟩ := Trip.outcome_eq_ok_iff.mp houtcome
    have hanswer := getElem?_of_answered hanswered
    refine ih ?_ (hvisits.onward hrequest hanswer hread hnext)
    rw [LoginRun.next_onward_index hnext]
    exact hanswered.2

/-- A fresh login stops on a leg that it visits, and leaves the state that it has there. -/
theorem LoginRun.exists_leave (hfresh : r.attempt.state = .new) (script : List Reply) :
    ∃ leg state, r.Visits script leg ∧
      r.Leaves script leg (r.dialogue.play script).result.1 state ∧
      (r.dialogue.play script).result.2.state =
        Attempt.close (r.dialogue.play script).result.1 state := by
  obtain ⟨state, hcourse, hattempt⟩ := course_of_play hfresh script
  obtain ⟨leg, hvisits, hleaves⟩ :=
    hcourse.exists_leave ((r.dialogue.play script).answered_log script) .first
  exact ⟨leg, state, hvisits, hleaves, congrArg Attempt.state hattempt⟩

/-- A fresh login stops on a leg that it visits. -/
theorem LoginRun.exists_stop (hfresh : r.attempt.state = .new) (script : List Reply) :
    ∃ leg, r.Visits script leg ∧ r.Stops script leg (r.dialogue.play script).result.1 := by
  obtain ⟨leg, _, hvisits, hleaves, -⟩ := exists_leave hfresh script
  exact ⟨leg, hvisits, hleaves.stops⟩

/-- An error of a fresh login comes from a leg that it visits, or from the encryption. -/
theorem LoginRun.exists_break (hfresh : r.attempt.state = .new)
    (h : (r.dialogue.play script).result.1 = .error e) :
    (∃ fault, e = .crypto fault) ∨
      ∃ leg, r.Visits script leg ∧ (r.trip leg).Fails (replyAt script leg.index) e := by
  obtain ⟨leg, hvisits, hstops⟩ := exists_stop hfresh script
  rw [h] at hstops
  cases hstops with
  | failing hfails => exact .inr ⟨leg, hvisits, hfails⟩
  | last _ _ _ hnext =>
    rcases next_last hnext with
      ⟨_, fault, -, hfault, -⟩ | ⟨_, _, _, -, hok, -⟩ | ⟨_, _, _, _, -, hok, -⟩
    · cases hfault
      exact .inl ⟨fault, rfl⟩
    · cases hok
    · cases hok

/-- What goes wrong on a leg is reported at its step. -/
theorem LoginRun.step_of_fails {reply : Reply} (h : (r.trip leg).Fails reply e) :
    e.step? = some leg.step := by
  rcases h with hrefused | ⟨q, -, houtcome⟩
  · exact request_error_step hrefused
  · exact outcome_error_step houtcome

/-- Whether a fresh login ends with an error of the step of a visited leg is told by the reply to
its request. -/
theorem LoginRun.result_eq_error_iff (hfresh : r.attempt.state = .new)
    (hvisits : r.Visits script leg) (hrequest : (r.trip leg).request = .ok q)
    (hstep : e.step? = some leg.step) :
    (r.dialogue.play script).result.1 = .error e ↔
      (r.trip leg).outcome q (replyAt script leg.index) = .error e := by
  constructor
  · intro h
    rcases exists_break hfresh h with ⟨fault, rfl⟩ | ⟨leg', hvisits', hfails⟩
    · cases hstep
    · have hsame : leg'.step = leg.step :=
        Option.some.inj ((step_of_fails hfails).symm.trans hstep)
      have hindex : leg'.index = leg.index := by
        rw [leg'.index_eq_idxOf, hsame, leg.index_eq_idxOf]
      obtain rfl : leg' = leg := hvisits.unique hvisits' hindex
      rcases hfails with hrefused | ⟨q', hrequest', houtcome⟩
      · cases hrequest.symm.trans hrefused
      · cases hrequest.symm.trans hrequest'
        exact houtcome
  · exact fun houtcome => (broken_of_visits hfresh hvisits hrequest houtcome).result

/-! ## Refused credentials and tokens -/

/-- The status alone tells whether credentials are refused. -/
theorem Client.exists_rejection_iff {a : Answer} :
    (∃ rejection, readLoginReply a = .ok (.rejected rejection)) ↔ a.status = 401 := by
  unfold readLoginReply
  split
  · simp [*]
  · cases hbody : readBody .submitLogin RedirectBody.form a <;> simp [Except.map, *]

/-- Credentials are refused just where the second request is answered with the status that says so,
and then nothing else is asked. -/
theorem LoginRun.invalidCredentials_iff (hfresh : r.attempt.state = .new) (script : List Reply) :
    (∃ rejection, (r.dialogue.play script).result.1 = .ok (.invalidCredentials rejection)) ↔
      ∃ q a, (r.dialogue.play script).requests[1]? = some q ∧
        script[1]? = some (.answer a) ∧ a.status = 401 := by
  constructor
  · rintro ⟨rejection, h⟩
    obtain ⟨leg, hvisits, hstops⟩ := exists_stop hfresh script
    rw [h] at hstops
    cases hstops with
    | @last q a y _ _ hrequest hanswer hread hnext =>
      rcases next_last hnext with
        ⟨_, _, -, hfault, -⟩ | ⟨grant, password, _, rfl, -, -⟩ | ⟨_, _, _, _, -, hok, -⟩
      · cases hfault
      · refine ⟨q, a, (requests_getElem?_iff hfresh).mpr ⟨_, hvisits, rfl, hrequest⟩, hanswer, ?_⟩
        cases y with
        | accepted redirectTo => cases hnext
        | rejected rejection' => exact Client.exists_rejection_iff.mp ⟨rejection', hread⟩
      · cases hok
  · rintro ⟨q, a, hq, hanswer, hstatus⟩
    obtain ⟨leg, hvisits, hplace, hrequest⟩ := (requests_getElem?_iff hfresh).mp hq
    cases leg with
    | submitLogin grant password =>
      obtain ⟨rejection, hread⟩ := Client.exists_rejection_iff.mpr hstatus
      have houtcome : (r.trip (.submitLogin grant password)).outcome q
          (replyAt script 1) = .ok (.rejected rejection) := by
        rw [replyAt_of_answer hanswer]
        exact hread
      exact ⟨rejection, (last_of_visits hfresh hvisits hrequest (landing_of_ok houtcome)).1⟩
    | authorize | acceptLogin | fetchConsent | acceptConsent | tokenExchange => cases hplace

/-- Tokens take all the requests of a login. -/
theorem LoginRun.asks_of_authenticated (hfresh : r.attempt.state = .new)
    (htime : r.flow.client.timeout ≠ 0) {tokens : Tokens}
    (h : (r.dialogue.play script).result.1 = .ok (.authenticated tokens)) :
    List.Forall₂ r.Asks (r.dialogue.play script).requests Step.ofLogin := by
  have hinOrder := LoginRun.inOrder hfresh htime script
  have hrequests := hinOrder.requests
  rwa [hinOrder.reached.authenticated tokens h] at hrequests

/-! ## Legs and the replies before them -/

/-- Whether a leg is visited is up to the replies before it. -/
theorem LoginRun.Visits.congr (hvisits : r.Visits script leg)
    (h : ∀ place < leg.index, script'[place]? = script[place]?) : r.Visits script' leg := by
  induction hvisits with
  | first => exact .first
  | @onward leg leg' q a y _ hrequest hanswer hread hnext ih =>
    rw [next_onward_index hnext] at h
    refine (ih fun place hplace => h place (Nat.lt_succ_of_lt hplace)).onward hrequest ?_ hread hnext
    rw [h leg.index (Nat.lt_succ_self _), hanswer]

/-- Without a reply to its request, a visited leg is where the login breaks off. -/
theorem LoginRun.broken_of_take (hfresh : r.attempt.state = .new) (hvisits : r.Visits script leg)
    (hrequest : (r.trip leg).request = .ok q) :
    r.BreaksAt (script.take leg.index) leg.index leg.state (.network leg.step .closed) := by
  have hvisits' : r.Visits (script.take leg.index) leg :=
    hvisits.congr fun place hplace => List.getElem?_take_of_lt hplace
  have hdropped : replyAt (script.take leg.index) leg.index = .dropped := by
    rw [replyAt, List.getElem?_take_eq_none (Nat.le_refl _), Option.getD_none]
  refine broken_of_visits hfresh hvisits' hrequest ?_
  rw [hdropped, Trip.outcome, r.trip_step]

end CodeFlow
