import CodeFlow.Proofs.Flow.Ending
import CodeFlow.Proofs.Flow.Provenance

/-!
# The legs that a run visits

Which leg follows another is settled by one reply. `Visits` lists the legs that a run comes to if
its requests are answered by a script, and a fresh login sends just the requests of these legs, each
in its place (`requests_getElem?_iff`). So what a request carries, and what it does not depend on,
is shown by induction on the visits. A login that was run before visits nothing.
-/

namespace CodeFlow

open CodeFlow.Http

/-! ## Logs that follow a script -/

/-- The requests of a log are answered by a script from a place on; there is no answer behind its
end. -/
def Answered (script : List Reply) : Nat → Log → Prop
  | _, [] => True
  | place, (_, reply) :: log =>
    reply = script[place]?.getD .dropped ∧ Answered script (place + 1) log

theorem answered_zip (script : List Reply) (place : Nat) (requests : List Request) :
    Answered script place
      (requests.zip (List.takeD requests.length (script.drop place) .dropped)) := by
  induction requests generalizing place with
  | nil => trivial
  | cons q requests ih =>
    rw [List.length_cons, List.takeD_succ, List.zip_cons_cons, List.head?_drop, List.tail_drop]
    exact ⟨rfl, ih (place + 1)⟩

theorem Dialogue.Transcript.answered_log {α : Type} (t : Dialogue.Transcript α)
    (script : List Reply) : Answered script 0 (t.log script) := by
  have h := answered_zip script 0 t.requests
  rwa [List.drop_zero] at h

/-- An answer in a log stands in the script. -/
theorem getElem?_of_answered {script : List Reply} {place : Nat} {q : Request} {a : Answer}
    {log : Log} (h : Answered script place ((q, .answer a) :: log)) :
    script[place]? = some (.answer a) := by
  have hreply := h.1
  cases hplace : script[place]? with
  | none =>
    rw [hplace] at hreply
    cases hreply
  | some reply =>
    rw [hplace] at hreply
    exact congrArg some hreply.symm

/-! ## Visits -/

/-- The legs that a run comes to if its requests are answered by a script. -/
inductive LoginRun.Visits (r : LoginRun) (script : List Reply) : Leg → Prop where
  | first : Visits r script .authorize
  | onward {leg leg' : Leg} {q : Request} {a : Answer} {y : leg.Yield} :
      Visits r script leg → (r.trip leg).request = .ok q →
      script[leg.index]? = some (.answer a) → (r.trip leg).read q a = .ok y →
      r.next leg y = .onward leg' → Visits r script leg'

variable {r : LoginRun} {script : List Reply} {leg : Leg} {log : Log} {ws : List Warning}
  {result : Except FlowError LoginOutcome} {state : FlowState} {q : Request}

/-- The requests of a course from a visited leg on are those of visited legs. -/
theorem Course.visits (h : Course r leg log ws result state)
    (hanswered : Answered script leg.index log) (hvisits : r.Visits script leg) {place : Nat}
    {e : Request × Reply} (he : log[place]? = some e) :
    ∃ leg', r.Visits script leg' ∧ leg'.index = leg.index + place ∧
      (r.trip leg').request = .ok e.1 := by
  -- the place of a request behind the first is one less in the course from the next leg on
  induction h generalizing place with
  | refused => cases he
  | broken hrequest | last hrequest =>
    cases place with
    | zero =>
      cases he
      exact ⟨_, hvisits, rfl, hrequest⟩
    | succ place => cases he
  | onward hrequest houtcome hnext _ ih =>
    cases place with
    | zero =>
      cases he
      exact ⟨_, hvisits, rfl, hrequest⟩
    | succ place =>
      obtain ⟨a, rfl, hread⟩ := Trip.outcome_eq_ok_iff.mp houtcome
      have hanswer := getElem?_of_answered hanswered
      have hindex := LoginRun.next_onward_index hnext
      obtain ⟨leg', hvisits', hplace, hrequest'⟩ := ih (hindex ▸ hanswered.2)
        (hvisits.onward hrequest hanswer hread hnext) he
      exact ⟨leg', hvisits', by omega, hrequest'⟩

/-- Where a leg's request is made, a course has it in front of the rest, and has no choice after
that: if the reply leads to another leg, the rest is a course from there on. -/
theorem Course.of_request (h : Course r leg log ws result state)
    (hrequest : (r.trip leg).request = .ok q) :
    ∃ reply rest, log = (q, reply) :: rest ∧
      ∀ y leg', (r.trip leg).outcome q reply = .ok y → r.next leg y = .onward leg' →
        ∃ ws', Course r leg' rest ws' result state := by
  cases h with
  | refused hrequest' =>
    rw [hrequest] at hrequest'
    cases hrequest'
  | broken hrequest' houtcome =>
    cases hrequest.symm.trans hrequest'
    refine ⟨_, [], rfl, fun y leg' hy _ => ?_⟩
    cases houtcome.symm.trans hy
  | last hrequest' houtcome hnext =>
    cases hrequest.symm.trans hrequest'
    refine ⟨_, [], rfl, fun y leg' hy hnext' => ?_⟩
    cases houtcome.symm.trans hy
    cases hnext.symm.trans hnext'
  | onward hrequest' houtcome hnext hcourse =>
    cases hrequest.symm.trans hrequest'
    refine ⟨_, _, rfl, fun y leg' hy hnext' => ?_⟩
    cases houtcome.symm.trans hy
    cases hnext.symm.trans hnext'
    exact ⟨_, hcourse⟩

/-- The replies that lead to a leg lead every course there. -/
theorem LoginRun.Visits.course (hvisits : r.Visits script leg)
    (h : Course r .authorize log ws result state) (hanswered : Answered script 0 log) :
    ∃ ws', Course r leg (log.drop leg.index) ws' result state ∧
      Answered script leg.index (log.drop leg.index) := by
  -- what is left of the log is answered by what is left of the script
  induction hvisits with
  | first => exact ⟨ws, h, hanswered⟩
  | @onward leg leg' q a y _ hrequest hanswer hread hnext ih =>
    obtain ⟨ws', hcourse, hrest⟩ := ih
    obtain ⟨reply, rest, hlog, hgoes⟩ := hcourse.of_request hrequest
    rw [hlog] at hrest
    have houtcome : (r.trip leg).outcome q reply = .ok y := by
      rw [hrest.1, hanswer]
      exact hread
    obtain ⟨ws'', hcourse'⟩ := hgoes y leg' houtcome hnext
    rw [next_onward_index hnext, ← List.tail_drop, hlog]
    exact ⟨ws'', hcourse', hrest.2⟩

/-- The request in a place of a fresh run is that of the visited leg in this place. -/
theorem LoginRun.requests_getElem?_iff (hfresh : r.attempt.state = .new) {place : Nat} :
    (r.dialogue.play script).requests[place]? = some q ↔
      ∃ leg, r.Visits script leg ∧ leg.index = place ∧ (r.trip leg).request = .ok q := by
  obtain ⟨closed, hcourse, -⟩ := course_of_play hfresh script
  have hanswered := (r.dialogue.play script).answered_log script
  rw [← (r.dialogue.play script).map_fst_log script]
  generalize (r.dialogue.play script).log script = log at hcourse hanswered ⊢
  constructor
  · intro h
    rw [List.getElem?_map, Option.map_eq_some_iff] at h
    obtain ⟨e, he, rfl⟩ := h
    obtain ⟨leg, hvisits, hplace, hrequest⟩ := hcourse.visits hanswered .first he
    exact ⟨leg, hvisits, hplace.trans (Nat.zero_add place), hrequest⟩
  · rintro ⟨leg, hvisits, rfl, hrequest⟩
    obtain ⟨ws', hcourse', -⟩ := hvisits.course hcourse hanswered
    obtain ⟨reply, rest, hlog, -⟩ := hcourse'.of_request hrequest
    have hentry : log[leg.index + 0]? = some (q, reply) := by
      rw [← List.getElem?_drop, hlog]
      rfl
    rw [List.getElem?_map]
    exact congrArg (Option.map Prod.fst) hentry

/-- There is one leg at most for each place. -/
theorem LoginRun.Visits.unique {leg' : Leg} (h : r.Visits script leg) (h' : r.Visits script leg')
    (hindex : leg'.index = leg.index) : leg' = leg := by
  induction h generalizing leg' with
  | first =>
    cases h' with
    | first => rfl
    | onward _ _ _ _ hnext =>
      rw [next_onward_index hnext] at hindex
      cases hindex
  | @onward before leg q a y _ hrequest hanswer hread hnext ih =>
    cases h' with
    | first =>
      rw [next_onward_index hnext] at hindex
      cases hindex
    | @onward before' _ q' a' y' hvisits' hrequest' hanswer' hread' hnext' =>
      rw [next_onward_index hnext, next_onward_index hnext', Nat.add_right_cancel_iff] at hindex
      obtain rfl : before' = before := ih hvisits' hindex
      -- from one leg, the same answer leads to one other leg
      cases hrequest.symm.trans hrequest'
      cases hanswer.symm.trans hanswer'
      cases hread.symm.trans hread'
      cases hnext.symm.trans hnext'
      rfl

/-! ## Where the knowledge of a leg comes from -/

/-- The first answer sets the cookie of a grant in front of all others. -/
def Grants (script : List Reply) (grant : AuthorizationGrant) : Prop :=
  ∃ a, script[0]? = some (.answer a) ∧
    (Cookie.capture a.headers).head? = some grant.csrfCookie

/-- The second answer names an address to go to. -/
def Leads (script : List Reply) (redirectTo : String) : Prop :=
  ∃ a, script[1]? = some (.answer a) ∧ Client.readLoginReply a = .ok (.accepted redirectTo)

/-- The third answer, to a request for that address, redirects to the consent and sets both cookies
of the provider. -/
def Accepts (config : FlowConfig) (script : List Reply) (redirectTo : String)
    (accepted : LoginAcceptance) : Prop :=
  ∃ a url, script[2]? = some (.answer a) ∧
    replayUrl config.authorizeEndpoint redirectTo = .ok url ∧
    redirectTarget? url a = some accepted.consentUrl ∧
    Cookie.findPrefix? (Cookie.capture a.headers) config.cookies.sessionPrefix =
      some accepted.authenticationSession ∧
    Cookie.findPrefix? (Cookie.capture a.headers) config.cookies.consentPrefix =
      some accepted.consentCookie

/-- The cookies and addresses that a leg is about to use were read from the replies before it. -/
def Leg.Sourced (config : FlowConfig) (script : List Reply) : Leg → Prop
  | .authorize => True
  | .submitLogin grant _ => Grants script grant
  | .acceptLogin grant redirectTo => Grants script grant ∧ Leads script redirectTo
  | .fetchConsent _ redirectTo accepted =>
    Leads script redirectTo ∧ Accepts config script redirectTo accepted
  | .acceptConsent _ redirectTo accepted _ => Accepts config script redirectTo accepted
  | .tokenExchange .. => True

/-- An answer brings what the next leg needs. -/
theorem LoginRun.sourced_next {leg' : Leg} {a : Answer} {y : leg.Yield}
    (hsourced : leg.Sourced r.flow.config script) (hrequest : (r.trip leg).request = .ok q)
    (hanswer : script[leg.index]? = some (.answer a)) (hread : (r.trip leg).read q a = .ok y)
    (hnext : r.next leg y = .onward leg') : leg'.Sourced r.flow.config script := by
  cases leg with
  | authorize =>
    simp only [next] at hnext
    split at hnext <;> cases hnext
    obtain ⟨-, -, hcsrf⟩ := read_authorize hread
    exact ⟨a, hanswer, hcsrf⟩
  | submitLogin grant password =>
    cases y with
    | rejected rejection => cases hnext
    | accepted redirectTo =>
      cases hnext
      exact ⟨hsourced, a, hanswer, hread⟩
  | acceptLogin grant redirectTo =>
    cases hnext
    obtain ⟨url, hurl, -, rfl⟩ := Client.replayTrip_request_iff.mp hrequest
    obtain ⟨redirect, hredirect, haccepted⟩ := readThrough_eq_ok_iff.mp hread
    obtain ⟨-, htarget, -, -⟩ := readRedirect_eq_ok_iff.mp hredirect
    obtain ⟨hconsent, -, -⟩ := readAcceptance_eq_ok_iff.mp haccepted
    exact ⟨hsourced.2, a, url, hanswer, hurl, hconsent ▸ htarget, read_acceptLogin hread⟩
  | fetchConsent grant redirectTo accepted =>
    cases hnext
    exact hsourced.2
  | acceptConsent grant redirectTo accepted consentTo =>
    cases hnext
    trivial
  | tokenExchange grant redirectTo consent => cases hnext

theorem LoginRun.Visits.sourced (h : r.Visits script leg) :
    leg.Sourced r.flow.config script := by
  induction h with
  | first => trivial
  | onward _ hrequest hanswer hread hnext ih =>
    exact sourced_next ih hrequest hanswer hread hnext

/-! ## Logins that were run before -/

/-- A login was begun once, and run any number of times since then. -/
def Attempt.Arises (a : Attempt) : Prop :=
  ∃ verifier state, (LoginFlow.begin verifier state).Later a

/-- A login that was begun is fresh until it is run, and then over. -/
theorem Attempt.Arises.new_or_terminal {a : Attempt} (h : a.Arises) :
    a.state = .new ∨ a.state.stage.isTerminal = true := by
  obtain ⟨verifier, oauthState, hlater⟩ := h
  induction hlater with
  | same => exact .inl rfl
  | @again b f seed credentials script _ ih =>
    refine .inr ?_
    rcases ih with hfresh | hterminal
    · exact (LoginRun.closes (r := ⟨f, b, seed, credentials⟩) hfresh script).ended.terminal
    · rw [Attempt.run_of_terminal hterminal]
      exact hterminal

theorem LoginRun.requests_of_terminal (h : r.attempt.state.stage.isTerminal = true) :
    (r.dialogue.play script).requests = [] := by
  unfold dialogue
  rw [Attempt.run_of_terminal h]
  rfl

/-- Whatever became of a login before, a run of it sends the requests of visited legs only. -/
theorem LoginRun.visits_of_request (harises : r.attempt.Arises) {place : Nat}
    (h : (r.dialogue.play script).requests[place]? = some q) :
    ∃ leg, r.Visits script leg ∧ leg.index = place ∧ (r.trip leg).request = .ok q := by
  rcases harises.new_or_terminal with hfresh | hterminal
  · exact (requests_getElem?_iff hfresh).mp h
  · rw [requests_of_terminal hterminal] at h
    cases h

/-- A login that sends anything has not been run before. -/
theorem LoginRun.fresh_of_request (harises : r.attempt.Arises) {place : Nat}
    (h : (r.dialogue.play script).requests[place]? = some q) : r.attempt.state = .new := by
  rcases harises.new_or_terminal with hfresh | hterminal
  · exact hfresh
  · simp [requests_of_terminal hterminal] at h

end CodeFlow
