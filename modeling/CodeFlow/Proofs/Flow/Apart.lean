import CodeFlow.Proofs.Flow.Agreement

/-!
# Logins that share nothing

However many logins there are, and however their runs interleave, the requests of one are a matter
of its own draws and of the replies to it: with other draws for all other logins they would be the
same. So the verifier and the state that a login shows are its own, and no login shows those of
another (`logins_share_nothing`).
-/

namespace CodeFlow

open CodeFlow.Http

/-! ## What a login shows of its draws -/

/-- What the first requests of a login show of its draws: the first request shows the state and the
challenge of the verifier behind the parameters of the endpoint's own text, and the sixth shows the
verifier. -/
structure ShowsOwn (config : FlowConfig) (d : LoginDraws) (requests : List Request) : Prop where
  verifier : ∀ place q, requests[place]? = some q →
    q.member? "codeVerifier" = if place = 5 then some (.str d.verifierText) else none
  state : ∀ q, requests[0]? = some q →
    ∃ endpoint, Url.parse config.authorizeEndpoint = .ok endpoint ∧
      q.url.pairs = endpoint.pairs ++
        [("response_type", "code"), ("client_id", config.clientId), ("state", d.stateText),
          ("scope", config.scopeParameter), ("redirect_uri", config.redirectUri),
          ("code_challenge", Pkce.challengeOf d.verifierText), ("code_challenge_method", "S256")]

theorem LoginRun.codeVerifier_getElem? {r : LoginRun} (hfresh : r.attempt.state = .new)
    (script : List Reply) {place : Nat} {q : Request}
    (h : (r.dialogue.play script).requests[place]? = some q) :
    q.member? "codeVerifier" = if place = 5 then some (.str r.attempt.verifier) else none := by
  split
  -- the sixth step is the one that redeems the code
  · rename_i hplace
    subst hplace
    obtain ⟨step, hstep, hasks⟩ := asks_getElem? hfresh script h
    cases hstep
    obtain ⟨-, -, -, code, hbody⟩ := hasks
    exact Posting.member?_eq (p := .exchange _) hbody _
  · rename_i hplace
    have hredeems := (possession hfresh script).redeems place q h
    simpa using mt hredeems.mp hplace

/-- A login shows its own values, however far its run has come. -/
theorem showsOwn_login (f : LoginFlow) (d : LoginDraws) (seed : Draw 32) (c : Credentials)
    (script : List Reply) (n : Nat) :
    ShowsOwn f.config d
      (((f.login { d with password := seed } c).play script).requests.take n) := by
  have hrun : f.login { d with password := seed } c =
      LoginRun.dialogue ⟨f, LoginFlow.begin d.verifier d.state, seed, c⟩ :=
    (LoginRun.dialogue_mk f _ seed c).symm
  rw [hrun]
  constructor
  · intro place q hq
    rw [List.getElem?_take] at hq
    split at hq
    · exact LoginRun.codeVerifier_getElem? rfl script hq
    · cases hq
  · intro q hq
    rw [List.getElem?_take] at hq
    split at hq
    · obtain ⟨step, hstep, hasks⟩ := LoginRun.asks_getElem? rfl script hq
      cases hstep
      obtain ⟨-, -, -, endpoint, hendpoint, hurl⟩ := hasks
      refine ⟨endpoint, hendpoint, ?_⟩
      rw [hurl, Url.pairs_addPairs]
      rfl
    · cases hq

/-! ## What operations say -/

namespace Logins

variable {f : LoginFlow} {source : DrawSource} {s : Logins}

theorem requests_played_register {c : Credentials} {script : List Reply} :
    (s.played f source (.register c) script).requests =
      ((f.register (source s.turn).password c).run.play script).requests := by
  unfold played perform
  rw [Dialogue.play_map _ (fun result => (LoginAnswer.registered result, s.next))]

theorem requests_played_verify {code : String} {script : List Reply} :
    (s.played f source (.verify code) script).requests =
      ((f.verifyAccount code).run.play script).requests := by
  unfold played perform
  rw [Dialogue.play_map _ (fun result => (LoginAnswer.verified result, s.next))]

end Logins

namespace LoginFlow

theorem member?_register {f : LoginFlow} {seed : Draw 32} {c : Credentials} {script : List Reply}
    {q : Request} (hq : q ∈ ((f.register seed c).run.play script).requests) :
    q.member? "codeVerifier" = none := by
  cases hencrypt : encrypt f.key seed c.password with
  | error e =>
    rw [requests_register_of_error hencrypt] at hq
    cases hq
  | ok ciphertext =>
    rw [requests_register_of_ok hencrypt] at hq
    obtain ⟨hrequest, -⟩ := Trip.mem_requests_iff.mp hq
    obtain ⟨url, -, -, rfl⟩ := Client.registerTrip_request_iff.mp hrequest
    exact Posting.member?_eq (p := .registration _) rfl _

theorem member?_verifyAccount {f : LoginFlow} {code : String} {script : List Reply} {q : Request}
    (hq : q ∈ ((f.verifyAccount code).run.play script).requests) :
    q.member? "codeVerifier" = none := by
  rw [verifyAccount, Client.verifyAccount_eq, Trip.requests_play] at hq
  obtain ⟨hrequest, -⟩ := Trip.mem_requests_iff.mp hq
  obtain ⟨url, -, -, rfl⟩ := Client.asking_eq_ok_iff.mp hrequest
  exact member?_of_noBody rfl _

end LoginFlow

namespace Logins

variable {f : LoginFlow} {source : DrawSource} {s : Logins}

/-- An operation that speaks for no login shows no verifier. -/
theorem member?_of_noOwner {op : LoginOp} {turn : Nat} (h : op.owner? turn = Option.none)
    (script : List Reply) :
    ∀ q ∈ ((s.saying f source op).play script).requests,
      q.member? "codeVerifier" = Option.none := by
  intro q hq
  rw [play_saying] at hq
  cases op with
  | begin => cases hq
  | run i c => cases h
  | login c => cases h
  | register c =>
    rw [requests_played_register] at hq
    exact LoginFlow.member?_register hq
  | verify code =>
    rw [requests_played_verify] at hq
    exact LoginFlow.member?_verifyAccount hq
  | finish i =>
    cases hstored : s.attempt? i with
    | none => rw [played_finish_of_none hstored] at hq; cases hq
    | some a => rw [played_finish_of_some hstored] at hq; cases hq

end Logins

/-! ## Operations in their places -/

namespace Desk

variable {f : LoginFlow} {source source' : DrawSource} {hs before behind : List Happening}
  {place : Nat} {op : LoginOp} {o : Owner}

/-- An operation is started in the turn of its place. -/
theorem turn_after_empty (f : LoginFlow) (source : DrawSource) (hs : List Happening) :
    (empty.after f source hs).logins.turn = (opsOf hs).length := by
  have hagrees : (empty.after f source hs).Agrees (.once 0) (empty.after f source hs) :=
    agrees_after_empty (fun _ => rfl) (fun _ _ => rfl)
  rw [← hagrees.place, length_tasks_after]
  exact Nat.zero_add _

theorem requestsOf_wire_empty (f : LoginFlow) (source : DrawSource)
    (hsplit : hs = before ++ .start op :: behind) (hplace : (opsOf before).length = place) :
    Wire.requestsOf place (empty.wire f source hs) =
      (((empty.after f source before).logins.saying f source op).play
        (heard place 0 hs)).requests.take ((heard place 0 hs).length + 1) := by
  have htasks : (empty.after f source before).tasks.length = place := by
    rw [length_tasks_after, hplace]
    exact Nat.zero_add _
  have hwire := requestsOf_wire f source empty before op behind
  rw [htasks, ← hsplit] at hwire
  exact hwire

/-- What is begun before an operation, or by it, is among all that is begun. -/
theorem mem_births_of_split (f : LoginFlow) (source : DrawSource)
    (hsplit : hs = before ++ .start op :: behind) (hplace : (opsOf before).length = place) :
    (∀ p ∈ births 0 0 (opsOf before), p ∈ births 0 0 (opsOf hs)) ∧
      (op.birth? (empty.after f source before).logins.attempts.length place = some o →
        (o, place) ∈ births 0 0 (opsOf hs)) := by
  have hbirths := births_opsOf_append f source empty before
    (.start op :: behind)
  rw [← hsplit, turn_after_empty, hplace, opsOf, births] at hbirths
  change births 0 0 (opsOf hs) = births 0 0 (opsOf before) ++ _ at hbirths
  rw [hbirths]
  constructor
  · intro p hp
    exact List.mem_append_left _ hp
  · intro hbirth
    apply List.mem_append_right
    apply List.mem_append_left
    simp [hbirth]

/-- The requests that a login makes alone when it is begun from the draws of one turn and run with
the password's draw of another, up to the one behind the last reply. -/
def alone (f : LoginFlow) (source : DrawSource) (turn place : Nat) (c : Credentials)
    (replies : List Reply) : List Request :=
  ((f.login ⟨(source turn).verifier, (source turn).state, (source place).password⟩ c).play
    replies).requests.take (replies.length + 1)

/-- A login that is run as it is begun makes the requests that it makes alone. -/
theorem requestsOf_login (f : LoginFlow) (source : DrawSource) {c : Credentials}
    (hop : (opsOf hs)[place]? = some (.login c)) :
    Wire.requestsOf place (empty.wire f source hs) =
      alone f source place place c (heard place 0 hs) := by
  obtain ⟨before, behind, hsplit, hplace⟩ := exists_split hop
  have hturn : (empty.after f source before).logins.turn = place :=
    (turn_after_empty f source before).trans hplace
  rw [requestsOf_wire_empty f source hsplit hplace, Logins.play_saying, Logins.played_login, hturn,
    alone, ← Attempt.run_begin]

/-- A run makes no requests, or those that its login makes alone. -/
theorem requestsOf_run (f : LoginFlow) (source : DrawSource) {index : Nat} {c : Credentials}
    (hop : (opsOf hs)[place]? = some (.run index c)) :
    Wire.requestsOf place (empty.wire f source hs) = [] ∨
      ∃ turn, (.begun index, turn) ∈ births 0 0 (opsOf hs) ∧
        Wire.requestsOf place (empty.wire f source hs) =
          alone f source turn place c (heard place 0 hs) := by
  obtain ⟨before, behind, hsplit, hplace⟩ := exists_split hop
  obtain ⟨hbefore, -⟩ := mem_births_of_split (o := .begun index) f source hsplit hplace
  have hturn : (empty.after f source before).logins.turn = place :=
    (turn_after_empty f source before).trans hplace
  rw [requestsOf_wire_empty f source hsplit hplace, Logins.play_saying]
  cases hstored : (empty.after f source before).logins.attempt? index with
  | none =>
    rw [Logins.played_run_of_none hstored]
    exact .inl rfl
  | some a =>
    have hsound := (sound_empty source).after (f := f) before
    obtain ⟨turn, hborn, hstems⟩ := hsound.stored index a hstored
    rw [Logins.played_run_of_some hstored, hturn]
    rcases hstems.requests f (source place).password c (heard place 0 hs) with hempty | hrun
    · dsimp only
      rw [hempty]
      exact .inl rfl
    · dsimp only
      rw [hrun]
      exact .inr ⟨turn, hbefore _ hborn, rfl⟩

/-- The first that takes a login to run it makes the requests that the login makes alone. -/
theorem requestsOf_firstRun (f : LoginFlow) (source : DrawSource) {index turn : Nat}
    {c : Credentials} (hop : (opsOf hs)[place]? = some (.run index c))
    (hborn : (.begun index, turn) ∈ births 0 0 ((opsOf hs).take place))
    (huntaken : ∀ op ∈ (opsOf hs).take place, ¬ op.Takes index) :
    Wire.requestsOf place (empty.wire f source hs) =
      alone f source turn place c (heard place 0 hs) := by
  obtain ⟨before, behind, hsplit, hplace⟩ := exists_split hop
  have htake : (opsOf hs).take place = opsOf before := by
    rw [hsplit, opsOf_append, List.take_left' hplace]
  rw [htake] at hborn huntaken
  have hturn : (empty.after f source before).logins.turn = place :=
    (turn_after_empty f source before).trans hplace
  have hstored : (empty.after f source before).logins.attempt? index =
      some (LoginFlow.begin (source turn).verifier (source turn).state) :=
    (untaken_empty index).attempt?_of_born huntaken hborn
  rw [requestsOf_wire_empty f source hsplit hplace, Logins.play_saying,
    Logins.played_run_of_some hstored, hturn, Attempt.run_begin, alone]

/-- An operation that speaks for a login makes no requests, or those that the login makes alone. -/
theorem requestsOf_own (f : LoginFlow) (source : DrawSource) (hop : (opsOf hs)[place]? = some op)
    (howner : op.owner? place = some o) :
    Wire.requestsOf place (empty.wire f source hs) = [] ∨
      ∃ turn c, (o, turn) ∈ births 0 0 (opsOf hs) ∧
        Wire.requestsOf place (empty.wire f source hs) =
          alone f source turn place c (heard place 0 hs) := by
  cases op with
  | run index c =>
    cases howner
    rcases requestsOf_run f source hop with hempty | ⟨turn, hborn, hrun⟩
    · exact .inl hempty
    · exact .inr ⟨turn, c, hborn, hrun⟩
  | login c =>
    cases howner
    obtain ⟨before, behind, hsplit, hplace⟩ := exists_split hop
    obtain ⟨-, hbirth⟩ := mem_births_of_split (o := .once place) f source hsplit hplace
    exact .inr ⟨place, c, hbirth rfl, requestsOf_login f source hop⟩
  | begin => cases howner
  | register c => cases howner
  | verify code => cases howner
  | finish index => cases howner

/-- With other draws for all other logins, an operation for a login makes the same requests. -/
theorem requestsOf_congr (hop : (opsOf hs)[place]? = some op) (howner : op.owner? place = some o)
    (hpassword : ∀ turn, (source' turn).password = (source turn).password)
    (hdraws : ∀ turn, (o, turn) ∈ births 0 0 (opsOf hs) → source' turn = source turn) :
    Wire.requestsOf place (empty.wire f source' hs) =
      Wire.requestsOf place (empty.wire f source hs) := by
  obtain ⟨before, behind, hsplit, hplace⟩ := exists_split hop
  obtain ⟨hbefore, hbirth⟩ := mem_births_of_split (o := o) f source hsplit hplace
  have hagrees : (empty.after f source before).Agrees o (empty.after f source' before) :=
    agrees_after_empty hpassword fun turn hturn => hdraws turn (hbefore _ hturn)
  have hturn : (empty.after f source before).logins.turn = place :=
    (turn_after_empty f source before).trans hplace
  rw [requestsOf_wire_empty f source' hsplit hplace, requestsOf_wire_empty f source hsplit hplace,
    hagrees.logins.saying_eq (by rwa [hturn]) (hpassword _) ?_]
  rw [hturn]
  exact fun h => hdraws place (hbirth h)

end Desk

/-! ## All that happens -/

section KeptApart

variable (f : LoginFlow) (source : DrawSource) (hs : List Happening)

/-- The requests of the operation in a place, on a desk where all this happens. -/
def Desk.said (place : Nat) : List Request :=
  Wire.requestsOf place (Desk.empty.wire f source hs)

/-- The logins that are begun on it. -/
def Desk.begun : List (Owner × Nat) :=
  births 0 0 (Desk.opsOf hs)

/-- The logins of a flow are kept apart, whatever happens. -/
structure KeptApart : Prop where
  /-- They are begun one after another, each from the draws of a turn of its own. -/
  inTurn : (Desk.begun hs).Pairwise fun p q => p.1 ≠ q.1 ∧ p.2 < q.2
  /-- What was made of these draws is kept. -/
  kept : ∀ index a, (Desk.empty.after f source hs).logins.attempt? index = some a →
    ∃ turn, (.begun index, turn) ∈ Desk.begun hs ∧ a.verifier = (source turn).verifierText ∧
      a.oauthState = (source turn).stateText
  /-- A login that is run as it is begun makes the requests that it makes alone. -/
  atOnce : ∀ place c, (Desk.opsOf hs)[place]? = some (.login c) →
    Desk.said f source hs place =
      Desk.alone f source place place c (Desk.heard place 0 hs)
  /-- So does a login that was begun and is run, if nothing has taken it before. -/
  firstRun : ∀ place index c turn, (Desk.opsOf hs)[place]? = some (.run index c) →
    (.begun index, turn) ∈ births 0 0 ((Desk.opsOf hs).take place) →
    (∀ op ∈ (Desk.opsOf hs).take place, ¬ op.Takes index) →
      Desk.said f source hs place =
        Desk.alone f source turn place c (Desk.heard place 0 hs)
  /-- Any other run makes these requests or none. -/
  run : ∀ place index c, (Desk.opsOf hs)[place]? = some (.run index c) →
    Desk.said f source hs place = [] ∨ ∃ turn, (.begun index, turn) ∈ Desk.begun hs ∧
      Desk.said f source hs place =
        Desk.alone f source turn place c (Desk.heard place 0 hs)
  /-- With other draws for all other logins, an operation that speaks for a login makes the same
  requests. -/
  unaware : ∀ place op o source', (Desk.opsOf hs)[place]? = some op → op.owner? place = some o →
    (∀ turn, (source' turn).password = (source turn).password) →
    (∀ turn, (o, turn) ∈ Desk.begun hs → source' turn = source turn) →
      Desk.said f source' hs place = Desk.said f source hs place
  shown : ∀ place op o turn, (Desk.opsOf hs)[place]? = some op → op.owner? place = some o →
    (o, turn) ∈ Desk.begun hs → ShowsOwn f.config (source turn) (Desk.said f source hs place)
  /-- An operation that speaks for no login shows no verifier. -/
  silent : ∀ place op, (Desk.opsOf hs)[place]? = some op → op.owner? place = none →
    ∀ q ∈ Desk.said f source hs place, q.member? "codeVerifier" = none
  /-- If no two logins draw the same bytes, no two have one verifier, and none is shown by an
  operation that does not speak for its login. -/
  verifiers : ((Desk.begun hs).map fun p => (source p.2).verifier).Nodup →
    ((Desk.begun hs).map fun p => (source p.2).verifierText).Nodup ∧
      ∀ p ∈ Desk.begun hs, ∀ place op, (Desk.opsOf hs)[place]? = some op →
        op.owner? place ≠ some p.1 → ∀ q ∈ Desk.said f source hs place,
          q.member? "codeVerifier" ≠ some (.str (source p.2).verifierText)
  /-- If the bytes differ beside the marks of a state, so do the states, and none is put behind the
  parameters of the endpoint for another login. -/
  states : ((Desk.begun hs).map fun p => Pkce.marked (source p.2).state.toList).Nodup →
    ((Desk.begun hs).map fun p => (source p.2).stateText).Nodup ∧
      ∀ p ∈ Desk.begun hs, ∀ place op o, (Desk.opsOf hs)[place]? = some op →
        op.owner? place = some o → o ≠ p.1 → ∀ q endpoint,
          (Desk.said f source hs place)[0]? = some q →
          Url.parse f.config.authorizeEndpoint = .ok endpoint →
            ("state", (source p.2).stateText) ∉ q.url.pairs.drop endpoint.pairs.length

variable {f source hs}

theorem nodup_owners : ((Desk.begun hs).map Prod.fst).Nodup := by
  rw [List.Nodup, List.pairwise_map]
  exact (pairwise_births 0 0 _).imp And.left

/-- A login is begun once. -/
theorem turn_unique {o : Owner} {turn turn' : Nat} (h : (o, turn) ∈ Desk.begun hs)
    (h' : (o, turn') ∈ Desk.begun hs) : turn = turn' := by
  have heq := List.inj_on_of_nodup_map nodup_owners h h' rfl
  cases heq
  rfl

variable {place : Nat} {op : LoginOp} {o : Owner}

theorem showsOwn_nil (config : FlowConfig) (d : LoginDraws) : ShowsOwn config d [] where
  verifier _ _ h := nomatch h
  state _ h := nomatch h

theorem showsOwn_said (hop : (Desk.opsOf hs)[place]? = some op) (howner : op.owner? place = some o)
    {turn : Nat} (hborn : (o, turn) ∈ Desk.begun hs) :
    ShowsOwn f.config (source turn) (Desk.said f source hs place) := by
  rcases Desk.requestsOf_own f source hop howner with hempty | ⟨turn', c, hborn', hrun⟩
  · rw [Desk.said, hempty]
    exact showsOwn_nil _ _
  · cases turn_unique hborn hborn'
    rw [Desk.said, hrun]
    exact showsOwn_login f (source turn) _ c _ _

theorem member?_said_of_noOwner (hop : (Desk.opsOf hs)[place]? = some op)
    (howner : op.owner? place = none) :
    ∀ q ∈ Desk.said f source hs place, q.member? "codeVerifier" = none := by
  obtain ⟨before, behind, hsplit, hplace⟩ := Desk.exists_split hop
  rw [Desk.said, Desk.requestsOf_wire_empty f source hsplit hplace]
  intro q hq
  exact Logins.member?_of_noOwner howner _ q (List.mem_of_mem_take hq)

/-- A verifier that is shown was made of the draws of the login that shows it. -/
theorem verifier_of_shown (hop : (Desk.opsOf hs)[place]? = some op) {verifier : String}
    {q : Request} (hq : q ∈ Desk.said f source hs place)
    (hshown : q.member? "codeVerifier" = some (.str verifier)) :
    ∃ o turn, op.owner? place = some o ∧ (o, turn) ∈ Desk.begun hs ∧
      verifier = (source turn).verifierText := by
  cases howner : op.owner? place with
  | none =>
    rw [member?_said_of_noOwner hop howner q hq] at hshown
    cases hshown
  | some o =>
    rcases Desk.requestsOf_own f source hop howner with hempty | ⟨turn, c, hborn, -⟩
    · rw [Desk.said, hempty] at hq
      cases hq
    · obtain ⟨i, hi⟩ := List.mem_iff_getElem?.mp hq
      rw [(showsOwn_said hop howner hborn).verifier i q hi] at hshown
      split at hshown
      · cases hshown
        exact ⟨o, turn, rfl, hborn, rfl⟩
      · cases hshown

/-- A state behind the parameters of the endpoint was made of the draws of the login that shows
it. -/
theorem state_of_shown (hop : (Desk.opsOf hs)[place]? = some op) (howner : op.owner? place = some o)
    {q : Request} {endpoint : Url} {state : String}
    (hq : (Desk.said f source hs place)[0]? = some q)
    (hendpoint : Url.parse f.config.authorizeEndpoint = .ok endpoint)
    (hshown : ("state", state) ∈ q.url.pairs.drop endpoint.pairs.length) :
    ∃ turn, (o, turn) ∈ Desk.begun hs ∧ state = (source turn).stateText := by
  rcases Desk.requestsOf_own f source hop howner with hempty | ⟨turn, c, hborn, -⟩
  · rw [Desk.said, hempty] at hq
    cases hq
  · obtain ⟨endpoint', hendpoint', hpairs⟩ := (showsOwn_said hop howner hborn).state q hq
    rw [hendpoint] at hendpoint'
    cases hendpoint'
    rw [hpairs, List.drop_left] at hshown
    exact ⟨turn, hborn, by simpa using hshown⟩

/-- Values are all different if they tell apart other values that are. -/
theorem nodup_map_of_imp {α β γ : Type} {g : α → β} {g' : α → γ} {xs : List α}
    (himp : ∀ x y, g' x = g' y → g x = g y) (h : (xs.map g).Nodup) : (xs.map g').Nodup := by
  rw [List.Nodup, List.pairwise_map] at h ⊢
  exact h.imp fun hne heq => hne (himp _ _ heq)

theorem nodup_verifiers (h : ((Desk.begun hs).map fun p => (source p.2).verifier).Nodup) :
    ((Desk.begun hs).map fun p => (source p.2).verifierText).Nodup := by
  apply nodup_map_of_imp _ h
  intro p p' heq
  exact Vector.toList_inj.mp (Pkce.verifierOf_injective heq)

theorem nodup_states
    (h : ((Desk.begun hs).map fun p => Pkce.marked (source p.2).state.toList).Nodup) :
    ((Desk.begun hs).map fun p => (source p.2).stateText).Nodup := by
  apply nodup_map_of_imp _ h
  intro p p' heq
  exact Pkce.stateOf_eq_iff.mp heq

end KeptApart

theorem keptApart (f : LoginFlow) (source : DrawSource) (hs : List Happening) :
    KeptApart f source hs where
  inTurn := pairwise_births 0 0 _
  kept index a ha := by
    obtain ⟨turn, hborn, hstems⟩ := ((Desk.sound_empty source).after (f := f) hs).stored index a ha
    exact ⟨turn, hborn, hstems.verifier, hstems.oauthState⟩
  atOnce _ _ hop := Desk.requestsOf_login f source hop
  firstRun _ _ _ _ hop hborn huntaken := Desk.requestsOf_firstRun f source hop hborn huntaken
  run _ _ _ hop := Desk.requestsOf_run f source hop
  unaware _ _ _ _ hop howner hpassword hdraws := Desk.requestsOf_congr hop howner hpassword hdraws
  shown _ _ _ _ hop howner hborn := showsOwn_said hop howner hborn
  silent _ _ hop howner := member?_said_of_noOwner hop howner
  verifiers hdistinct := by
    refine ⟨nodup_verifiers hdistinct, ?_⟩
    intro p hp place op hop hother q hq hshown
    obtain ⟨o, turn, howner, hborn, hsame⟩ := verifier_of_shown hop hq hshown
    have heq := List.inj_on_of_nodup_map (nodup_verifiers hdistinct) hp hborn hsame
    rw [heq] at hother
    exact hother howner
  states hdistinct := by
    refine ⟨nodup_states hdistinct, ?_⟩
    intro p hp place op o hop howner hother q endpoint hq hendpoint hshown
    obtain ⟨turn, hborn, hsame⟩ := state_of_shown hop howner hq hendpoint hshown
    have heq := List.inj_on_of_nodup_map (nodup_states hdistinct) hp hborn hsame
    rw [heq] at hother
    exact hother rfl

/-- Verifiers tell their draws apart, and the logins of a flow are kept apart, whatever operations
are started on the flow and in whatever order replies come to them. -/
theorem logins_share_nothing (f : LoginFlow) (source : DrawSource) (hs : List Happening) :
    (∀ draw : Draw Pkce.verifierBytes, (Pkce.verifierOf draw.toList).length = 43 ∧
        ∀ c ∈ (Pkce.verifierOf draw.toList).toList, Text.Base64.IsUrlDigit c) ∧
      (Function.Injective fun draw : Draw Pkce.verifierBytes => Pkce.verifierOf draw.toList) ∧
      KeptApart f source hs := by
  refine ⟨?_, ?_, keptApart f source hs⟩
  · intro draw
    refine ⟨Pkce.length_verifierOf draw.length_toList, ?_⟩
    intro c hc
    exact Pkce.isUrlDigit_of_mem_verifierOf hc
  · intro draw draw' h
    exact Vector.toList_inj.mp (Pkce.verifierOf_injective h)

/-- Two logins whose replies come in turns: one is begun and then run, the other is run as it is
begun. -/
def twoLogins : List Happening :=
  [.start .begin, .start (.login ⟨"ada@example.org", "x"⟩),
    .start (.run 0 ⟨"bob@example.org", "y"⟩)] ++
    willingServers.flatMap fun reply => [.reply 2 reply, .reply 1 reply]

theorem logins_share_nothing_twice :
    ((Desk.begun twoLogins).map fun p => (countedDraws p.2).verifier).Nodup ∧
      (Desk.empty.wire shortestFlow countedDraws twoLogins).map Prod.fst =
        [1, 2, 2, 1, 2, 1, 2, 1, 2, 1, 2, 1] ∧
      KeptApart shortestFlow countedDraws twoLogins := by
  obtain ⟨-, -, hapart⟩ := logins_share_nothing shortestFlow countedDraws twoLogins
  exact ⟨by decide +kernel, by decide +kernel, hapart⟩

end CodeFlow
