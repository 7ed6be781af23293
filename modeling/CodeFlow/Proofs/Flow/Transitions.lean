import CodeFlow.Proofs.Flow.State

/-!
# Transitions of a state

An operation asks for a stage before it writes, so it is granted as a whole or refused without a
trace; `FlowState.undergo_cases` lists the ways. From this one case analysis it follows, by
induction on the operations that a state has undergone, that its fields are filled in groups, one
group a stage (`fields_filled_in_groups`), and that nothing that was recorded is ever changed
(`recorded_once`).
-/

namespace CodeFlow

/-! ## What an operation can do -/

namespace FlowState

/-- The operations that a state grants, each with the state that it leads to. -/
inductive Granted (s : FlowState) : StateOp → FlowState → Prop where
  | expect : Granted s (.expect s.stage) s
  | authorization (challenge : String) (csrf : Cookie) : s.stage = .init →
      Granted s (.authorization challenge csrf)
        { s with
          stage := .authorized
          loginChallenge := some challenge
          authenticationCookie := some csrf }
  | login (redirectTo : String) : s.stage = .authorized →
      Granted s (.login redirectTo)
        { s with stage := .credentialsSubmitted, redirectTo := some redirectTo }
  | rejection : s.stage = .authorized → Granted s .rejection { s with stage := .rejected }
  | consent (session consent : Cookie) (code : String) : s.stage = .credentialsSubmitted →
      Granted s (.consent session consent code)
        { s with
          stage := .consented
          authenticationSession := some session
          consentCookie := some consent
          authorizationCode := some code }
  | tokens (tokens : Tokens) : s.stage = .consented →
      Granted s (.tokens tokens)
        { s with
          stage := .tokenExchanged
          accessToken := some tokens.accessToken
          sessionId := some tokens.sessionId
          expiresIn := tokens.expiresIn
          expiresAt := tokens.expiresAt }
  | fail (reason : String) : s.stage.isTerminal = false →
      Granted s (.fail reason) { s with stage := .failed reason }
  /-- A failure of a login that is over is granted, and ignored. -/
  | failAgain (reason : String) : s.stage.isTerminal = true → Granted s (.fail reason) s

variable {s s' : FlowState} {op : StateOp}

theorem run_advance (s : FlowState) (expected next : Stage) :
    (advance expected next).run.run s =
      if s.stage = expected then (.ok (), { s with stage := next })
      else (.error (.outOfOrder expected s.stage), s) := by
  rw [advance, ExceptT.run_bind, StateT.run_bind, run_expect]
  split <;> rfl

/-- What is written behind a change of the stage is written only if the stage was right. -/
theorem run_advance_modify (s : FlowState) (expected next : Stage)
    (write : FlowState → FlowState) :
    (advance expected next >>= fun _ => modify write : Transition).run.run s =
      if s.stage = expected then (.ok (), write { s with stage := next })
      else (.error (.outOfOrder expected s.stage), s) := by
  rw [ExceptT.run_bind, StateT.run_bind, run_advance]
  split <;> rfl

/-- An operation that looks at the stage first is granted there, or refused without a trace. -/
theorem granted_or_refused {expected : Stage}
    (hrun : s.undergo op =
      if s.stage = expected then (.ok (), s') else (.error (.outOfOrder expected s.stage), s))
    (hgranted : s.stage = expected → s.Granted op s') :
    (∃ s', s.undergo op = (.ok (), s') ∧ s.Granted op s') ∨
      ∃ expected, s.stage ≠ expected ∧
        s.undergo op = (.error (.outOfOrder expected s.stage), s) := by
  by_cases h : s.stage = expected
  · exact .inl ⟨s', hrun.trans (if_pos h), hgranted h⟩
  · exact .inr ⟨expected, h, hrun.trans (if_neg h)⟩

/-- An operation is granted, or it is refused and leaves everything as it is. -/
theorem undergo_cases (s : FlowState) (op : StateOp) :
    (∃ s', s.undergo op = (.ok (), s') ∧ s.Granted op s') ∨
      ∃ expected, s.stage ≠ expected ∧
        s.undergo op = (.error (.outOfOrder expected s.stage), s) := by
  cases op with
  | expect expected =>
    refine granted_or_refused (s.run_expect expected) ?_
    rintro rfl
    exact .expect
  | authorization challenge csrf =>
    exact granted_or_refused (s.run_advance_modify ..) (.authorization challenge csrf)
  | login redirectTo =>
    exact granted_or_refused (s.run_advance_modify ..) (.login redirectTo)
  | rejection =>
    exact granted_or_refused (s.run_advance ..) .rejection
  | consent session consent code =>
    exact granted_or_refused (s.run_advance_modify ..) (.consent session consent code)
  | tokens tokens =>
    exact granted_or_refused (s.run_advance_modify ..) (.tokens tokens)
  -- a failure asks for no stage, but a closed state ignores it
  | fail reason =>
    have hrun : s.undergo (.fail reason) = (.ok (), s.fail reason) := rfl
    cases h : s.stage.isTerminal with
    | true =>
      rw [fail_of_terminal h] at hrun
      exact .inl ⟨s, hrun, .failAgain reason h⟩
    | false =>
      rw [fail_of_open h] at hrun
      exact .inl ⟨_, hrun, .fail reason h⟩

/-- An operation leads to the state that it was granted, or nowhere. -/
theorem after_cases (s : FlowState) (op : StateOp) : s.Granted op (s.after op) ∨ s.after op = s := by
  unfold after
  rcases s.undergo_cases op with ⟨s', hrun, hgranted⟩ | ⟨expected, -, hrun⟩
  · rw [hrun]
    exact .inl hgranted
  · rw [hrun]
    exact .inr rfl

/-- What one operation keeps, any number of operations keep. -/
theorem afterAll_induction {motive : FlowState → Prop}
    (hstep : ∀ s op s', s.Granted op s' → motive s → motive s') (h : motive s)
    (ops : List StateOp) : motive (s.afterAll ops) := by
  induction ops generalizing s with
  | nil => exact h
  | cons op ops ih =>
    refine ih ?_
    rcases s.after_cases op with hgranted | heq
    · exact hstep s op _ hgranted h
    · rw [heq]
      exact h

end FlowState

/-! ## Groups of fields -/

/-- The group of a field: those in front are filled first. The lifetime of a token, which may be
missing, belongs to none. -/
def Field.group? : Field → Option Nat
  | .loginChallenge => some 0
  | .authenticationCookie => some 0
  | .redirectTo => some 1
  | .authenticationSession => some 2
  | .consentCookie => some 2
  | .authorizationCode => some 2
  | .accessToken => some 3
  | .sessionId => some 3
  | .expiresIn => none
  | .expiresAt => none

/-- How many groups are filled at a stage. A login may fail at any stage before its end. -/
def Stage.Fills : Stage → Nat → Prop
  | .init, n => n = 0
  | .authorized, n => n = 1
  | .rejected, n => n = 1
  | .credentialsSubmitted, n => n = 2
  | .consented, n => n = 3
  | .tokenExchanged, n => n = 4
  | .failed _, n => n ≤ 3

theorem Stage.Fills.le_of_open {stage : Stage} {n : Nat} (h : stage.Fills n)
    (hopen : stage.isTerminal = false) : n ≤ 3 := by
  cases stage <;> cases hopen <;> cases h <;> decide

namespace FlowState

variable {s s' : FlowState} {op : StateOp} {n : Nat}

/-- The first groups are filled as a whole, and the others are empty as a whole. -/
def Filled (s : FlowState) (n : Nat) : Prop :=
  ∀ field group, field.group? = some group → (s.isSet field = true ↔ group < n)

/-- As many groups are filled as the stage says, and the lifetime only behind the last stage. -/
structure Orderly (s : FlowState) : Prop where
  groups : ∃ n, s.stage.Fills n ∧ s.Filled n
  lifetime : s.stage ≠ .tokenExchanged → s.expiresIn = none ∧ s.expiresAt = none

theorem orderly_new : new.Orderly where
  groups := ⟨0, rfl, fun field group hgroup => by cases field <;> cases hgroup <;> decide⟩
  lifetime _ := ⟨rfl, rfl⟩

/-- Filling the next group, and nothing else, leaves one more group filled. -/
theorem Filled.next (h : s.Filled n)
    (hnext : ∀ field group, field.group? = some group →
      (s'.isSet field = true ↔ s.isSet field = true ∨ group = n)) : s'.Filled (n + 1) := by
  intro field group hgroup
  rw [hnext field group hgroup, h field group hgroup]
  omega

theorem Filled.withStage (h : s.Filled n) (stage : Stage) : { s with stage := stage }.Filled n := by
  intro field group hgroup
  rw [isSet_withStage]
  exact h field group hgroup

theorem Granted.orderly (hgranted : s.Granted op s') (h : s.Orderly) : s'.Orderly := by
  obtain ⟨⟨n, hfills, hfilled⟩, hlifetime⟩ := h
  cases hgranted with
  | expect => exact ⟨⟨n, hfills, hfilled⟩, hlifetime⟩
  -- the stage tells how many groups are filled, and the operation fills the next one
  | authorization challenge csrf hstage =>
    rw [hstage] at hfills hlifetime
    obtain rfl : n = 0 := hfills
    refine ⟨⟨1, rfl, hfilled.next ?_⟩, fun _ => hlifetime (by decide)⟩
    intro field group hgroup
    cases field <;> cases hgroup <;> simp [isSet]
  | login redirectTo hstage =>
    rw [hstage] at hfills hlifetime
    obtain rfl : n = 1 := hfills
    refine ⟨⟨2, rfl, hfilled.next ?_⟩, fun _ => hlifetime (by decide)⟩
    intro field group hgroup
    cases field <;> cases hgroup <;> simp [isSet]
  | rejection hstage =>
    rw [hstage] at hfills hlifetime
    exact ⟨⟨n, hfills, hfilled.withStage _⟩, fun _ => hlifetime (by decide)⟩
  | consent session consent code hstage =>
    rw [hstage] at hfills hlifetime
    obtain rfl : n = 2 := hfills
    refine ⟨⟨3, rfl, hfilled.next ?_⟩, fun _ => hlifetime (by decide)⟩
    intro field group hgroup
    cases field <;> cases hgroup <;> simp [isSet]
  | tokens tokens hstage =>
    rw [hstage] at hfills
    obtain rfl : n = 3 := hfills
    refine ⟨⟨4, rfl, hfilled.next ?_⟩, fun hne => absurd rfl hne⟩
    intro field group hgroup
    cases field <;> cases hgroup <;> simp [isSet]
  -- a failure remembers how far the login came, which is not to its end
  | fail reason hopen =>
    refine ⟨⟨n, hfills.le_of_open hopen, hfilled.withStage _⟩, fun _ => hlifetime ?_⟩
    intro hstage
    rw [hstage] at hopen
    cases hopen
  | failAgain reason hclosed => exact ⟨⟨n, hfills, hfilled⟩, hlifetime⟩

theorem Orderly.afterAll (h : s.Orderly) (ops : List StateOp) : (s.afterAll ops).Orderly :=
  afterAll_induction (fun _ _ _ hgranted => hgranted.orderly) h ops

/-- Whatever a login has undergone, its fields are filled group by group, as its stage says. -/
theorem fields_filled_in_groups (ops : List StateOp) : (new.afterAll ops).Orderly :=
  orderly_new.afterAll ops

end FlowState

/-! ## Writing once -/

/-- The fields that an operation writes. -/
def StateOp.writes : StateOp → List Field
  | .expect _ => []
  | .authorization .. => [.loginChallenge, .authenticationCookie]
  | .login _ => [.redirectTo]
  | .rejection => []
  | .consent .. => [.authenticationSession, .consentCookie, .authorizationCode]
  | .tokens _ => [.accessToken, .sessionId, .expiresIn, .expiresAt]
  | .fail _ => []

namespace FlowState

variable {s s' : FlowState} {op : StateOp} {n : Nat} {field : Field}

/-- What an operation does not write stays as it is. -/
theorem Granted.get?_of_not_mem (hgranted : s.Granted op s') (h : field ∉ op.writes) :
    s'.get? field = s.get? field := by
  cases hgranted <;> cases field <;> simp_all [StateOp.writes, get?]

theorem Filled.get?_eq_none (h : s.Filled n) {group : Nat} (hgroup : field.group? = some group)
    (hge : n ≤ group) : s.get? field = none := by
  have hunset : s.isSet field ≠ true := fun hset =>
    Nat.not_lt.mpr hge ((h field group hgroup).mp hset)
  rw [isSet_eq_isSome] at hunset
  exact Option.not_isSome_iff_eq_none.mp hunset

/-- What an operation writes was empty before. -/
theorem Granted.get?_of_mem (hgranted : s.Granted op s') (h : s.Orderly)
    (hfield : field ∈ op.writes) : s.get? field = none := by
  obtain ⟨⟨n, hfills, hfilled⟩, hlifetime⟩ := h
  cases hgranted with
  | authorization challenge csrf hstage =>
    rw [hstage] at hfills
    obtain rfl : n = 0 := hfills
    simp only [StateOp.writes, List.mem_cons, List.not_mem_nil, or_false] at hfield
    rcases hfield with rfl | rfl <;> exact hfilled.get?_eq_none rfl (Nat.le_refl 0)
  | login redirectTo hstage =>
    rw [hstage] at hfills
    obtain rfl : n = 1 := hfills
    simp only [StateOp.writes, List.mem_cons, List.not_mem_nil, or_false] at hfield
    subst hfield
    exact hfilled.get?_eq_none rfl (Nat.le_refl 1)
  | consent session consent code hstage =>
    rw [hstage] at hfills
    obtain rfl : n = 2 := hfills
    simp only [StateOp.writes, List.mem_cons, List.not_mem_nil, or_false] at hfield
    rcases hfield with rfl | rfl | rfl <;> exact hfilled.get?_eq_none rfl (Nat.le_refl 2)
  | tokens tokens hstage =>
    rw [hstage] at hfills hlifetime
    obtain rfl : n = 3 := hfills
    obtain ⟨hexpiresIn, hexpiresAt⟩ := hlifetime (by decide)
    simp only [StateOp.writes, List.mem_cons, List.not_mem_nil, or_false] at hfield
    rcases hfield with rfl | rfl | rfl | rfl
    · exact hfilled.get?_eq_none rfl (Nat.le_refl 3)
    · exact hfilled.get?_eq_none rfl (Nat.le_refl 3)
    · exact hexpiresIn
    · exact hexpiresAt
  | expect => cases hfield
  | rejection => cases hfield
  | fail => cases hfield
  | failAgain => cases hfield

/-- A value that is there stays there, since only empty fields are written. -/
theorem Granted.get?_eq_some (hgranted : s.Granted op s') (h : s.Orderly) {value : field.Value}
    (hvalue : s.get? field = some value) : s'.get? field = some value := by
  by_cases hfield : field ∈ op.writes
  · rw [hgranted.get?_of_mem h hfield] at hvalue
    cases hvalue
  · rw [hgranted.get?_of_not_mem hfield, hvalue]

theorem Orderly.get?_afterAll (h : s.Orderly) {value : field.Value}
    (hvalue : s.get? field = some value) (ops : List StateOp) :
    (s.afterAll ops).get? field = some value := by
  -- that a value stays is kept only together with the order of the groups
  refine (afterAll_induction (motive := fun s => s.Orderly ∧ s.get? field = some value)
    (fun _ _ _ hgranted hs => ?_) ⟨h, hvalue⟩ ops).2
  exact ⟨hgranted.orderly hs.1, hgranted.get?_eq_some hs.1 hs.2⟩

/-- A closed state grants nothing that would change it. -/
theorem Granted.eq_of_terminal (hgranted : s.Granted op s') (h : s.stage.isTerminal = true) :
    s' = s := by
  cases hgranted with
  | expect => rfl
  | failAgain => rfl
  | fail reason hopen =>
    rw [h] at hopen
    cases hopen
  -- all others ask for a stage that is open
  | authorization _ _ hstage | login _ hstage | rejection hstage | consent _ _ _ hstage
  | tokens _ hstage =>
    rw [hstage] at h
    cases h

theorem afterAll_of_terminal (h : s.stage.isTerminal = true) (ops : List StateOp) :
    s.afterAll ops = s := by
  refine afterAll_induction (motive := fun s' => s' = s) (fun t op t' hgranted ht => ?_) rfl ops
  subst ht
  exact hgranted.eq_of_terminal h

/-- A state keeps what it holds: refusals leave no trace, nothing that is recorded is changed, a
failure changes only the stage, and a closed state does not change at all. -/
structure Keeps (s : FlowState) : Prop where
  refused : ∀ op e s', s.undergo op = (.error e, s') →
    s' = s ∧ ∃ expected, e = .outOfOrder expected s.stage ∧ expected ≠ s.stage
  recorded : ∀ (field : Field) (value : field.Value) (ops : List StateOp),
    s.get? field = some value → (s.afterAll ops).get? field = some value
  failed : ∀ reason, ∃ stage, s.undergo (.fail reason) = (.ok (), { s with stage := stage })
  closed : (s.stage = .tokenExchanged ∨ s.stage = .rejected ∨ ∃ reason, s.stage = .failed reason) →
    ∀ ops, s.afterAll ops = s

/-- Whatever a login has undergone, from then on its state keeps what it holds. -/
theorem recorded_once (ops : List StateOp) : (new.afterAll ops).Keeps where
  refused op e s' h := by
    rcases undergo_cases _ op with ⟨_, hrun, -⟩ | ⟨expected, hne, hrun⟩
    · rw [hrun] at h
      cases h
    · rw [hrun] at h
      cases h
      exact ⟨rfl, expected, rfl, hne.symm⟩
  recorded field value later h := (orderly_new.afterAll ops).get?_afterAll h later
  failed reason := by
    refine ⟨((new.afterAll ops).fail reason).stage, ?_⟩
    rw [← fail_eq]
    rfl
  closed h later := by
    refine afterAll_of_terminal ?_ later
    rcases h with h | h | ⟨reason, h⟩ <;> rw [h] <;> rfl

end FlowState

end CodeFlow
