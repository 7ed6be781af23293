import CodeFlow.Proofs.Flow.Transitions
import Mathlib.Data.List.Induction

/-!
# The language of a state

A login records what it finds out in one of two orders: authorization and rejection, or
authorization, login, consent and tokens. Whatever a new state undergoes, the records that it
grants spell one of these words as far as they come, it grants one more exactly if that continues
the word and nothing has failed, and it holds what a state would hold that had undergone the
granted records alone, and the failure that ended them (`language_obeyed`).
-/

namespace CodeFlow

/-! ## Words -/

/-- The kinds of transitions that record something. -/
inductive Record where
  | authorization
  | login
  | rejection
  | consent
  | tokens
deriving DecidableEq

/-- What an operation records. Asking for a stage records nothing, and neither does a failure. -/
def StateOp.record? : StateOp → Option Record
  | .expect _ => none
  | .authorization .. => some .authorization
  | .login _ => some .login
  | .rejection => some .rejection
  | .consent .. => some .consent
  | .tokens _ => some .tokens
  | .fail _ => none

/-- The records of operations in their order. -/
def recordsOf (ops : List StateOp) : List Record :=
  ops.filterMap StateOp.record?

/-- What a login may record: the records of one whose credentials are refused, or of one that goes
through, in their order and as far as it comes. -/
def IsWord (w : List Record) : Prop :=
  w <+: [.authorization, .rejection] ∨ w <+: [.authorization, .login, .consent, .tokens]

instance (w : List Record) : Decidable (IsWord w) :=
  inferInstanceAs (Decidable (_ ∨ _))

/-- What a login has recorded when it is at a stage. A failure may come behind different words. -/
def Stage.word? : Stage → Option (List Record)
  | .init => some []
  | .authorized => some [.authorization]
  | .rejected => some [.authorization, .rejection]
  | .credentialsSubmitted => some [.authorization, .login]
  | .consented => some [.authorization, .login, .consent]
  | .tokenExchanged => some [.authorization, .login, .consent, .tokens]
  | .failed _ => none

/-- The stage that a record asks for. -/
def Record.stage : Record → Stage
  | .authorization => .init
  | .login => .authorized
  | .rejection => .authorized
  | .consent => .credentialsSubmitted
  | .tokens => .consented

/-- The stage that a record leads to. -/
def Record.next : Record → Stage
  | .authorization => .authorized
  | .login => .credentialsSubmitted
  | .rejection => .rejected
  | .consent => .consented
  | .tokens => .tokenExchanged

theorem isWord_of_word? {stage : Stage} {w : List Record} (h : stage.word? = some w) :
    IsWord w := by
  cases stage <;> cases h <;> decide

/-- A word names no record twice. -/
theorem nodup_of_isWord {w : List Record} (h : IsWord w) : w.Nodup := by
  rcases h with h | h
  · exact h.sublist.nodup (by decide)
  · exact h.sublist.nodup (by decide)

/-- A record continues the word of the stage that it asks for, and of no other stage. -/
theorem isWord_concat_iff {stage : Stage} {w : List Record} (h : stage.word? = some w)
    (record : Record) : IsWord (w ++ [record]) ↔ stage = record.stage := by
  cases stage <;> cases h <;> cases record <;> decide

/-- A record is the next one in the word of the stage that it leads to. -/
theorem word?_next (record : Record) :
    ∃ w, record.stage.word? = some w ∧ record.next.word? = some (w ++ [record]) := by
  cases record <;> exact ⟨_, rfl, rfl⟩

theorem isTerminal_stage (record : Record) : record.stage.isTerminal = false := by
  cases record <;> rfl

/-! ## What a state grants -/

namespace FlowState

variable {s s' : FlowState} {op : StateOp} {record : Record}

/-- A record is granted at the stage that it asks for, and leads to the next one. -/
theorem undergo_record (hrecord : op.record? = some record) :
    (s.undergo op).1 = .ok () ↔ s.stage = record.stage := by
  have hadvance : ∀ (expected next : Stage) (write : FlowState → FlowState),
      ((advance expected next >>= fun _ => modify write : Transition).run.run s).1 = .ok () ↔
        s.stage = expected := by
    intro expected next write
    rw [run_advance_modify]
    split <;> simp_all
  cases op with
  | expect => cases hrecord
  | fail => cases hrecord
  | rejection =>
    cases hrecord
    change ((advance .authorized .rejected).run.run s).1 = .ok () ↔ s.stage = .authorized
    rw [run_advance]
    split <;> simp_all
  | authorization | login | consent | tokens =>
    cases hrecord
    exact hadvance ..

theorem Granted.stage_eq (hgranted : s.Granted op s') (hrecord : op.record? = some record) :
    s.stage = record.stage ∧ s'.stage = record.next := by
  cases hgranted <;> cases hrecord
  all_goals exact ⟨by assumption, rfl⟩

end FlowState

/-! ## What becomes of operations -/

namespace FlowState

/-- Operations, each with the state that undergoes it. -/
def history (s : FlowState) : List StateOp → List (FlowState × StateOp)
  | [] => []
  | op :: ops => (s, op) :: (s.after op).history ops

/-- An operation records something, and is granted. -/
def accepts (s : FlowState) (op : StateOp) : Bool :=
  op.record?.isSome && (s.undergo op).1.isOk

/-- The granted records among the operations that a state undergoes. -/
def accepted (s : FlowState) (ops : List StateOp) : List StateOp :=
  ((s.history ops).filter fun p => p.1.accepts p.2).map Prod.snd

/-- The reason of a failure that takes effect: the state is not the same behind it. -/
def failsFor? (s : FlowState) : StateOp → Option String
  | .fail reason => if s.after (.fail reason) = s then none else some reason
  | _ => none

/-- The reason of the first failure that takes effect. -/
def failure? (s : FlowState) (ops : List StateOp) : Option String :=
  (s.history ops).findSome? fun p => p.1.failsFor? p.2

variable {s s' : FlowState} {op : StateOp} {record : Record}

theorem afterAll_append (s : FlowState) (ops later : List StateOp) :
    s.afterAll (ops ++ later) = (s.afterAll ops).afterAll later :=
  List.foldl_append ..

theorem history_append (s : FlowState) (ops later : List StateOp) :
    s.history (ops ++ later) = s.history ops ++ (s.afterAll ops).history later := by
  induction ops generalizing s with
  | nil => rfl
  | cons op ops ih => exact congrArg ((s, op) :: ·) (ih (s.after op))

theorem accepted_append (s : FlowState) (ops later : List StateOp) :
    s.accepted (ops ++ later) = s.accepted ops ++ (s.afterAll ops).accepted later := by
  simp only [accepted, history_append, List.filter_append, List.map_append]

theorem accepted_concat (s : FlowState) (ops : List StateOp) (op : StateOp) :
    s.accepted (ops ++ [op]) =
      s.accepted ops ++ if (s.afterAll ops).accepts op then [op] else [] := by
  rw [accepted_append]
  simp only [accepted, history, List.filter_cons, List.filter_nil]
  split <;> rfl

theorem failure?_concat (s : FlowState) (ops : List StateOp) (op : StateOp) :
    s.failure? (ops ++ [op]) = (s.failure? ops).or ((s.afterAll ops).failsFor? op) := by
  simp only [failure?, history_append, history, List.findSome?_append, List.findSome?_cons,
    List.findSome?_nil]
  cases (s.afterAll ops).failsFor? op <;> rfl

theorem accepts_iff :
    s.accepts op = true ↔ ∃ record, op.record? = some record ∧ s.stage = record.stage := by
  unfold accepts
  cases hrecord : op.record? with
  | none => simp
  | some record =>
    have hisOk : (s.undergo op).1.isOk = true ↔ (s.undergo op).1 = .ok () := by
      cases (s.undergo op).1 <;> simp [Except.isOk, Except.toBool]
    simp [hisOk, undergo_record hrecord]

/-- A failure takes effect exactly as long as the state is open. -/
theorem failsFor?_eq_some_iff {reason : String} :
    s.failsFor? op = some reason ↔ op = .fail reason ∧ s.stage.isTerminal = false := by
  cases op with
  | fail reason' =>
    have hafter : s.after (.fail reason') = s.fail reason' := rfl
    cases hclosed : s.stage.isTerminal with
    | true => simp [failsFor?, hafter, fail_of_terminal hclosed]
    | false =>
      have hne : s.fail reason' ≠ s := by
        intro heq
        have hterminal := s.isTerminal_fail reason'
        rw [heq, hclosed] at hterminal
        cases hterminal
      simp [failsFor?, hafter, hne]
  | _ => simp [failsFor?]

/-- What is granted, records nothing and is no failure that takes effect changes nothing. -/
theorem Granted.eq_of_not_record (hgranted : s.Granted op s') (hrecord : op.record? = none)
    (hfails : s.failsFor? op = none) : s' = s := by
  cases hgranted with
  | expect => rfl
  | failAgain => rfl
  | fail reason hopen =>
    rw [failsFor?_eq_some_iff.mpr ⟨rfl, hopen⟩] at hfails
    cases hfails
  | authorization | login | rejection | consent | tokens => cases hrecord

/-- What is no granted record and no failure that takes effect changes nothing. -/
theorem after_of_not_accepts (h : s.accepts op = false) (hfails : s.failsFor? op = none) :
    s.after op = s := by
  rcases s.after_cases op with hgranted | heq
  · cases hrecord : op.record? with
    | none => exact hgranted.eq_of_not_record hrecord hfails
    | some record =>
      have hstage := (hgranted.stage_eq hrecord).1
      rw [accepts_iff.mpr ⟨record, hrecord, hstage⟩] at h
      cases h
  · exact heq

/-- A closed state records nothing any more. -/
theorem accepted_of_terminal (h : s.stage.isTerminal = true) (ops : List StateOp) :
    s.accepted ops = [] := by
  induction ops with
  | nil => rfl
  | cons op ops ih =>
    have hrefuses : s.accepts op = false := by
      cases haccepts : s.accepts op with
      | false => rfl
      | true =>
        obtain ⟨record, -, hstage⟩ := accepts_iff.mp haccepts
        rw [hstage, isTerminal_stage] at h
        cases h
    have hafter : s.after op = s := s.afterAll_of_terminal h [op]
    simpa [accepted, history, hrefuses, hafter] using ih

end FlowState

/-! ## Fields and their records -/

/-- The record that fills a field. -/
def Field.owner : Field → Record
  | .loginChallenge => .authorization
  | .authenticationCookie => .authorization
  | .redirectTo => .login
  | .authenticationSession => .consent
  | .consentCookie => .consent
  | .authorizationCode => .consent
  | .accessToken => .tokens
  | .sessionId => .tokens
  | .expiresIn => .tokens
  | .expiresAt => .tokens

/-- What an operation is given for a field. Only tokens may be given without a lifetime. -/
def StateOp.argument? : StateOp → (field : Field) → Option field.Value
  | .authorization challenge _, .loginChallenge => some challenge
  | .authorization _ csrf, .authenticationCookie => some csrf
  | .login redirectTo, .redirectTo => some redirectTo
  | .consent session _ _, .authenticationSession => some session
  | .consent _ cookie _, .consentCookie => some cookie
  | .consent _ _ code, .authorizationCode => some code
  | .tokens t, .accessToken => some t.accessToken
  | .tokens t, .sessionId => some t.sessionId
  | .tokens t, .expiresIn => t.expiresIn
  | .tokens t, .expiresAt => t.expiresAt
  | _, _ => none

/-- An operation makes the record that fills a field. -/
def StateOp.owns (field : Field) (op : StateOp) : Bool :=
  op.record? = some field.owner

/-- Without the record that fills it, no operation fills a field. -/
theorem filter_owns_of_not_mem {ops : List StateOp} {field : Field}
    (h : field.owner ∉ recordsOf ops) : ops.filter (·.owns field) = [] := by
  rw [List.filter_eq_nil_iff]
  intro op hop howns
  have hrecord : op.record? = some field.owner := of_decide_eq_true howns
  exact h (List.mem_filterMap.mpr ⟨op, hop, hrecord⟩)

namespace FlowState

variable {s s' : FlowState} {op : StateOp} {field : Field}

/-- The record that fills a field fills it with what it was given. -/
theorem Granted.get?_of_owns (hgranted : s.Granted op s') (h : op.owns field = true) :
    s'.get? field = op.argument? field := by
  have hrecord : op.record? = some field.owner := of_decide_eq_true h
  cases hgranted <;> cases field <;> cases hrecord <;> rfl

/-- All other operations leave it as it is. -/
theorem Granted.get?_of_not_owns (hgranted : s.Granted op s') (h : op.owns field = false) :
    s'.get? field = s.get? field := by
  have hrecord : op.record? ≠ some field.owner := of_decide_eq_false h
  refine hgranted.get?_of_not_mem fun hmem => hrecord ?_
  cases op <;> cases field <;> simp [StateOp.writes] at hmem <;> rfl

end FlowState

/-! ## The granted records tell the state -/

namespace FlowState

variable {op : StateOp} {ops : List StateOp} {record : Record}

/-- What has become of operations agrees with the records among them that were granted: these lead
to an open or a closed state of their own, and a failure does no more than to close it. -/
structure Told (ops : List StateOp) : Prop where
  word : (new.afterAll (new.accepted ops)).stage.word? = some (recordsOf (new.accepted ops))
  replayed : new.afterAll ops =
    new.afterAll (new.accepted ops ++ ((new.failure? ops).map StateOp.fail).toList)
  stillOpen : ∀ reason, new.failure? ops = some reason →
    (new.afterAll (new.accepted ops)).stage.isTerminal = false
  /-- At most one of the records fills a field, and the field holds what that one was given. -/
  fields : ∀ field, ∃ call : Option StateOp,
    (new.accepted ops).filter (·.owns field) = call.toList ∧
    (new.afterAll (new.accepted ops)).get? field = call.bind (·.argument? field)

namespace Told

theorem nil : Told [] where
  word := rfl
  replayed := rfl
  stillOpen _ h := nomatch h
  fields field := ⟨none, rfl, by cases field <;> rfl⟩

theorem afterAll_of_none (h : Told ops) (hnone : new.failure? ops = none) :
    new.afterAll ops = new.afterAll (new.accepted ops) := by
  rw [h.replayed, hnone]
  simp

theorem afterAll_of_some (h : Told ops) {reason : String}
    (hsome : new.failure? ops = some reason) :
    new.afterAll ops = { new.afterAll (new.accepted ops) with stage := .failed reason } := by
  rw [h.replayed, hsome, Option.map_some, Option.toList_some, afterAll_append]
  exact fail_of_open (h.stillOpen reason hsome) reason

/-- Where a record is granted, nothing has failed yet. -/
theorem failure?_eq_none (h : Told ops) (hstage : (new.afterAll ops).stage = record.stage) :
    new.failure? ops = none := by
  cases hfailure : new.failure? ops with
  | none => rfl
  | some reason =>
    rw [h.afterAll_of_some hfailure] at hstage
    cases record <;> cases hstage

/-- A record is granted exactly if it continues the word and nothing has failed. -/
theorem granted_iff (h : Told ops) (hrecord : op.record? = some record) :
    ((new.afterAll ops).undergo op).1 = .ok () ↔
      IsWord (recordsOf (new.accepted ops) ++ [record]) ∧ new.failure? ops = none := by
  rw [undergo_record hrecord, isWord_concat_iff h.word]
  constructor
  · intro hstage
    have hnone := h.failure?_eq_none hstage
    exact ⟨h.afterAll_of_none hnone ▸ hstage, hnone⟩
  · rintro ⟨hstage, hnone⟩
    rw [h.afterAll_of_none hnone]
    exact hstage

/-- An operation that changes nothing is not told of. -/
theorem concat_of_eq (h : Told ops) (haccepts : (new.afterAll ops).accepts op = false)
    (hfailure : new.failure? (ops ++ [op]) = new.failure? ops)
    (hafter : (new.afterAll ops).after op = new.afterAll ops) : Told (ops ++ [op]) := by
  have haccepted : new.accepted (ops ++ [op]) = new.accepted ops := by
    simp [accepted_concat, haccepts]
  have hsame : new.afterAll (ops ++ [op]) = new.afterAll ops := by
    rw [afterAll_append]
    exact hafter
  obtain ⟨hword, hreplayed, hopen, hfields⟩ := h
  constructor <;> simpa only [haccepted, hfailure, hsame]

/-- A failure that takes effect closes the state that the granted records lead to. -/
theorem concat_failure (h : Told ops) (reason : String)
    (hopen : (new.afterAll ops).stage.isTerminal = false) :
    Told (ops ++ [.fail reason]) := by
  have hnone : new.failure? ops = none := by
    cases hfailure : new.failure? ops with
    | none => rfl
    | some reason =>
      rw [h.afterAll_of_some hfailure] at hopen
      cases hopen
  have hafter := h.afterAll_of_none hnone
  have haccepted : new.accepted (ops ++ [.fail reason]) = new.accepted ops := by
    rw [accepted_concat]
    exact List.append_nil _
  have hfailure : new.failure? (ops ++ [.fail reason]) = some reason := by
    rw [failure?_concat, hnone, failsFor?_eq_some_iff.mpr ⟨rfl, hopen⟩]
    rfl
  exact
    { word := by rw [haccepted]; exact h.word
      replayed := by
        rw [haccepted, hfailure, afterAll_append, hafter, ← afterAll_append]
        rfl
      stillOpen := by
        intro _ _
        rw [haccepted, ← hafter]
        exact hopen
      fields := by rw [haccepted]; exact h.fields }

/-- A record that is granted continues the word and fills its own fields. -/
theorem concat_record (h : Told ops) (hrecord : op.record? = some record)
    (hstage : (new.afterAll ops).stage = record.stage) : Told (ops ++ [op]) := by
  have hnone := h.failure?_eq_none hstage
  have hafter := h.afterAll_of_none hnone
  have hok := (undergo_record hrecord).mpr hstage
  have hisWord := ((h.granted_iff hrecord).mp hok).1
  obtain ⟨s', hrun, hgranted⟩ : ∃ s', (new.afterAll ops).undergo op = (.ok (), s') ∧
      (new.afterAll ops).Granted op s' := by
    rcases (new.afterAll ops).undergo_cases op with hcase | ⟨expected, -, hrun⟩
    · exact hcase
    · rw [hrun] at hok
      cases hok
  have haccepted : new.accepted (ops ++ [op]) = new.accepted ops ++ [op] := by
    rw [accepted_concat, if_pos (accepts_iff.mpr ⟨record, hrecord, hstage⟩)]
  have hfailure : new.failure? (ops ++ [op]) = none := by
    have hfails : (new.afterAll ops).failsFor? op = none := by
      cases op with
      | fail => cases hrecord
      | _ => rfl
    rw [failure?_concat, hnone, hfails]
    rfl
  have hone : (new.afterAll (new.accepted ops)).afterAll [op] = s' := by
    rw [← hafter]
    exact congrArg Prod.snd hrun
  rw [hafter] at hstage hgranted
  exact
    { word := by
        obtain ⟨w, hbefore, hnext⟩ := word?_next record
        have hw : w = recordsOf (new.accepted ops) := by
          have hword := h.word
          rw [hstage, hbefore] at hword
          exact Option.some.inj hword
        rw [haccepted, afterAll_append, hone, (hgranted.stage_eq hrecord).2, hnext, hw]
        simp [recordsOf, hrecord]
      replayed := by
        rw [haccepted, hfailure, afterAll_append, hafter]
        simp [afterAll_append]
      stillOpen := by
        intro reason hreason
        rw [hfailure] at hreason
        cases hreason
      fields := by
        intro field
        rw [haccepted, afterAll_append, hone, List.filter_append]
        cases howns : op.owns field with
        | false =>
          obtain ⟨call, hcall, hvalue⟩ := h.fields field
          refine ⟨call, ?_, ?_⟩
          · simpa [howns] using hcall
          · rw [hgranted.get?_of_not_owns howns]
            exact hvalue
        | true =>
          -- a word names no record twice, so no other record has filled the field
          have howner : field.owner = record :=
            Option.some.inj ((of_decide_eq_true howns).symm.trans hrecord)
          have hfresh : field.owner ∉ recordsOf (new.accepted ops) := by
            intro hmem
            have hnodup := nodup_of_isWord hisWord
            rw [List.nodup_append] at hnodup
            exact hnodup.2.2 _ hmem record (List.mem_singleton_self record) howner
          refine ⟨some op, ?_, hgranted.get?_of_owns howns⟩
          simp [filter_owns_of_not_mem hfresh, howns] }

end Told

/-- Whatever a new state undergoes, the granted records tell what becomes of it. -/
theorem told (ops : List StateOp) : Told ops := by
  induction ops using List.reverseRecOn with
  | nil => exact .nil
  | append_singleton ops op ih =>
    cases haccepts : (new.afterAll ops).accepts op with
    | true =>
      obtain ⟨record, hrecord, hstage⟩ := accepts_iff.mp haccepts
      exact ih.concat_record hrecord hstage
    | false =>
      cases hfails : (new.afterAll ops).failsFor? op with
      | none =>
        refine ih.concat_of_eq haccepts ?_ (after_of_not_accepts haccepts hfails)
        rw [failure?_concat, hfails, Option.or_none]
      | some reason =>
        obtain ⟨rfl, hopen⟩ := failsFor?_eq_some_iff.mp hfails
        exact ih.concat_failure reason hopen

/-! ## The language -/

/-- A new state that undergoes operations keeps to the language of logins. -/
structure Obeys (ops : List StateOp) : Prop where
  /-- The granted records spell a word, as far as they come. -/
  word : IsWord (recordsOf (new.accepted ops))
  /-- Behind a failure none is granted, whether or not the failure took effect. -/
  silent : ∀ before reason later, ops = before ++ .fail reason :: later →
    new.accepted ops = new.accepted before
  /-- One more record is granted exactly if it continues the word and nothing has failed. -/
  granted : ∀ op record, op.record? = some record →
    (((new.afterAll ops).undergo op).1 = .ok () ↔
      IsWord (recordsOf (new.accepted ops) ++ [record]) ∧ new.failure? ops = none)
  /-- The granted records alone, and the failure that ended them, lead to the same state. -/
  replayed : new.afterAll (new.accepted ops ++ ((new.failure? ops).map StateOp.fail).toList) =
    new.afterAll ops
  /-- At most one granted record fills a field, and the field holds what that one was given. -/
  fields : ∀ field, ∃ call : Option StateOp,
    (new.accepted ops).filter (·.owns field) = call.toList ∧
    (new.afterAll ops).get? field = call.bind (·.argument? field)

/-- Whatever a new state undergoes, it keeps to the language of logins. -/
theorem language_obeyed (ops : List StateOp) : Obeys ops where
  word := isWord_of_word? (told ops).word
  silent before reason later hops := by
    have hclosed : (new.afterAll (before ++ [.fail reason])).stage.isTerminal = true := by
      rw [afterAll_append]
      exact (new.afterAll before).isTerminal_fail reason
    rw [hops, ← List.singleton_append, ← List.append_assoc, accepted_append,
      accepted_of_terminal hclosed, List.append_nil, accepted_concat]
    -- a failure records nothing itself
    exact List.append_nil _
  granted op record hrecord := (told ops).granted_iff hrecord
  replayed := (told ops).replayed.symm
  fields field := by
    obtain ⟨call, hcall, hvalue⟩ := (told ops).fields field
    refine ⟨call, hcall, hvalue ▸ ?_⟩
    cases hfailure : new.failure? ops with
    | none => rw [(told ops).afterAll_of_none hfailure]
    -- a failure leaves all fields as they are
    | some reason =>
      rw [(told ops).afterAll_of_some hfailure]
      cases field <;> rfl

end FlowState

end CodeFlow
