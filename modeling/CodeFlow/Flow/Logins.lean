import CodeFlow.Flow.Attempt

/-!
# Many logins of one flow

Any number of logins may be begun and run on one flow, in any order and with registrations between
them. Each operation takes one turn of the random source, so that no two of them draw the same
bytes.
-/

namespace CodeFlow

/-- Where random bytes come from: those of each turn. -/
abbrev DrawSource := Nat → LoginDraws

/-- The logins of a flow in the order in which they were begun, without those that were finished. -/
structure Logins where
  attempts : List (Option Attempt)
  /-- The turn of the random source that comes next. -/
  turn : Nat

/-- What can be done with a flow. -/
inductive LoginOp where
  | begin
  /-- Runs a login that was begun. -/
  | run (index : Nat) (c : Credentials)
  /-- Begins and runs a login. -/
  | login (c : Credentials)
  | register (c : Credentials)
  | verify (code : String)
  /-- Gives up a login for its state. -/
  | finish (index : Nat)

/-- What comes of it. -/
inductive LoginAnswer where
  | begun (index : Nat) (a : Attempt)
  | ran (result : Except FlowError LoginOutcome) (a : Attempt)
  | loggedIn (result : Except FlowError LoginOutcome)
  | registered (result : Except FlowError RegistrationOutcome)
  | verified (result : Except FlowError Unit)
  | finished (state : FlowState)
  | noAttempt

namespace Logins

/-- No logins yet. -/
def none : Logins := ⟨[], 0⟩

/-- A login that has not been finished. -/
def attempt? (s : Logins) (index : Nat) : Option Attempt := (s.attempts[index]?).join

/-- The logins with another in the place of one of them. -/
def set (s : Logins) (index : Nat) (a : Option Attempt) : Logins :=
  { s with attempts := s.attempts.set index a }

/-- The logins at the next turn. -/
def next (s : Logins) : Logins := { s with turn := s.turn + 1 }

/-- Does one thing with a flow. -/
def perform (f : LoginFlow) (source : DrawSource) (s : Logins) :
    LoginOp → Dialogue (LoginAnswer × Logins)
  | .begin =>
    let a := LoginFlow.begin (source s.turn).verifier (source s.turn).state
    pure (.begun s.attempts.length a, { s.next with attempts := s.attempts ++ [some a] })
  | .run index c =>
    match s.attempt? index with
    | Option.none => pure (.noAttempt, s.next)
    | some a => do
      let (result, a) ← a.run f (source s.turn).password c
      pure (.ran result a, s.next.set index (some a))
  | .login c => do
    let (result, _) ← f.login (source s.turn) c
    pure (.loggedIn result, s.next)
  | .register c => do
    let result ← (f.register (source s.turn).password c).run
    pure (.registered result, s.next)
  | .verify code => do
    let result ← (f.verifyAccount code).run
    pure (.verified result, s.next)
  | .finish index =>
    match s.attempt? index with
    | Option.none => pure (.noAttempt, s.next)
    | some a => pure (.finished a.state, s.next.set index Option.none)

/-- Does several things with a flow, one after another. -/
def performAll (f : LoginFlow) (source : DrawSource) (s : Logins) :
    List LoginOp → Dialogue (List LoginAnswer × Logins)
  | [] => pure ([], s)
  | op :: ops => do
    let (answer, s) ← s.perform f source op
    let (answers, s) ← s.performAll f source ops
    pure (answer :: answers, s)

end Logins

end CodeFlow
