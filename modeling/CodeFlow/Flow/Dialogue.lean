import CodeFlow.Http.Message

/-!
# Dialogues with servers

A dialogue is what a client is going to say: a request whose reply decides how to go on, a warning
for the log, or a result. It can be played against a script of replies, which tells what was sent,
what was logged and what came of it, or be spoken over a network.
-/

namespace CodeFlow

open CodeFlow.Http

/-! ## Dialogues -/

/-- What is logged as a warning. -/
inductive Warning where
  /-- The session cookie was not where it usually is. -/
  | sessionPosition (cookie : String) (expected actual : Nat)
  /-- The backend knows the user who was to be registered. -/
  | alreadyRegistered (message : String)
  /-- A user who was to be registered is logged in instead. -/
  | loggingIn (message : String)
deriving DecidableEq

/-- What is said in a warning. -/
def Warning.text : Warning → String
  | .sessionPosition _ _ _ => "Session cookie not at its usual position"
  | .alreadyRegistered _ => "Registration refused, user exists"
  | .loggingIn _ => "User already registered, logging in"

/-- What is said in a warning with the values it names. -/
def Warning.fields : Warning → List (String × String)
  | w@(.sessionPosition cookie expected actual) =>
    [("cookie", cookie), ("expected", toString expected), ("actual", toString actual),
      ("message", w.text)]
  | w@(.alreadyRegistered message) => [("message", w.text), ("message", message)]
  | w@(.loggingIn message) => [("message", w.text), ("message", message)]

/-- What a client is going to say. -/
inductive Dialogue (α : Type) where
  | done (a : α)
  | send (r : Request) (next : Reply → Dialogue α)
  | warn (w : Warning) (next : Dialogue α)

namespace Dialogue

variable {α β : Type}

/-- One dialogue after another. -/
def andThen : Dialogue α → (α → Dialogue β) → Dialogue β
  | .done a, f => f a
  | .send r next, f => .send r fun reply => (next reply).andThen f
  | .warn w next, f => .warn w (next.andThen f)

instance : Monad Dialogue where
  pure := .done
  bind := andThen

/-- Sends a request. -/
def ask (r : Request) : Dialogue Reply :=
  .send r .done

/-- Logs a warning. -/
def log (w : Warning) : Dialogue Unit :=
  .warn w (.done ())

theorem andThen_done (d : Dialogue α) : d.andThen .done = d := by
  induction d with
  | done a => rfl
  | send r next ih => simp only [andThen, ih]
  | warn w next ih => simp only [andThen, ih]

theorem andThen_assoc {γ : Type} (d : Dialogue α) (f : α → Dialogue β) (g : β → Dialogue γ) :
    (d.andThen f).andThen g = d.andThen fun a => (f a).andThen g := by
  induction d with
  | done a => rfl
  | send r next ih => simp only [andThen, ih]
  | warn w next ih => simp only [andThen, ih]

instance : LawfulMonad Dialogue where
  map_const := rfl
  id_map d := andThen_done d
  seqLeft_eq d e := by
    change d.andThen (fun a => e.andThen fun _ => .done a) =
      (d.andThen fun a => .done (Function.const _ a)).andThen fun f => e.andThen fun b => .done (f b)
    rw [andThen_assoc]
    rfl
  seqRight_eq d e := by
    change d.andThen (fun _ => e) =
      (d.andThen fun _ => .done id).andThen fun f => e.andThen fun b => .done (f b)
    rw [andThen_assoc]
    exact congrArg _ (funext fun _ => (andThen_done e).symm)
  pure_seq _ _ := rfl
  bind_pure_comp _ _ := rfl
  bind_map _ _ := rfl
  pure_bind _ _ := rfl
  bind_assoc := andThen_assoc

/-! ## Playing against a script -/

/-- What happened when a dialogue was played. -/
structure Transcript (α : Type) where
  result : α
  /-- The requests in the order in which they were given to the network. -/
  requests : List Request
  warnings : List Warning
  /-- The replies that nobody asked for. -/
  unread : List Reply

/-- Plays a dialogue against replies, one for each request. When they are used up, connections end
without an answer. -/
def play : Dialogue α → List Reply → Transcript α
  | .done a, replies => ⟨a, [], [], replies⟩
  | .send r next, [] =>
    let t := (next .dropped).play []
    { t with requests := r :: t.requests }
  | .send r next, reply :: replies =>
    let t := (next reply).play replies
    { t with requests := r :: t.requests }
  | .warn w next, replies =>
    let t := next.play replies
    { t with warnings := w :: t.warnings }

/-- Speaks a dialogue over a network. -/
def speak {m : Type → Type} [Monad m] (send : Request → m Reply) (warn : Warning → m Unit) :
    Dialogue α → m α
  | .done a => pure a
  | .send r next => do (next (← send r)).speak send warn
  | .warn w next => do
    warn w
    next.speak send warn

end Dialogue

end CodeFlow
