import CodeFlow.Time.Calendar

/-!
# Instants

An instant is a count of seconds from the start of 1970 in universal time, with nanoseconds. A
leap second is written as a second billion of nanoseconds on the last second of its minute, so
the instants within it follow those of the second before. Instants span the years -262143 to
262142, and moving one by a number of seconds fails where that would leave the span.
-/

namespace CodeFlow.Time

/-! ## The type -/

/-- The first second of the span. -/
def firstSecond : Int := (Date.toDays ⟨-262143, 1, 1⟩) * 86400

/-- The last second of the span. -/
def lastSecond : Int := (Date.toDays ⟨262142, 12, 31⟩) * 86400 + 86399

/-- Nanoseconds in a second. -/
def billion : Nat := 1000000000

/-- The seconds lie in the span, and the nanoseconds reach into a second billion only on the last
second of a minute. -/
def InSpan (seconds : Int) (nanos : Nat) : Prop :=
  firstSecond ≤ seconds ∧ seconds ≤ lastSecond ∧
    (nanos < billion ∨ (nanos < 2 * billion ∧ seconds % 60 = 59))

instance (seconds : Int) (nanos : Nat) : Decidable (InSpan seconds nanos) :=
  inferInstanceAs (Decidable (_ ∧ _ ∧ _))

/-- A point in time. -/
structure Instant where
  seconds : Int
  nanos : Nat
  inSpan : InSpan seconds nanos
deriving DecidableEq

/-- The instant with these seconds and nanoseconds, if there is one. -/
def Instant.ofParts? (seconds : Int) (nanos : Nat) : Option Instant :=
  if h : InSpan seconds nanos then some ⟨seconds, nanos, h⟩ else none

/-- The start of 1970. -/
def Instant.epoch : Instant :=
  ⟨0, 0, by decide +kernel⟩

/-- The instant lies in a leap second. -/
def Instant.isLeap (t : Instant) : Bool :=
  billion ≤ t.nanos

/-! ## Order and movement -/

/-- Not later: by seconds, then by nanoseconds. -/
def Instant.le (a b : Instant) : Bool :=
  a.seconds < b.seconds || (a.seconds == b.seconds && a.nanos ≤ b.nanos)

/-- Moves by whole seconds, within the span. A move out of a leap second starts from the second
before it going forward, and from the second after it going back. -/
def Instant.addSeconds? (t : Instant) (s : Int) : Option Instant :=
  if t.isLeap then
    if 0 < s then ofParts? (t.seconds + s) (t.nanos - billion)
    else if s < 0 then ofParts? (t.seconds + 1 + s) (t.nanos - billion)
    else some t
  else ofParts? (t.seconds + s) t.nanos

theorem Instant.ofParts?_self (t : Instant) : ofParts? t.seconds t.nanos = some t := by
  simp [ofParts?, t.inSpan]

theorem Instant.ofParts?_eq_some_iff {s : Int} {n : Nat} {t : Instant} :
    ofParts? s n = some t ↔ t.seconds = s ∧ t.nanos = n := by
  constructor
  · intro h
    unfold ofParts? at h
    split at h
    · cases h; exact ⟨rfl, rfl⟩
    · cases h
  · rintro ⟨rfl, rfl⟩
    exact ofParts?_self t

end CodeFlow.Time
