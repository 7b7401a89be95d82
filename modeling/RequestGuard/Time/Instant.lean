/-!
# Instants and spans

Time is counted in whole nanoseconds: an instant from the start of 1970 in UTC, a
span from one instant to another, so both may be negative. The calendar covers the
years -9999 to 9999. Every instant that a clock shows lies in it, and an addition
that would leave it has no result.
-/

namespace RequestGuard

abbrev nanosPerSecond : Int := 1000000000

/-- A signed length of time. -/
structure Span where
  nanos : Int
deriving DecidableEq, Inhabited

namespace Span

def ofSeconds (s : Int) : Span := ⟨s * nanosPerSecond⟩

/-- A span is positive when it is longer than nothing. -/
def Positive (s : Span) : Prop := 0 < s.nanos

instance : DecidablePred Positive := fun s => inferInstanceAs (Decidable (0 < s.nanos))

/-- Whole seconds, cut off towards zero. -/
def seconds (s : Span) : Int := s.nanos.tdiv nanosPerSecond

/-- The nanoseconds beyond the whole seconds; they carry the sign of the span. -/
def subseconds (s : Span) : Int := s.nanos.tmod nanosPerSecond

theorem positive_iff (s : Span) : s.Positive ↔ 0 < s.nanos := Iff.rfl

end Span

structure Instant where
  nanos : Int
deriving DecidableEq, Inhabited

namespace Instant

instance : LT Instant := ⟨fun a b => a.nanos < b.nanos⟩

instance : LE Instant := ⟨fun a b => a.nanos ≤ b.nanos⟩

instance (a b : Instant) : Decidable (a < b) := inferInstanceAs (Decidable (a.nanos < b.nanos))

instance (a b : Instant) : Decidable (a ≤ b) := inferInstanceAs (Decidable (a.nanos ≤ b.nanos))

theorem lt_iff (a b : Instant) : a < b ↔ a.nanos < b.nanos := Iff.rfl

theorem le_iff (a b : Instant) : a ≤ b ↔ a.nanos ≤ b.nanos := Iff.rfl

theorem lt_of_le_of_lt {t u v : Instant} (h : t ≤ u) (h' : u < v) : t < v :=
  Int.lt_of_le_of_lt h h'

theorem lt_of_lt_of_le {t u v : Instant} (h : t < u) (h' : u ≤ v) : t < v :=
  Int.lt_of_lt_of_le h h'

theorem not_le {t u : Instant} : ¬ t ≤ u ↔ u < t := Int.not_le

theorem not_lt {t u : Instant} : ¬ t < u ↔ u ≤ t := Int.not_lt

/-- The first moment of the year -9999. -/
def earliest : Instant := ⟨-377705116800 * nanosPerSecond⟩

/-- The last nanosecond of the year 9999. -/
def latest : Instant := ⟨253402300799 * nanosPerSecond + 999999999⟩

def InCalendar (t : Instant) : Prop := earliest ≤ t ∧ t ≤ latest

instance : DecidablePred InCalendar := fun t =>
  inferInstanceAs (Decidable (earliest ≤ t ∧ t ≤ latest))

def ofSeconds (s : Int) : Instant := ⟨s * nanosPerSecond⟩

/-- The whole second in which the moment lies, counted from 1970. -/
def seconds (t : Instant) : Int := t.nanos / nanosPerSecond

/-- The nanoseconds since that second began: never negative, also before 1970. -/
def subseconds (t : Instant) : Int := t.nanos % nanosPerSecond

/-- The span from `u` to `t`. -/
def since (t u : Instant) : Span := ⟨t.nanos - u.nanos⟩

theorem since_positive {t u : Instant} (h : u < t) : (t.since u).Positive := Int.sub_pos_of_lt h

/-- The moment a span later, if the calendar covers it. -/
def add? (t : Instant) (s : Span) : Option Instant :=
  if InCalendar ⟨t.nanos + s.nanos⟩ then some ⟨t.nanos + s.nanos⟩ else none

theorem add?_eq_some {t u : Instant} {s : Span} (h : t.add? s = some u) :
    u.nanos = t.nanos + s.nanos := by
  unfold add? at h
  split at h
  · injection h with h
    rw [← h]
  · contradiction

end Instant

end RequestGuard
