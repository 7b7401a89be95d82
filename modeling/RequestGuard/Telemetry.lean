import RequestGuard.Json.Written
import RequestGuard.Table

/-!
# Telemetry

What the guards show of their work: a counter for each kind of decision, a span for
each operation that waits on other parties, and an event when the renewal of a quota
starts or stops. Spans and events are collected until they are taken.
-/

namespace RequestGuard

inductive GuardKind where
  /-- Admission of requests, per client. -/
  | admission
  /-- Exchange of refresh tokens. -/
  | refresh
  /-- Invalidation of refresh tokens. -/
  | logout
deriving DecidableEq

namespace GuardKind

def all : List GuardKind := [.admission, .refresh, .logout]

def label : GuardKind → String
  | .admission => "admission"
  | .refresh => "refresh"
  | .logout => "logout"

def diagnostic : GuardKind → String
  | .admission => "Admission"
  | .refresh => "Refresh"
  | .logout => "Logout"

end GuardKind

/-- What a guard came to. -/
inductive GuardOutcome where
  /-- The request was admitted. -/
  | allowed
  /-- The request was turned away. -/
  | denied
  /-- The exchange or the invalidation went through. -/
  | granted
  /-- A replay was found, and dealt with. -/
  | replay
  /-- The guard was let down. -/
  | failure
deriving DecidableEq

namespace GuardOutcome

def all : List GuardOutcome := [.allowed, .denied, .granted, .replay, .failure]

def label : GuardOutcome → String
  | .allowed => "allowed"
  | .denied => "denied"
  | .granted => "granted"
  | .replay => "replay"
  | .failure => "failure"

def diagnostic : GuardOutcome → String
  | .allowed => "Allowed"
  | .denied => "Denied"
  | .granted => "Granted"
  | .replay => "Replay"
  | .failure => "Failure"

end GuardOutcome

/-- An operation of a guard, by the place where it began. -/
structure GuardSpan where
  guard : GuardKind
  stage : String
deriving DecidableEq

/-- The name that all spans have. -/
def GuardSpan.name : String := "shortener_guard.guard"

/-- What happened to a renewal. -/
inductive RenewalChange where
  | started
  | stopped
deriving DecidableEq

def RenewalChange.label : RenewalChange → String
  | .started => "started"
  | .stopped => "stopped"

/-- The renewal of a client's quota started or stopped. -/
structure RenewalEvent where
  change : RenewalChange
  key : String
deriving DecidableEq

namespace RenewalEvent

/-- The message that all events have. -/
def message : String := "renewal task"

def written (e : RenewalEvent) : List Char :=
  Written.object [
    Written.member "event".toList (Written.text e.change.label.toList),
    Written.member "key".toList (Written.text e.key.toList),
    Written.member "message".toList (Written.text message.toList)]

/-- Events in the order of their written forms. The order in which renewals of
different clients run is not fixed, this one is. -/
def sorted (events : List RenewalEvent) : List RenewalEvent :=
  events.mergeSort fun a b => String.ofList a.written ≤ String.ofList b.written

end RenewalEvent

/-- The counters of decisions, and the spans and events since they were last taken. -/
structure Telemetry where
  decisions : Table (GuardKind × GuardOutcome) Nat
  spans : List GuardSpan
  events : List RenewalEvent
deriving Inhabited

namespace Telemetry

/-- Before anything happened. -/
def none : Telemetry := ⟨.empty, [], []⟩

/-- How often a guard came to an outcome. -/
def count (t : Telemetry) (guard : GuardKind) (outcome : GuardOutcome) : Nat :=
  (t.decisions.get? (guard, outcome)).getD 0

/-- Counts a decision. -/
def decide (t : Telemetry) (guard : GuardKind) (outcome : GuardOutcome) : Telemetry :=
  { t with decisions := t.decisions.insert (guard, outcome) (t.count guard outcome + 1) }

def openSpan (t : Telemetry) (guard : GuardKind) (stage : String) : Telemetry :=
  { t with spans := t.spans ++ [⟨guard, stage⟩] }

def emit (t : Telemetry) (events : List RenewalEvent) : Telemetry :=
  { t with events := t.events ++ events }

def cleared (t : Telemetry) : Telemetry := { t with spans := [], events := [] }

/-- The name of the counter of a decision. -/
def counterName (guard : GuardKind) (outcome : GuardOutcome) : String :=
  "shortener_guard_decision_total\x7bguard=" ++ guard.label ++ ",outcome=" ++ outcome.label ++
    "\x7d"

/-- The counters that are not zero, by name. -/
def counters (t : Telemetry) : List (String × Nat) :=
  t.decisions.bindings.map fun b => (counterName b.1.1 b.1.2, b.2)

/-- A decision counts for itself alone. -/
@[simp] theorem count_decide (t : Telemetry) (g g' : GuardKind) (o o' : GuardOutcome) :
    (t.decide g o).count g' o' =
      if g = g' ∧ o = o' then t.count g o + 1 else t.count g' o' := by
  by_cases h : g = g' ∧ o = o'
  · simp [decide, count, h]
  · have : (g, o) ≠ (g', o') := fun e => h (Prod.mk.inj e)
    simp [decide, count, h, this]

end Telemetry

end RequestGuard
