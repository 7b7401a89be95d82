import RequestGuard.Admission.Policy
import RequestGuard.Admission.Quota

/-!
# Admission control

Each client has a quota of its own, made at its first request together with the
renewal that empties it once in every window. So a client may spend one quota right
before the end of a window and another one right after it, but never more. Quotas are
kept as long as the controller lives.

A shutdown begins with a request to stop, upon which nothing is admitted any more and
each renewal stops when it runs next. Renewals that have not run by the deadline are
cut off and reported.
-/

namespace RequestGuard

inductive Admission where
  | allowed
  | denied
deriving DecidableEq

def Admission.outcome : Admission → GuardOutcome
  | .allowed => .allowed
  | .denied => .denied

/-- The counters of a controller. Each has a word of 64 bits. The requests are taken to stay below
2^64, so that no counter wraps around. -/
structure AdmissionMetrics where
  allowed : Nat
  denied : Nat
  renewalsStarted : Nat
deriving DecidableEq, Inhabited

/-- A controller: its policy, the quota of each client seen so far, whether it was asked
to stop, and what it counts. Handles to a controller share all of it. -/
structure Controller where
  policy : AdmissionPolicy
  quotas : Table String Quota
  cancelled : Bool
  metrics : AdmissionMetrics
  telemetry : Telemetry

namespace Controller

def new (p : AdmissionPolicy) : Controller := ⟨p, .empty, false, ⟨0, 0, 0⟩, .none⟩

def ofConfig (c : AdmissionConfig) : Except ConfigError Controller := c.validate.map new

def trackedKeys (c : Controller) : Nat := c.quotas.size

/-- The permits that a client has left, if it was seen. -/
def remaining? (c : Controller) (key : String) : Option Nat :=
  (c.quotas.get? key).map fun q => q.remaining c.policy.capacity

def diagnostic (c : Controller) : String :=
  Diagnostic.record "AdmissionController" [
    ("capacity", toString c.policy.capacity), ("window", c.policy.windowText),
    ("tracked_keys", toString c.trackedKeys), ("shut_down", toString c.cancelled)]

/-- The controller with a quota for a client. Looking for the quota and making it is one step,
since the map locks the place of the client meanwhile. -/
def find (c : Controller) (key : String) : Controller :=
  match c.quotas.get? key with
  | some _ => c
  | none => { c with quotas := c.quotas.insert key .new }

/-- The controller with a renewal for a client that has a quota. This is one step as well, under
the lock of the quota. -/
def ensureRenewal (c : Controller) (key : String) : Controller :=
  match c.quotas.get? key with
  | none => c
  | some q =>
    if q.renewal = .absent then { c with
      quotas := c.quotas.insert key q.withRenewal
      metrics := { c.metrics with renewalsStarted := c.metrics.renewalsStarted + 1 } }
    else c

def acquire? (c : Controller) (key : String) : Option Controller := do
  let quota ← c.quotas.get? key
  let quota ← quota.acquire? c.policy.capacity
  pure { c with quotas := c.quotas.insert key quota }

/-- The answer to a request of a tracked client, with the controller after it. -/
def answer (c : Controller) (key : String) : Admission × Controller :=
  match c.acquire? key with
  | some c => (.allowed, c)
  | none => (.denied, c)

def tally (c : Controller) : Admission → Controller
  | .allowed => { c with metrics := { c.metrics with allowed := c.metrics.allowed + 1 } }
  | .denied => { c with metrics := { c.metrics with denied := c.metrics.denied + 1 } }

def publish (c : Controller) (a : Admission) : Controller :=
  { c with telemetry := c.telemetry.decide .admission a.outcome }

def request (c : Controller) (key : String) : Admission × Controller :=
  let (a, c) := if c.cancelled then (.denied, c) else ((c.find key).ensureRenewal key).answer key
  (a, (c.tally a).publish a)

def requestMany (c : Controller) (key : String) : Nat → List Admission × Controller
  | 0 => ([], c)
  | n + 1 =>
    let (answer, c) := c.request key
    let (answers, c) := c.requestMany key n
    (answer :: answers, c)

def runOne (c : Controller) (run : Quota → Quota × List RenewalChange) (key : String) :
    Controller :=
  match c.quotas.get? key with
  | none => c
  | some q => { c with
    quotas := c.quotas.insert key (run q).1
    telemetry := c.telemetry.emit ((run q).2.map fun change => ⟨change, key⟩) }

def runAll (c : Controller) (run : Quota → Quota × List RenewalChange) : Controller :=
  { c with
    quotas := c.quotas.mapValues fun _ q => (run q).1
    telemetry := c.telemetry.emit
      (c.quotas.bindings.flatMap fun b => (run b.2).2.map fun change => ⟨change, b.1⟩) }

/-- A run of a renewal at `now`, once. -/
def polling (c : Controller) (now : Nat) (q : Quota) : Quota × List RenewalChange :=
  q.poll c.policy.window c.cancelled now

/-- Runs the renewal of one client at `now`, once. -/
def poll (c : Controller) (now : Nat) (key : String) : Controller := c.runOne (c.polling now) key

def pollAll (c : Controller) (now : Nat) : Controller := c.runAll (c.polling now)

/-- Runs every renewal at `now` after the last handle was dropped. -/
def pollAllReleased (c : Controller) (now : Nat) : Controller :=
  c.runAll fun q => q.pollReleased now

/-- Time passes up to `now`, and every tick is served when it is due. -/
def sleepUntil (c : Controller) (now : Nat) : Controller :=
  { c with quotas := c.quotas.mapValues fun _ q => q.sleepUntil c.policy.window now }

/-- The clock jumps to `now`, and ticks are served late. -/
def jumpTo (c : Controller) (now : Nat) : Controller :=
  { c with quotas := c.quotas.mapValues fun _ q => q.jumpTo c.policy.window now }

def requestShutdown (c : Controller) : Controller :=
  { c with cancelled := true, telemetry := c.telemetry.openSpan .admission "shutdown" }

/-- The clients whose renewals may still run, in ascending order. -/
def pending (c : Controller) : List String :=
  (c.quotas.filter fun _ q => q.renewal.isLive).keys.mergeSort fun a b => a ≤ b

/-- Ends a shutdown at its deadline: cuts off what still runs and reports it. -/
def giveUp (c : Controller) : Except Failure Unit × Controller :=
  let stuck := c.pending
  (if stuck.isEmpty then .ok () else .error (.shutdown stuck),
    { c with quotas := c.quotas.mapValues fun _ q => q.abort })

end Controller

end RequestGuard
