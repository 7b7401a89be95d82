import RequestGuard.Telemetry

/-!
# Quotas

A client's quota counts the permits that it has taken since its renewal last emptied
it. The renewal waits for one tick after another. A tick that is served when it is due
puts the next one a window later; one that is served later than a timer may be late
puts it a window after the moment at which it is served, so ticks do not pile up
behind a stalled process.

Time is counted in milliseconds.
-/

namespace RequestGuard

/-- Where the renewal of a quota stands. -/
inductive Renewal where
  /-- Nobody has started it. -/
  | absent
  /-- It was started, and has not run yet. -/
  | fresh
  /-- It waits for the tick that is due at a moment. -/
  | waiting (due : Nat)
  /-- It came to its end. -/
  | stopped
  /-- It was cut off. -/
  | aborted
deriving DecidableEq

def Renewal.isLive : Renewal → Bool
  | .fresh | .waiting _ => true
  | .absent | .stopped | .aborted => false

/-- How late a timer may be, in milliseconds, without being called late. -/
abbrev timerTolerance : Nat := 5

/-- When the tick after the one due at `due` is due, if that one is served at `now`. -/
def nextDue (window due now : Nat) : Nat :=
  if due + timerTolerance < now then now + window else due + window

/-- The permits that a client has taken, and the renewal that gives them back. -/
structure Quota where
  used : Nat
  renewal : Renewal
deriving DecidableEq

namespace Quota

/-- The quota of a client not seen before. -/
def new : Quota := ⟨0, .absent⟩

/-- The quota once its renewal was started. A renewal is started once, whoever asks for it. -/
def withRenewal (q : Quota) : Quota :=
  if q.renewal = .absent then { q with renewal := .fresh } else q

/-- Takes a permit if fewer than `capacity` are taken. -/
def acquire? (q : Quota) (capacity : Nat) : Option Quota :=
  if q.used < capacity then some { q with used := q.used + 1 } else none

def remaining (q : Quota) (capacity : Nat) : Nat := capacity - q.used

/-- Runs the renewal at `now` once. Its first run sets the first tick. A stop that was
asked for goes before a tick that is due. -/
def poll (q : Quota) (window : Nat) (cancelled : Bool) (now : Nat) : Quota × List RenewalChange :=
  match q.renewal with
  | .fresh =>
    if cancelled then ({ q with renewal := .stopped }, [.started, .stopped])
    else ({ q with renewal := .waiting (now + window) }, [.started])
  | .waiting due =>
    if cancelled then ({ q with renewal := .stopped }, [.stopped])
    else if due ≤ now then (⟨0, .waiting (nextDue window due now)⟩, [])
    else (q, [])
  | .absent | .stopped | .aborted => (q, [])

/-- Runs the renewal of a quota that is no longer in use: it stops at its next tick, and
does not even begin if it has not run yet. -/
def pollReleased (q : Quota) (now : Nat) : Quota × List RenewalChange :=
  match q.renewal with
  | .fresh => ({ q with renewal := .stopped }, [])
  | .waiting due =>
    if due ≤ now then ({ q with renewal := .stopped }, [.stopped]) else (q, [])
  | .absent | .stopped | .aborted => (q, [])

/-- The first tick after `now` of those that follow `due` at whole windows. -/
def dueAfter (window due now : Nat) : Nat := due + ((now - due) / window + 1) * window

/-- Time passes up to `now`, and every tick on the way is served when it is due. -/
def sleepUntil (q : Quota) (window now : Nat) : Quota :=
  match q.renewal with
  | .waiting due => if due ≤ now then ⟨0, .waiting (dueAfter window due now)⟩ else q
  | .absent | .fresh | .stopped | .aborted => q

/-- The clock jumps to `now`, and the ticks that are due by then are served late. -/
def jumpTo (q : Quota) (window now : Nat) : Quota :=
  match q.renewal with
  | .waiting due =>
    if due + timerTolerance < now then ⟨0, .waiting (now + window)⟩ else q.sleepUntil window now
  | .absent | .fresh | .stopped | .aborted => q

def abort (q : Quota) : Quota :=
  if q.renewal.isLive then { q with renewal := .aborted } else q

/-- The tick that follows lies beyond `now`, by a window at most. -/
theorem dueAfter_gt {window due now : Nat} (hw : 0 < window) (h : due ≤ now) :
    now < dueAfter window due now ∧ dueAfter window due now ≤ now + window := by
  have whole := Nat.div_add_mod (now - due) window
  have rest := Nat.mod_lt (now - due) hw
  have rearranged : ((now - due) / window + 1) * window =
      window * ((now - due) / window) + window := by
    rw [Nat.add_mul, Nat.mul_comm, Nat.one_mul]
  simp only [dueAfter, rearranged]
  omega

end Quota

end RequestGuard
