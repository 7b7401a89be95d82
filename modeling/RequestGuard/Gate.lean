import RequestGuard.Exchange
import RequestGuard.Telemetry

/-!
# The session gate

Stands between presented tokens and the programs that decide on them, and counts. What
it counts of an exchange changes when the exchange begins and when it ends; in between
the exchange is in flight.
-/

namespace RequestGuard

/-- The counters of a gate. Each has a word of 64 bits. They count single operations, which are
taken to stay below 2^64, so that no counter wraps around. -/
structure RefreshMetrics where
  attempts : Nat
  granted : Nat
  /-- Denials other than replays. -/
  denied : Nat
  replays : Nat
  failures : Nat
deriving DecidableEq, Inhabited

namespace RefreshMetrics

def zero : RefreshMetrics := ⟨0, 0, 0, 0, 0⟩

def diagnostic (m : RefreshMetrics) : String :=
  Diagnostic.record "RefreshMetrics" [
    ("attempts", toString m.attempts), ("granted", toString m.granted),
    ("denied", toString m.denied), ("replays", toString m.replays),
    ("failures", toString m.failures)]

end RefreshMetrics

/-- A gate: its ledger and what it counts. Handles to a gate share all of it. -/
structure Gate where
  ledger : Ledger
  metrics : RefreshMetrics
  telemetry : Telemetry
deriving Inhabited

namespace Gate

def new (l : Ledger) : Gate := ⟨l, .zero, .none⟩

def diagnostic (g : Gate) : String :=
  Diagnostic.record "SessionGate"
    [("ledger", g.ledger.diagnostic), ("metrics", g.metrics.diagnostic)]

def beginExchange (g : Gate) : Gate :=
  { g with
    metrics := { g.metrics with attempts := g.metrics.attempts + 1 }
    telemetry := g.telemetry.openSpan .refresh "begin_refresh" }

/-- The gate once an exchange has ended. One that never comes back stays in flight. -/
def endExchange (g : Gate) : Option (Except Failure Decision) → Gate
  | some (.ok .granted) => { g with
    metrics := { g.metrics with granted := g.metrics.granted + 1 }
    telemetry := g.telemetry.decide .refresh .granted }
  | some (.ok (.denied .replay)) => { g with
    metrics := { g.metrics with replays := g.metrics.replays + 1 }
    telemetry := g.telemetry.decide .refresh .replay }
  | some (.ok (.denied _)) => { g with
    metrics := { g.metrics with denied := g.metrics.denied + 1 }
    telemetry := g.telemetry.decide .refresh .denied }
  | some (.error _) => { g with
    metrics := { g.metrics with failures := g.metrics.failures + 1 }
    telemetry := g.telemetry.decide .refresh .failure }
  | none => g

def beginLogout (g : Gate) : Gate :=
  { g with telemetry := g.telemetry.openSpan .logout "logout" }

/-- The gate once a logout has ended, if it does. -/
def endLogout (g : Gate) : Option (Except Failure Unit) → Gate
  | some (.ok ()) => { g with telemetry := g.telemetry.decide .logout .granted }
  | some (.error _) => { g with telemetry := g.telemetry.decide .logout .failure }
  | none => g

end Gate

end RequestGuard
