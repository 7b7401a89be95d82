import RequestGuard.Gate
import RequestGuard.Services

/-!
# Checkpoints

A gate with the services that it calls, used by one party at a time: the clock stands
still during an operation, and nothing else goes on.
-/

namespace RequestGuard

/-- A gate and its services. -/
structure Checkpoint where
  gate : Gate
  services : Services

namespace Checkpoint

def new : Checkpoint := ⟨.new .standard, .inMemory⟩

def register (p : Checkpoint) (account : AccountId) (version : Version) : Checkpoint :=
  { p with services := { p.services with
    directory := p.services.directory.register account version } }

def refresh (p : Checkpoint) (now : Instant) (c : Claims) :
    Option (Except Failure Decision) × Checkpoint :=
  let gate := p.gate.beginExchange
  let (r, services) := p.services.run now (Exchange.decide gate.ledger c now)
  (r, ⟨gate.endExchange r, services⟩)

def logout (p : Checkpoint) (now : Instant) (c : Claims) :
    Option (Except Failure Unit) × Checkpoint :=
  let gate := p.gate.beginLogout
  let (r, services) := p.services.run now (gate.ledger.logout c now)
  (r, ⟨gate.endLogout r, services⟩)

end Checkpoint

end RequestGuard
