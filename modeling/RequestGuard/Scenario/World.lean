import RequestGuard.Scenario.Answer
import RequestGuard.Scenario.Step
import RequestGuard.Services

/-!
# The world of a scenario

The clock, the services, the gate and the plans for its calls. Plans for calls of one
name are kept in order, and each is used once.
-/

namespace RequestGuard.Scenario

/-- What is planned for a call of some name: steps before it, and its reply. -/
structure Plan where
  name : CallName
  steps : Option (List Step)
  reply : Option name.Reply

/-- All that steps act on. -/
structure World where
  now : Instant
  services : Services
  gate : Gate
  plans : List Plan

structure Planned (n : CallName) where
  steps : Option (List Step)
  reply : Option n.Reply

/-- What is planned where nothing is. -/
def Planned.nothing (n : CallName) : Planned n := ⟨none, none⟩

/-- What a plan has for calls of a name, if it is one for them. -/
def Plan.for? (p : Plan) (n : CallName) : Option (Planned n) :=
  if h : p.name = n then some ⟨p.steps, h ▸ p.reply⟩ else none

/-- Takes the first plan for a name out of a list of plans. -/
def takePlan (n : CallName) : List Plan → Planned n × List Plan
  | [] => (.nothing n, [])
  | p :: rest => match p.for? n with
    | some planned => (planned, rest)
    | none =>
      let (planned, rest) := takePlan n rest
      (planned, p :: rest)

/-- The kind of store that a world has: one in memory, or one on the given disk. -/
inductive Backend where
  | volatile
  | durable (path : String) (disk : Disk)

namespace World

def openStore (now : Instant) : Backend → Except Failure Store
  | .volatile => .ok (.volatile .empty)
  | .durable path disk => match DurableStore.load (Route.ofString path) now disk with
    | (.ok s, d) => .ok (.durable s d)
    | (.error e, _) => .error (.storage e)

/-- The world at the start: a store without entries but those of its snapshot, no
accounts, and a gate whose ledger has the given namespace. The store is opened first. -/
def start (now : Instant) (backend : Backend) (config : LedgerConfig) : Except Failure World :=
  match openStore now backend with
  | .error f => .error f
  | .ok store => match Ledger.ofConfig config with
    | .error e => .error (.config e)
    | .ok ledger => .ok ⟨now, ⟨store, .empty⟩, .new ledger, []⟩

def withStore (w : World) (s : Store) : World :=
  { w with services := { w.services with store := s } }

def withDirectory (w : World) (d : Directory) : World :=
  { w with services := { w.services with directory := d } }

def withPlan (w : World) (p : Plan) : World := { w with plans := w.plans ++ [p] }

end World

end RequestGuard.Scenario
