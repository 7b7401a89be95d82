import RequestGuard.Call

/-!
# Steps of a scenario

A scenario is a list of steps against one gate with its store and its directory. The
clock stands still but for the steps that set it. Names are given as texts and become
identifiers when their step is taken.

A scenario may plan ahead for the calls of the gate: what one of them replies, and
which steps are taken right before it. The latter is how two presentations interleave.
-/

namespace RequestGuard.Scenario

/-- A call to the store itself. -/
inductive StoreStep where
  | put (key : String) (value : SignedWord) (ttl : Span)
  | putAbsent (key : String) (value : SignedWord) (ttl : Span)
  | get (key : String)
  | increment (key : String)

/-- A step on a store in memory. -/
inductive VolatileStep where
  | size
  | isEmpty
  /-- Purges the store, and tells what is left. -/
  | purge

/-- A step on a store on disk, or on the disk. -/
inductive DurableStep where
  | reopen
  /-- Where the snapshot is. -/
  | path
  /-- What the snapshot is. -/
  | snapshot
  | write (path : String) (contents : List Glyph)
  | makeFolder (path : String)
  | remove (path : String)
  | list

/-- An operation of a ledger on a token. -/
inductive LedgerStep where
  | recordFirstUse (ttl : Span)
  | checkUseCount (ttl : Span)
  | invalidate (ttl : Span)
  | markUsed
  | checkBlacklist
  | state

/-- An operation of the directory on an account. -/
inductive AccountStep where
  | register (version : Version)
  | bump
  | record
  | lockRequests
  | lock
  | isLocked
  | currentVersion

/-- An operation of the gate on a token. -/
inductive GateStep where
  | refresh
  | logout

/-- What a token says, with names not yet checked. -/
structure Presentation where
  tokenId : String
  subject : String
  version : Version
  expiresAt : Instant

def Presentation.claims (p : Presentation) : Except IdentifierError Claims :=
  Claims.ofTexts p.tokenId p.subject p.version p.expiresAt

inductive Step where
  /-- Moves the clock. -/
  | advance (span : Span)
  /-- Sets the clock. -/
  | setClock (now : Instant)
  | store (step : StoreStep)
  | volatile (step : VolatileStep)
  | durable (step : DurableStep)
  /-- An operation of the gate's ledger, or of one of another namespace. -/
  | ledger (space : Option String) (tokenId : String) (step : LedgerStep)
  | showLedger (space : Option String)
  | account (name : String) (step : AccountStep)
  | gate (presented : Presentation) (step : GateStep)
  | metrics
  | showGate
  | decisions
  /-- What was traced since the last such step. -/
  | trace
  /-- Plans the reply to a call, or that it goes its way. -/
  | plan (name : CallName) (reply : Option name.Reply)
  /-- Plans steps before a call, and what it replies. -/
  | hook (name : CallName) (steps : List Step) (reply : Option name.Reply)

mutual

/-- How many hooks a step plans, counting those that its own steps plan. -/
def Step.hooks : Step → Nat
  | .hook _ steps _ => hooksIn steps + 1
  | _ => 0

/-- How many hooks are planned by a list of steps. -/
def hooksIn : List Step → Nat
  | [] => 0
  | step :: steps => step.hooks + hooksIn steps

end

end RequestGuard.Scenario
