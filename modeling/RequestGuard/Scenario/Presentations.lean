import RequestGuard.Checkpoint

/-!
# Presentations in a row

The shortest scenario: accounts are registered at a gate in memory, and tokens are
presented to it one after the other while the clock stands still. Names that are no
identifiers, and lifetimes that the calendar does not cover, leave it without an answer.
-/

namespace RequestGuard.Scenario

/-- A token to be presented, by its lifetime from now on. -/
structure FreshToken where
  tokenId : String
  subject : String
  version : Version
  ttl : Span

/-- What a presentation left behind. -/
structure Presented where
  decision : Except Failure Decision
  /-- The counter of the token. -/
  counter : Option SignedWord
  /-- How often a lock of the account was asked for. -/
  lockRequests : Nat
  /-- How many entries the store holds. -/
  held : Nat

def registerAll (p : Checkpoint) : List (String × Version) → Option Checkpoint
  | [] => some p
  | (name, version) :: rest => match Identifier.ofString .account name with
    | .error _ => none
    | .ok account => registerAll (p.register account version) rest

def present (p : Checkpoint) (now : Instant) (t : FreshToken) :
    Option (Presented × Checkpoint) := do
  let expiresAt ← now.add? t.ttl
  let c ← (Claims.ofTexts t.tokenId t.subject t.version expiresAt).toOption
  match p.refresh now c with
  | (none, _) => none
  | (some decision, p) =>
    let store := p.services.store
    some (⟨decision, store.fetch now (p.gate.ledger.key c.tokenId),
      p.services.directory.lockRequests c.subject, store.entries.size⟩, p)

def presentAll (p : Checkpoint) (now : Instant) :
    List FreshToken → Option (List Presented × Checkpoint)
  | [] => some ([], p)
  | t :: rest => do
    let (first, p) ← present p now t
    let (others, p) ← presentAll p now rest
    pure (first :: others, p)

def presentations (now : Instant) (accounts : List (String × Version)) (tokens : List FreshToken) :
    Option (List Presented × RefreshMetrics) := do
  let p ← registerAll .new accounts
  let (presented, p) ← presentAll p now tokens
  pure (presented, p.gate.metrics)

end RequestGuard.Scenario
