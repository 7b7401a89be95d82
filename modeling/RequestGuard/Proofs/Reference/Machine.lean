import RequestGuard.Exchange
import RequestGuard.Account.Directory

/-!
# The reference machine

What a gate is meant to do when it is used by one party at a time, without counters, entries
or expiries of entries: each token has a status, each account a version and a lock. A token
only moves forward, from unseen over first use and used to revoked. An expired one stays
where it is.
-/

namespace RequestGuard

/-- How far a token has come. -/
inductive TokenStatus where
  | unseen
  | first
  | used
  | revoked
deriving DecidableEq

/-- An account of the reference machine. -/
structure AccountStatus where
  version : Version
  locked : Bool
deriving DecidableEq

/-- The statuses of all tokens and accounts. -/
structure Reference where
  status : TokenId → TokenStatus
  account : AccountId → Option AccountStatus

/-- What one can do at a gate and its directory. -/
inductive Use where
  | refresh (c : Claims)
  | logout (c : Claims)
  | register (account : AccountId) (version : Version)
  | bump (account : AccountId)
  | lock (account : AccountId)

/-- What comes of a use. A use that never comes back has no outcome. -/
inductive Outcome where
  | refresh (r : Option (Except Failure Decision))
  | logout (r : Option (Except Failure Unit))
  | register
  | bump (version : Option Version)
  | lock (r : Except Failure Unit)

namespace Reference

def empty : Reference := ⟨fun _ => .unseen, fun _ => none⟩

def mark (m : Reference) (id : TokenId) (s : TokenStatus) : Reference :=
  { m with status := fun i => if i = id then s else m.status i }

def set (m : Reference) (account : AccountId) (s : AccountStatus) : Reference :=
  { m with account := fun a => if a = account then some s else m.account a }

def checkAccount (m : Reference) (c : Claims) : Except Failure Decision × Reference :=
  match m.account c.subject with
  | none => (.ok (.denied .unknownAccount), m)
  | some a =>
    if a.locked then (.ok (.denied .accountLocked), m)
    else if a.version ≠ c.version then (.ok (.denied .staleVersion), m)
    else (.ok .granted, m.mark c.tokenId .used)

/-- A use of a token that was used before locks its account. Where there is none, it fails
and leaves everything. -/
def replay (m : Reference) (c : Claims) : Except Failure Decision × Reference :=
  match m.account c.subject with
  | none => (.error (Directory.unknown c.subject), m)
  | some a =>
    (.ok (.denied .replay), (m.set c.subject { a with locked := true }).mark c.tokenId .revoked)

def refresh (m : Reference) (now : Instant) (c : Claims) : Except Failure Decision × Reference :=
  if c.expiresAt ≤ now then (.ok (.denied .expired), m)
  else match m.status c.tokenId with
    | .revoked => (.ok (.denied .blacklisted), m)
    | .used => m.replay c
    | .unseen | .first => (m.mark c.tokenId .first).checkAccount c

def logout (m : Reference) (now : Instant) (c : Claims) : Reference :=
  if c.expiresAt ≤ now then m else m.mark c.tokenId .revoked

def bump (m : Reference) (account : AccountId) : Option Version × Reference :=
  match m.account account with
  | none => (none, m)
  | some a => (some a.version.next, m.set account ⟨a.version.next, false⟩)

def lock (m : Reference) (account : AccountId) : Except Failure Unit × Reference :=
  match m.account account with
  | none => (.error (Directory.unknown account), m)
  | some a => (.ok (), m.set account { a with locked := true })

def use (m : Reference) (now : Instant) : Use → Outcome × Reference
  | .refresh c => let (r, m) := m.refresh now c; (.refresh (some r), m)
  | .logout c => (.logout (some (.ok ())), m.logout now c)
  | .register account version => (.register, m.set account ⟨version, false⟩)
  | .bump account => let (v, m) := m.bump account; (.bump v, m)
  | .lock account => let (r, m) := m.lock account; (.lock r, m)

def uses (m : Reference) : List (Instant × Use) → List Outcome × Reference
  | [] => ([], m)
  | (now, u) :: rest =>
    let (o, m) := m.use now u
    let (os, m) := m.uses rest
    (o :: os, m)

end Reference

end RequestGuard
