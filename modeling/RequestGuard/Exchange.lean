import RequestGuard.Ledger

/-!
# The exchange of a token

Decides whether a verified refresh token may be exchanged for a new pair, and
invalidates tokens at logout. A token passes when it has not expired, is not
blacklisted, was not exchanged before, and belongs to a registered, unlocked account at
its current version. It is then claimed by one increment: of two presentations that come
this far together, only the one that moves the counter from one to two gets the grant. A
replay locks the account and blacklists the token before it is denied.
-/

namespace RequestGuard

inductive Denial where
  | expired
  | blacklisted
  | replay
  | unknownAccount
  | accountLocked
  | staleVersion
deriving DecidableEq

namespace Denial

def all : List Denial :=
  [.expired, .blacklisted, .replay, .unknownAccount, .accountLocked, .staleVersion]

def label : Denial → String
  | .expired => "expired"
  | .blacklisted => "blacklisted"
  | .replay => "replay"
  | .unknownAccount => "unknown_account"
  | .accountLocked => "account_locked"
  | .staleVersion => "stale_version"

def diagnostic : Denial → String
  | .expired => "Expired"
  | .blacklisted => "Blacklisted"
  | .replay => "Replay"
  | .unknownAccount => "UnknownAccount"
  | .accountLocked => "AccountLocked"
  | .staleVersion => "StaleVersion"

end Denial

inductive Decision where
  /-- The token is claimed, and a new pair is to be issued. -/
  | granted
  | denied (reason : Denial)
deriving DecidableEq

def Decision.diagnostic : Decision → String
  | .granted => "Granted"
  | .denied reason => Diagnostic.wrapped "Denied" reason.diagnostic

namespace Exchange

/-- Deals with a replay. The account is locked first: should that fail, the counter stays what it
is, and the next presentation is taken for a replay again. -/
def escalate (l : Ledger) (c : Claims) (ttl : Span) : Program Decision := do
  (Call.lock c.subject).ask
  l.invalidate c.tokenId ttl
  pure (.denied .replay)

/-- Claims a token that passed every check. Another presentation may have passed them meanwhile, so
the counter that the increment leads to decides between them. -/
def claim (l : Ledger) (c : Claims) (ttl : Span) : Program Decision := do
  match ← l.markUsed c.tokenId with
  | .blacklisted => pure (.denied .blacklisted)
  | .recorded uses => if uses.toInt = 2 then pure .granted else escalate l c ttl

/-- Checks the account of a token that was not exchanged before. -/
def checkAccount (l : Ledger) (c : Claims) (ttl : Span) : Program Decision := do
  match ← (Call.currentVersion c.subject).ask with
  | none => pure (.denied .unknownAccount)
  | some current => match ← (Call.isLocked c.subject).ask with
    | true => pure (.denied .accountLocked)
    | false => if current ≠ c.version then pure (.denied .staleVersion) else claim l c ttl

/-- Checks the use count of a token that is not blacklisted. -/
def checkUses (l : Ledger) (c : Claims) (ttl : Span) : Program Decision := do
  match ← l.checkUseCount c.tokenId ttl with
  | .tooManyUses _ => escalate l c ttl
  | .fresh => checkAccount l c ttl

/-- Checks a token that lives on for `ttl`. -/
def check (l : Ledger) (c : Claims) (ttl : Span) : Program Decision := do
  match ← l.checkBlacklist c.tokenId with
  | .blacklisted => pure (.denied .blacklisted)
  | .clear => checkUses l c ttl

/-- Decides on a token that is presented at `now`. -/
def decide (l : Ledger) (c : Claims) (now : Instant) : Program Decision :=
  match c.remaining? now with
  | none => pure (.denied .expired)
  | some ttl => check l c ttl

end Exchange

/-- Blacklists a token at logout for as long as it lives. An expired one needs no
record. -/
def Ledger.logout (l : Ledger) (c : Claims) (now : Instant) : Program Unit :=
  match c.remaining? now with
  | none => pure ()
  | some ttl => l.invalidate c.tokenId ttl

end RequestGuard
