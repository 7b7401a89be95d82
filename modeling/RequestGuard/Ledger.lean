import RequestGuard.Call
import RequestGuard.Ledger.Config

/-!
# The use ledger

For each token id a ledger keeps one counter in a store. No counter: the token was
never presented. One: it was presented and may still be exchanged. More: it was
exchanged, so that a further presentation is a replay. From the floor on the token is
blacklisted. Counters only go up and blacklisting writes the floor, so a count that
arrives late never makes a blacklisted token usable again.

The ledger itself holds no state but its namespace. Every operation is a program of
single calls to the store.
-/

namespace RequestGuard

/-- The lowest counter of a blacklisted token. It is so high that no number of uses leads up to it
within the life of a token. -/
def blacklistFloor : SignedWord := ⟨0x100000000, by decide, by decide⟩

/-- How often a token was used, as far as its exchange is concerned. -/
inductive UseCount where
  /-- The exchange may go on. -/
  | fresh
  /-- The token was exchanged before, or blacklisted; the counter tells how far. -/
  | tooManyUses (uses : SignedWord)
deriving DecidableEq

/-- Whether a token is blacklisted. -/
inductive BlacklistStatus where
  | clear
  | blacklisted
deriving DecidableEq

/-- What came of counting a use. -/
inductive MarkOutcome where
  | recorded (uses : SignedWord)
  | blacklisted
deriving DecidableEq

/-- Where a token stands in its life. -/
inductive TokenState where
  | unseen
  | firstUse
  | used (uses : SignedWord)
  | blacklisted
deriving DecidableEq

/-- A ledger, known by its namespace. -/
structure Ledger where
  space : String
  visible : isBlankText space = false
deriving DecidableEq

namespace Ledger

def standard : Ledger := ⟨LedgerConfig.defaultSpace, by decide⟩

instance : Inhabited Ledger := ⟨standard⟩

def ofConfig (c : LedgerConfig) : Except ConfigError Ledger :=
  if h : isBlankText c.space = false then .ok ⟨c.space, h⟩ else .error .emptyNamespace

/-- The key of a token's counter. A colon may also stand within either part, so tokens of different
ledgers can have one key. -/
def key (l : Ledger) (id : TokenId) : String := l.space ++ ":" ++ id.text

def diagnostic (l : Ledger) : String :=
  Diagnostic.record "RefreshLedger" [("namespace", Diagnostic.text l.space)]

/-- What a counter says of its token. A counter below one says nothing. -/
def interpret (key : String) (value : SignedWord) : Except StoreError TokenState :=
  if blacklistFloor.toInt ≤ value.toInt then .ok .blacklisted
  else if value.toInt = 1 then .ok .firstUse
  else if 1 < value.toInt then .ok (.used value)
  else .error (.malformedValue key ("use count " ++ toString value.toInt ++ " is not positive"))

/-- What a counter says of the exchange of its token. -/
def judge (key : String) (value : SignedWord) : Except StoreError UseCount :=
  match interpret key value with
  | .error e => .error e
  | .ok .unseen | .ok .firstUse => .ok .fresh
  | .ok (.used uses) => .ok (.tooManyUses uses)
  | .ok .blacklisted => .ok (.tooManyUses value)

/-- What a counter that was just moved on says. There must have been one. -/
def marked (key : String) : Option SignedWord → Except StoreError MarkOutcome
  | none => .error (.malformedValue key "no use count recorded for this token")
  | some uses => match interpret key uses with
    | .error e => .error e
    | .ok .blacklisted => .ok .blacklisted
    | .ok _ => .ok (.recorded uses)

/-- Where a token stands by its counter, if it has one. -/
def standing (key : String) : Option SignedWord → Except StoreError TokenState
  | none => .ok .unseen
  | some value => interpret key value

/-- Whether a token is blacklisted by its counter, if it has one. -/
def listed : Option SignedWord → BlacklistStatus
  | none => .clear
  | some value => if blacklistFloor.toInt ≤ value.toInt then .blacklisted else .clear

/-- Records the first presentation of a token. An existing counter stays as it is. -/
def recordFirstUse (l : Ledger) (id : TokenId) (ttl : Span) : Program Unit := do
  let _ ← (Call.insertIfAbsent (l.key id) 1 ttl).ask
  pure ()

/-- Checks whether a token may still be exchanged, and records it if it was never
presented. If another presentation records it first, its counter is judged, and taken
for one should it be gone again. -/
def checkUseCount (l : Ledger) (id : TokenId) (ttl : Span) : Program UseCount := do
  match ← (Call.fetch (l.key id)).ask with
  | some value => .ofStore (judge (l.key id) value)
  | none => match ← (Call.insertIfAbsent (l.key id) 1 ttl).ask with
    | true => pure .fresh
    | false =>
      let value ← (Call.fetch (l.key id)).ask
      .ofStore (judge (l.key id) (Option.getD value 1))

/-- Counts a use of a token whose first presentation was recorded. -/
def markUsed (l : Ledger) (id : TokenId) : Program MarkOutcome := do
  let uses ← (Call.increment (l.key id)).ask
  .ofStore (marked (l.key id) uses)

def checkBlacklist (l : Ledger) (id : TokenId) : Program BlacklistStatus := do
  let value ← (Call.fetch (l.key id)).ask
  pure (listed value)

/-- Blacklists a token for a span from now, whatever the end of an earlier record. -/
def invalidate (l : Ledger) (id : TokenId) (ttl : Span) : Program Unit :=
  (Call.insert (l.key id) blacklistFloor ttl).ask

def state (l : Ledger) (id : TokenId) : Program TokenState := do
  let value ← (Call.fetch (l.key id)).ask
  .ofStore (standing (l.key id) value)

end Ledger

end RequestGuard
