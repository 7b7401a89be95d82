import RequestGuard.Account.Directory
import RequestGuard.Call
import RequestGuard.Store.Durable
import RequestGuard.Store.Volatile

/-!
# Services

The store and the directory that a guard calls, with the disk where the store has one.
Each call is performed as a whole at one reading of the clock.
-/

namespace RequestGuard

/-- A store of either kind. -/
inductive Store where
  | volatile (m : VolatileStore)
  | durable (s : DurableStore) (d : Disk)

namespace Store

def entries : Store → Entries
  | .volatile m => m.entries
  | .durable s _ => s.entries

def fetch (now : Instant) (key : String) : Store → Option SignedWord
  | .volatile m => m.fetch now key
  | .durable s _ => s.fetch now key

def insert (now : Instant) (fault : Option WriteFault) (key : String) (value : SignedWord)
    (ttl : Span) : Store → Ending Unit × Store
  | .volatile m => let (r, m) := m.insert now key value ttl; (r, .volatile m)
  | .durable s d => let (r, s, d) := s.insert now key value ttl fault d; (r, .durable s d)

def insertIfAbsent (now : Instant) (fault : Option WriteFault) (key : String)
    (value : SignedWord) (ttl : Span) : Store → Ending Bool × Store
  | .volatile m => let (r, m) := m.insertIfAbsent now key value ttl; (r, .volatile m)
  | .durable s d => let (r, s, d) := s.insertIfAbsent now key value ttl fault d; (r, .durable s d)

def increment (now : Instant) (fault : Option WriteFault) (key : String) :
    Store → Except StoreError (Option SignedWord) × Store
  | .volatile m => let (r, m) := m.increment now key; (r, .volatile m)
  | .durable s d => let (r, s, d) := s.increment now key fault d; (r, .durable s d)

end Store

/-- What a guard depends on. -/
structure Services where
  store : Store
  directory : Directory

namespace Services

/-- Services that keep everything in memory, with nothing in it. -/
def inMemory : Services := ⟨.volatile .empty, .empty⟩

def reply {α : Type} : Except StoreError α → Except Failure α
  | .ok a => .ok a
  | .error e => .error (.storage e)

/-- Performs a call at `now`, while the medium of the store may fail. A call whose entry
would expire beyond the calendar has no reply. -/
def perform (now : Instant) (fault : Option WriteFault) :
    (c : Call) → Services → Option c.Reply × Services
  | .fetch key, s => (some (.ok (s.store.fetch now key)), s)
  | .insert key value ttl, s =>
    let (r, store) := s.store.insert now fault key value ttl
    (r.map reply, { s with store := store })
  | .insertIfAbsent key value ttl, s =>
    let (r, store) := s.store.insertIfAbsent now fault key value ttl
    (r.map reply, { s with store := store })
  | .increment key, s =>
    let (r, store) := s.store.increment now fault key
    (some (reply r), { s with store := store })
  | .currentVersion account, s => (some (.ok (s.directory.currentVersion account)), s)
  | .isLocked account, s => (some (.ok (s.directory.isLocked account)), s)
  | .lock account, s =>
    let (r, directory) := s.directory.lock account
    (some r, { s with directory := directory })

/-- Runs a program at `now` with nothing else going on. -/
def run {α : Type} (s : Services) (now : Instant) (p : Program α) :
    Option (Except Failure α) × Services :=
  p.run (perform now none) s

end Services

end RequestGuard
