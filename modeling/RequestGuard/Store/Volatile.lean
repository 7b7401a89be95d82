import RequestGuard.Store.Entries

/-!
# The store in memory

Keeps its entries in a table and nowhere else. An expired entry stands until it is
overwritten or the store is purged.
-/

namespace RequestGuard

structure VolatileStore where
  entries : Entries
deriving Inhabited

namespace VolatileStore

def empty : VolatileStore := ⟨.empty⟩

/-- How many entries the store holds, expired ones among them. -/
def size (m : VolatileStore) : Nat := m.entries.size

def purge (m : VolatileStore) (now : Instant) : VolatileStore := ⟨m.entries.purge now⟩

def fetch (m : VolatileStore) (now : Instant) (key : String) : Option SignedWord :=
  m.entries.fetch now key

def insert (m : VolatileStore) (now : Instant) (key : String) (value : SignedWord) (ttl : Span) :
    Ending Unit × VolatileStore :=
  if ttl.Positive then
    match Entry.new? value now ttl with
    | some e => (some (.ok ()), ⟨m.entries.insert key e⟩)
    | none => (none, m)
  else (some (.error (Entries.refuse key)), m)

def insertIfAbsent (m : VolatileStore) (now : Instant) (key : String) (value : SignedWord)
    (ttl : Span) : Ending Bool × VolatileStore :=
  if ttl.Positive then
    match m.entries.live? now key with
    | some _ => (some (.ok false), m)
    | none => match Entry.new? value now ttl with
      | some e => (some (.ok true), ⟨m.entries.insert key e⟩)
      | none => (none, m)
  else (some (.error (Entries.refuse key)), m)

def increment (m : VolatileStore) (now : Instant) (key : String) :
    Except StoreError (Option SignedWord) × VolatileStore :=
  match m.entries.live? now key with
  | none => (.ok none, m)
  | some e => match e.value.succ? with
    | some value => (.ok (some value), ⟨m.entries.insert key { e with value := value }⟩)
    | none => (.error (Entries.overflow key), m)

end VolatileStore

end RequestGuard
