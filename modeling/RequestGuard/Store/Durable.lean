import RequestGuard.Store.Disk
import RequestGuard.Store.Snapshot

/-!
# The store on disk

Keeps its entries in memory and, after each change, writes all of them as a snapshot
beside the old one, which it then replaces. A write may be refused by the disk, and the
medium may fail at every step of it. The change in memory comes first and stays even
when the snapshot could not be written.

Expired entries are dropped when a snapshot is loaded and before an entry is added,
not by an increment.
-/

namespace RequestGuard

/-- A step of writing a snapshot at which the medium fails. -/
inductive WriteFault where
  /-- The text of the snapshot is not made. -/
  | compose
  | create
  /-- It fails once so many characters are written. -/
  | write (written : Nat)
  | sync
  | replace
deriving DecidableEq

/-- A store on disk: the route to its snapshot, and its entries. -/
structure DurableStore where
  location : Route
  entries : Entries

namespace DurableStore

/-- The error when a snapshot cannot be read as entries. -/
def unreadable (d : Disk) (r : Route) : StoreError :=
  .serialization ("Failed to parse " ++ d.describe r ++ ": not a snapshot")

/-- The error when the entries have no text. -/
def unwritable : StoreError :=
  .serialization "Failed to serialize store snapshot: an expiry has no text"

def refused (action : String) (d : Disk) (r : Route) (e : DiskError) : StoreError :=
  .backend ("Failed to " ++ action ++ " " ++ d.describe r ++ ": " ++ e.message)

/-- The entries of the snapshot that a route leads to, if it does. -/
def loadEntries (d : Disk) (r : Route) : Except StoreError Entries :=
  match d.find? r with
  | none => .ok .empty
  | some .folder => .error (refused "read" d r .isFolder)
  | some (.file contents) => match Snapshot.parse contents with
    | .ok es => .ok es
    | .error _ => .error (unreadable d r)

/-- Opens the store whose snapshot a route leads to: makes the folder for it and loads
what is live. -/
def load (r : Route) (now : Instant) (d : Disk) : Except StoreError DurableStore × Disk :=
  match d.makeFolders r.folder with
  | (.error e, d) => (.error (refused "create store directory" d r.folder e), d)
  | (.ok (), d) => match loadEntries d r with
    | .error e => (.error e, d)
    | .ok es => (.ok ⟨r, es.purge now⟩, d)

/-- Fails with the medium, or goes on. -/
def orFail {α : Type} (failing : Bool) (r : Except DiskError α) : Except DiskError α :=
  if failing then .error .medium else r

/-- Writes the text of a snapshot to the draft and moves the draft to the route. As long as the
draft is another file, what stands at the route is one whole snapshot or the other. -/
def replace (r : Route) (text : List Char) (fault : Option WriteFault) (d : Disk) :
    Except StoreError Unit × Disk :=
  match orFail (fault = some .create) (d.create r.draft) with
  | .error e => (.error (refused "create" d r.draft e), d)
  | .ok d => match fault with
    | some (.write n) =>
      (.error (refused "write" d r.draft .medium), d.fill r.draft ((text.take n).map some))
    | _ =>
      let d := d.fill r.draft (text.map some)
      if fault = some .sync then (.error (refused "sync" d r.draft .medium), d)
      else match orFail (fault = some .replace) (d.rename r.draft r) with
        | .error e => (.error (refused "replace" d r e), d)
        | .ok d => (.ok (), d)

/-- Writes a snapshot of the entries. -/
def persist (s : DurableStore) (fault : Option WriteFault) (d : Disk) :
    Except StoreError Unit × Disk :=
  match Snapshot.written? s.entries with
  | none => (.error unwritable, d)
  | some text =>
    if fault = some .compose then (.error unwritable, d) else replace s.location text fault d

def fetch (s : DurableStore) (now : Instant) (key : String) : Option SignedWord :=
  s.entries.fetch now key

/-- The store with an entry added, and without those that have expired. -/
def add (s : DurableStore) (now : Instant) (key : String) (e : Entry) : DurableStore :=
  { s with entries := (s.entries.purge now).insert key e }

/-- Persists a store that has just changed, with an answer if that succeeds. If it fails, the store
remains changed all the same. -/
def commit {α : Type} (s : DurableStore) (answer : α) (fault : Option WriteFault) (d : Disk) :
    Except StoreError α × DurableStore × Disk :=
  let (r, d) := s.persist fault d
  (r.map fun _ => answer, s, d)

def insert (s : DurableStore) (now : Instant) (key : String) (value : SignedWord) (ttl : Span)
    (fault : Option WriteFault) (d : Disk) : Ending Unit × DurableStore × Disk :=
  if ttl.Positive then
    match Entry.new? value now ttl with
    | none => (none, s, d)
    | some e =>
      let (r, s, d) := (s.add now key e).commit () fault d
      (some r, s, d)
  else (some (.error (Entries.refuse key)), s, d)

/-- Stores a value for a span if the key holds no live one. Expired entries go before
the expiry of the new one is known. -/
def insertIfAbsent (s : DurableStore) (now : Instant) (key : String) (value : SignedWord)
    (ttl : Span) (fault : Option WriteFault) (d : Disk) : Ending Bool × DurableStore × Disk :=
  if ttl.Positive then
    match s.entries.live? now key with
    | some _ => (some (.ok false), s, d)
    | none => match Entry.new? value now ttl with
      | none => (none, { s with entries := s.entries.purge now }, d)
      | some e =>
        let (r, s, d) := (s.add now key e).commit true fault d
        (some r, s, d)
  else (some (.error (Entries.refuse key)), s, d)

/-- Adds one to a live value. Entries that have expired stay, also in the snapshot. -/
def increment (s : DurableStore) (now : Instant) (key : String) (fault : Option WriteFault)
    (d : Disk) : Except StoreError (Option SignedWord) × DurableStore × Disk :=
  match s.entries.live? now key with
  | none => (.ok none, s, d)
  | some e => match e.value.succ? with
    | none => (.error (Entries.overflow key), s, d)
    | some value =>
      { s with entries := s.entries.insert key { e with value := value } }.commit (some value)
        fault d

end DurableStore

end RequestGuard
