import RequestGuard.Json.Record

/-!
# Store entries

A stored value with the moment from which on it is gone. The expiry keeps the offset
in which it was written. An entry made by a store is in UTC; one read from a text may
be in any offset, and lives as long as its moment says.
-/

namespace RequestGuard

/-- A stored value and its expiry. -/
structure Entry where
  value : SignedWord
  expiresAt : Stamp
deriving DecidableEq

namespace Entry

/-- An entry that expires a span after `now`, if the calendar covers that moment. -/
def new? (value : SignedWord) (now : Instant) (ttl : Span) : Option Entry :=
  (now.add? ttl).map fun t => ⟨value, .utc t⟩

/-- Whether the entry is still there at `now`. At its expiry it is gone. -/
def isLive (e : Entry) (now : Instant) : Bool := now < e.expiresAt.instant

theorem isLive_iff (e : Entry) (now : Instant) :
    e.isLive now = true ↔ now < e.expiresAt.instant := decide_eq_true_iff

/-- An entry as written, if its expiry can be. -/
def written? (e : Entry) : Option (List Char) :=
  e.expiresAt.render?.map fun stamp => Written.object [
    Written.member "value".toList (Written.number e.value.toInt),
    Written.member "expires_at".toList (Written.text stamp)]

structure Draft where
  value : Option SignedWord
  expiresAt : Option Stamp

/-- How an entry is read. Members of other names are passed over. -/
def layout : Layout Draft Entry where
  title := "struct StoreEntry"
  fields := [
    ⟨"value", fun d => d.value.isSome,
      fun t => t.toSigned.map fun v d => { d with value := some v }⟩,
    ⟨"expires_at", fun d => d.expiresAt.isSome,
      fun t => t.toStamp.map fun v d => { d with expiresAt := some v }⟩]
  strict := false
  hasDefaults := false
  draft := ⟨none, none⟩
  finish := fun d =>
    match d.value, d.expiresAt with
    | none, _ => .error (.missingField "value")
    | _, none => .error (.missingField "expires_at")
    | some value, some expiresAt => .ok ⟨value, expiresAt⟩

def parse (s : String) : Except Problem Entry := layout.readWhole (Token.ofString s)

end Entry

end RequestGuard
