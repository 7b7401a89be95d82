import RequestGuard.Account.Version
import RequestGuard.Json.Record

/-!
# Account records

What a directory keeps of an account: the version of its credentials, whether it is
locked, and how often a lock was asked for.
-/

namespace RequestGuard

/-- What a directory keeps of an account. Requests for a lock are counted in a word of 64 bits, and
are taken to stay below 2^64. -/
structure AccountRecord where
  version : Version
  locked : Bool
  lockRequests : Nat
deriving DecidableEq, Inhabited

namespace AccountRecord

def diagnostic (r : AccountRecord) : String :=
  Diagnostic.record "AccountRecord" [("version", r.version.diagnostic),
    ("locked", toString r.locked), ("lock_requests", toString r.lockRequests)]

def written (r : AccountRecord) : List Char :=
  Written.object [
    Written.member "version".toList r.version.written,
    Written.member "locked".toList (Written.truth r.locked),
    Written.member "lock_requests".toList (Written.number r.lockRequests)]

structure Draft where
  version : Option Version
  locked : Option Bool
  lockRequests : Option Nat

/-- How a record is read. Members of other names are passed over. -/
def layout : Layout Draft AccountRecord where
  title := "struct AccountRecord"
  fields := [
    ⟨"version", fun d => d.version.isSome,
      fun t => (Version.ofToken t).map fun v d => { d with version := some v }⟩,
    ⟨"locked", fun d => d.locked.isSome,
      fun t => t.toTruth.map fun v d => { d with locked := some v }⟩,
    ⟨"lock_requests", fun d => d.lockRequests.isSome,
      fun t => t.toUnsigned.map fun v d => { d with lockRequests := some v.toNat }⟩]
  strict := false
  hasDefaults := false
  draft := ⟨none, none, none⟩
  finish := fun d =>
    match d.version, d.locked, d.lockRequests with
    | none, _, _ => .error (.missingField "version")
    | _, none, _ => .error (.missingField "locked")
    | _, _, none => .error (.missingField "lock_requests")
    | some version, some locked, some lockRequests => .ok ⟨version, locked, lockRequests⟩

def parse (s : String) : Except Problem AccountRecord := layout.readWhole (Token.ofString s)

end AccountRecord

end RequestGuard
