import RequestGuard.Failure
import RequestGuard.Store.Entry
import RequestGuard.Table

/-!
# Stored entries

What the stores have in common: a table of entries, in which an entry that has expired
may still stand but is never seen. An operation on a store may find that the calendar
does not cover the expiry of the entry to be written. Such an operation never comes
back to its caller.
-/

namespace RequestGuard

/-- The entries of a store, by key. -/
abbrev Entries : Type := Table String Entry

/-- How an operation on a store ends: with an answer or an error, or, where the expiry
of an entry lies beyond the calendar, not at all. -/
abbrev Ending (α : Type) : Type := Option (Except StoreError α)

namespace Entries

def live? (es : Entries) (now : Instant) (key : String) : Option Entry :=
  (es.get? key).filter fun e => e.isLive now

def fetch (es : Entries) (now : Instant) (key : String) : Option SignedWord :=
  (es.live? now key).map Entry.value

def purge (es : Entries) (now : Instant) : Entries := es.filter fun _ e => e.isLive now

def refuse (key : String) : StoreError := .nonPositiveTtl key

def overflow (key : String) : StoreError := .malformedValue key "counter overflow"

@[simp] theorem live?_purge (es : Entries) (now : Instant) (key : String) :
    (es.purge now).live? now key = es.live? now key := by
  simp only [live?, purge, Table.get?_filter]
  cases es.get? key with
  | none => rfl
  | some e => by_cases h : e.isLive now = true <;> simp [Option.filter, h]

end Entries

end RequestGuard
