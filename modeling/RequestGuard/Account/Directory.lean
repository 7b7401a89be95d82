import RequestGuard.Account.Record
import RequestGuard.Identifier
import RequestGuard.Failure
import RequestGuard.Table

/-!
# The directory of accounts

Keeps a record of each registered account. A change of credentials moves the version
on and unlocks the account. Every lock that is asked for counts, also of an account
that is locked already.
-/

namespace RequestGuard

structure Directory where
  accounts : Table AccountId AccountRecord
deriving Inhabited

namespace Directory

def empty : Directory := ⟨.empty⟩

def record? (d : Directory) (account : AccountId) : Option AccountRecord := d.accounts.get? account

/-- Registers an account, unlocked and at the given version, also in place of what was
kept of it. -/
def register (d : Directory) (account : AccountId) (version : Version) : Directory :=
  ⟨d.accounts.insert account ⟨version, false, 0⟩⟩

/-- Changes the credentials of an account: the new version, if it is registered. -/
def bump (d : Directory) (account : AccountId) : Option Version × Directory :=
  match d.record? account with
  | none => (none, d)
  | some r =>
    (some r.version.next,
      ⟨d.accounts.insert account { r with version := r.version.next, locked := false }⟩)

/-- How often a lock of the account was asked for. -/
def lockRequests (d : Directory) (account : AccountId) : Nat :=
  match d.record? account with
  | some r => r.lockRequests
  | none => 0

/-- The version of an account's credentials, if it is registered. -/
def currentVersion (d : Directory) (account : AccountId) : Option Version :=
  (d.record? account).map AccountRecord.version

def isLocked (d : Directory) (account : AccountId) : Bool :=
  match d.record? account with
  | some r => r.locked
  | none => false

def unknown (account : AccountId) : Failure :=
  .account ("account " ++ account.text ++ " does not exist")

def lock (d : Directory) (account : AccountId) : Except Failure Unit × Directory :=
  match d.record? account with
  | none => (.error (unknown account), d)
  | some r =>
    (.ok (),
      ⟨d.accounts.insert account { r with locked := true, lockRequests := r.lockRequests + 1 }⟩)

@[simp] theorem record?_register (d : Directory) (a b : AccountId) (version : Version) :
    (d.register a version).record? b = if a = b then some ⟨version, false, 0⟩ else d.record? b :=
  Table.get?_insert _ _ _ _

theorem record?_bump (d : Directory) (a b : AccountId) :
    (d.bump a).2.record? b =
      if a = b then (d.record? a).map fun r => { r with version := r.version.next, locked := false }
      else d.record? b := by
  unfold bump
  cases h : d.record? a with
  | none =>
    by_cases hb : a = b
    · subst hb
      simp [h]
    · simp [hb]
  | some r => simp [record?]

theorem record?_lock (d : Directory) (a b : AccountId) :
    (d.lock a).2.record? b =
      if a = b then
        (d.record? a).map fun r => { r with locked := true, lockRequests := r.lockRequests + 1 }
      else d.record? b := by
  unfold lock
  cases h : d.record? a with
  | none =>
    by_cases hb : a = b
    · subst hb
      simp [h]
    · simp [hb]
  | some r => simp [record?]

end Directory

end RequestGuard
