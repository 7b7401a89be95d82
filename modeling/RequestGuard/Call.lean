import RequestGuard.Claims
import RequestGuard.Failure

/-!
# Calls and programs

The guards keep nothing themselves. What they know of tokens is in a store, what they
know of accounts in a directory, and both are reached by single calls, each of which
is atomic. A program is the tree of the calls that it makes and of what it does after
every possible answer. A call that fails ends its program with that failure. So a
program says nothing about when its calls happen: between two of them the world may
change, and a reply may be anything of its type.
-/

namespace RequestGuard

/-- The calls by name: four to a store, three to a directory. -/
inductive CallName where
  | fetch
  | insert
  | insertIfAbsent
  | increment
  | currentVersion
  | isLocked
  | lock
deriving DecidableEq

/-- What a call answers when it succeeds. -/
def CallName.Answer : CallName → Type
  | .fetch => Option SignedWord
  | .insert => Unit
  | .insertIfAbsent => Bool
  | .increment => Option SignedWord
  | .currentVersion => Option Version
  | .isLocked => Bool
  | .lock => Unit

/-- How a call replies: by its answer or by a failure. -/
abbrev CallName.Reply (n : CallName) : Type := Except Failure n.Answer

inductive Call where
  /-- The live value under a key. -/
  | fetch (key : String)
  /-- Stores a value for a span, whatever the key held. -/
  | insert (key : String) (value : SignedWord) (ttl : Span)
  /-- Stores a value only if the key holds no live one, and tells whether it did. -/
  | insertIfAbsent (key : String) (value : SignedWord) (ttl : Span)
  /-- Adds one to a live value, keeps its expiry, and tells the new value. -/
  | increment (key : String)
  /-- The current version of an account, if it is registered. -/
  | currentVersion (account : AccountId)
  /-- Whether an account is locked. -/
  | isLocked (account : AccountId)
  /-- Locks an account. -/
  | lock (account : AccountId)
deriving DecidableEq

namespace Call

def name : Call → CallName
  | .fetch _ => .fetch
  | .insert _ _ _ => .insert
  | .insertIfAbsent _ _ _ => .insertIfAbsent
  | .increment _ => .increment
  | .currentVersion _ => .currentVersion
  | .isLocked _ => .isLocked
  | .lock _ => .lock

abbrev Answer (c : Call) : Type := c.name.Answer

abbrev Reply (c : Call) : Type := c.name.Reply

end Call

/-- A computation that makes calls and ends with a result or a failure. -/
inductive Program (α : Type) where
  | pure (a : α)
  | fail (f : Failure)
  | call (c : Call) (next : c.Answer → Program α)

def Call.ask (c : Call) : Program c.Answer := .call c .pure

namespace Program

variable {α β : Type}

/-- Goes on from the result of a program. -/
def bind : Program α → (α → Program β) → Program β
  | .pure a, f => f a
  | .fail e, _ => .fail e
  | .call c next, f => .call c fun a => (next a).bind f

instance : Monad Program where
  pure := .pure
  bind := .bind

@[simp] theorem pure_bind (a : α) (f : α → Program β) : (Program.pure a).bind f = f a := rfl

@[simp] theorem call_bind (c : Call) (next : c.Answer → Program α) (f : α → Program β) :
    (Program.call c next).bind f = .call c fun a => (next a).bind f := rfl

/-- An outcome of which a failure is one of the store. -/
def ofStore : Except StoreError α → Program α
  | .ok a => .pure a
  | .error e => .fail (.storage e)

/-- Lets `reply` reply to every call of a program. A call without a reply leaves the
program without an outcome. -/
def run {σ : Type} (reply : (c : Call) → σ → Option c.Reply × σ) :
    Program α → σ → Option (Except Failure α) × σ
  | .pure a, s => (some (.ok a), s)
  | .fail f, s => (some (.error f), s)
  | .call c next, s => match reply c s with
    | (some (.ok a), s) => (next a).run reply s
    | (some (.error f), s) => (some (.error f), s)
    | (none, s) => (none, s)

end Program

end RequestGuard
