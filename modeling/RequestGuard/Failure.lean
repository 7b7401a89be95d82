import RequestGuard.Store.Error

/-!
# Failures

Denials are answers, not failures. A failure says that a guard could not come to an
answer: its configuration is wrong, a store or a directory let it down, or background
work did not stop in time.
-/

namespace RequestGuard

/-- What is wrong with a configuration. -/
inductive ConfigError where
  | negativeCapacity (capacity : SignedWord)
  | capacityOutOfRange (capacity : SignedWord)
  | zeroWindow
  | missingRuntime
  | emptyNamespace
  /-- The text of a configuration could not be read. -/
  | unreadable (problem : Problem)
deriving DecidableEq

namespace ConfigError

def message : ConfigError → String
  | .negativeCapacity n =>
    "Admission capacity must not be negative, got " ++ toString n.toInt ++ "."
  | .capacityOutOfRange n =>
    "Admission capacity " ++ toString n.toInt ++ " exceeds the supported range."
  | .zeroWindow => "Admission window must be positive."
  | .missingRuntime => "Admission controller requires a Tokio runtime."
  | .emptyNamespace => "Ledger namespace cannot be empty."
  | .unreadable _ => "Configuration payload is malformed."

def name : ConfigError → String
  | .negativeCapacity _ => "NegativeCapacity"
  | .capacityOutOfRange _ => "CapacityOutOfRange"
  | .zeroWindow => "ZeroWindow"
  | .missingRuntime => "MissingRuntime"
  | .emptyNamespace => "EmptyNamespace"
  | .unreadable _ => "Parse"

def diagnostic (e : ConfigError) : String :=
  match e with
  | .negativeCapacity n | .capacityOutOfRange n =>
    Diagnostic.record e.name [("capacity", toString n.toInt)]
  | .zeroWindow | .missingRuntime | .emptyNamespace => e.name
  | .unreadable _ => Diagnostic.wrapped e.name (Diagnostic.text e.message)

end ConfigError

/-- Why a guard came to no answer. -/
inductive Failure where
  | storage (e : StoreError)
  | config (e : ConfigError)
  /-- Some renewals, named by their clients, did not stop before the deadline. -/
  | shutdown (pending : List String)
  /-- The directory could not answer, or not lock an account. -/
  | account (reason : String)
deriving DecidableEq

namespace Failure

def message : Failure → String
  | .storage e => e.message
  | .config e => e.message
  | .shutdown pending =>
    toString pending.length ++ " renewal task(s) did not stop before the shutdown deadline."
  | .account reason => "Account directory failure: " ++ reason ++ "."

def diagnostic : Failure → String
  | .storage e => Diagnostic.wrapped "Storage" e.diagnostic
  | .config e => Diagnostic.wrapped "Config" e.diagnostic
  | .shutdown pending => Diagnostic.wrapped "Shutdown"
    (Diagnostic.record "TimedOut" [("pending", Diagnostic.list (pending.map Diagnostic.text))])
  | .account reason => Diagnostic.record "Account" [("reason", Diagnostic.text reason)]

/-- The failure that this one passes on. Only a store has one of its own. -/
def source? : Failure → Option StoreError
  | .storage e => some e
  | _ => none

end Failure

end RequestGuard
