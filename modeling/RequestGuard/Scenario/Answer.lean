import RequestGuard.Account.Record
import RequestGuard.Gate
import RequestGuard.Text.Glyph

/-!
# Answers of a scenario

Each step has a result, and a log of the calls that were made for it. A logged call
shows its reply and the answers of the steps that were taken right before it.
-/

namespace RequestGuard.Scenario

inductive Result where
  | done
  | truth (b : Bool)
  | count (n : Nat)
  | text (s : String)
  | texts (l : List String)
  | value (v : Option SignedWord)
  | useCount (u : UseCount)
  | mark (m : MarkOutcome)
  | blacklist (b : BlacklistStatus)
  | state (s : TokenState)
  | decision (d : Decision)
  | metrics (m : RefreshMetrics)
  | record (r : Option AccountRecord)
  | version (v : Option Version)
  /-- The contents of the snapshot, if there is one. -/
  | contents (c : Option (List Glyph))
  | counters (l : List (String × Nat))
  | trace (spans : List GuardSpan)
  | failure (f : Failure)
  | badIdentifier (e : IdentifierError)
  /-- The step never came back. -/
  | stuck
  /-- The step does not fit the kind of store. -/
  | unfit

mutual

/-- The answer of a step: its result, and the calls made for it. -/
inductive Answer where
  | mk (result : Result) (calls : List LoggedCall)

/-- A call with its reply, and the answers of the steps planned before it, if any were. -/
inductive LoggedCall where
  | mk (call : Call) (reply : call.Reply) (before : Option (List Answer))

end

end RequestGuard.Scenario
