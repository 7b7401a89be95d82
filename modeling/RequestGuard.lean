import RequestGuard.Account.Directory
import RequestGuard.Account.Record
import RequestGuard.Account.Version
import RequestGuard.Admission.Controller
import RequestGuard.Admission.Policy
import RequestGuard.Admission.Quota
import RequestGuard.Call
import RequestGuard.Checkpoint
import RequestGuard.Claims
import RequestGuard.Exchange
import RequestGuard.Failure
import RequestGuard.Gate
import RequestGuard.Identifier
import RequestGuard.Json.Numeral
import RequestGuard.Json.Passage
import RequestGuard.Json.Problem
import RequestGuard.Json.Record
import RequestGuard.Json.Token
import RequestGuard.Json.Written
import RequestGuard.Ledger
import RequestGuard.Ledger.Config
import RequestGuard.Proofs.Admission.Accounting
import RequestGuard.Proofs.Admission.Configuration
import RequestGuard.Proofs.Admission.Host
import RequestGuard.Proofs.Admission.Journal
import RequestGuard.Proofs.Admission.Limiter
import RequestGuard.Proofs.Admission.Reception
import RequestGuard.Proofs.Admission.Shutdown
import RequestGuard.Proofs.Attempts
import RequestGuard.Proofs.Claims
import RequestGuard.Proofs.ClockChanges
import RequestGuard.Proofs.Course
import RequestGuard.Proofs.Credentials
import RequestGuard.Proofs.Durability
import RequestGuard.Proofs.Escalation
import RequestGuard.Proofs.Exchange
import RequestGuard.Proofs.Expiry
import RequestGuard.Proofs.FailedWrites
import RequestGuard.Proofs.History
import RequestGuard.Proofs.Isolation
import RequestGuard.Proofs.Json.Record
import RequestGuard.Proofs.Json.Spelling
import RequestGuard.Proofs.Json.Written
import RequestGuard.Proofs.Kinds
import RequestGuard.Proofs.Ledger.Blacklist
import RequestGuard.Proofs.Ledger.Effects
import RequestGuard.Proofs.Ledger.Lifecycle
import RequestGuard.Proofs.Ledger.Linearization
import RequestGuard.Proofs.Ledger.Order
import RequestGuard.Proofs.Lifetime
import RequestGuard.Proofs.Lockout
import RequestGuard.Proofs.Namespaces
import RequestGuard.Proofs.Reference.Machine
import RequestGuard.Proofs.Reference.Refinement
import RequestGuard.Proofs.Retries
import RequestGuard.Proofs.Revocation
import RequestGuard.Proofs.Runs
import RequestGuard.Proofs.SingleUse
import RequestGuard.Proofs.Standing
import RequestGuard.Proofs.Store.Alike
import RequestGuard.Proofs.Store.Counter
import RequestGuard.Proofs.Store.Disk
import RequestGuard.Proofs.Store.Draft
import RequestGuard.Proofs.Store.Durable
import RequestGuard.Proofs.Store.Entries
import RequestGuard.Proofs.Store.Rewritten
import RequestGuard.Proofs.Store.RoundTrip
import RequestGuard.Proofs.Store.Snapshot
import RequestGuard.Proofs.Store.Turn
import RequestGuard.Proofs.Survival
import RequestGuard.Proofs.Table
import RequestGuard.Proofs.Text.ByteOrder
import RequestGuard.Proofs.Text.Digits
import RequestGuard.Proofs.Text.Glyph
import RequestGuard.Proofs.Time.Calendar
import RequestGuard.Proofs.Time.Stamp
import RequestGuard.Proofs.Traffic.Accounted
import RequestGuard.Proofs.Traffic.Accounts
import RequestGuard.Proofs.Traffic.Alone
import RequestGuard.Proofs.Traffic.Basic
import RequestGuard.Proofs.Traffic.Calls
import RequestGuard.Proofs.Traffic.Origin
import RequestGuard.Proofs.Traffic.Regular
import RequestGuard.Proofs.Traffic.Sequential
import RequestGuard.Proofs.Traffic.Settled
import RequestGuard.Proofs.Traffic.Sound
import RequestGuard.Proofs.Traffic.Unclaimed
import RequestGuard.Proofs.Transcript
import RequestGuard.Proofs.Views
import RequestGuard.Scenario.Admission
import RequestGuard.Scenario.Answer
import RequestGuard.Scenario.Presentations
import RequestGuard.Scenario.Run
import RequestGuard.Scenario.Step
import RequestGuard.Scenario.World
import RequestGuard.Services
import RequestGuard.Store.Disk
import RequestGuard.Store.Durable
import RequestGuard.Store.Entries
import RequestGuard.Store.Entry
import RequestGuard.Store.Error
import RequestGuard.Store.Route
import RequestGuard.Store.Snapshot
import RequestGuard.Store.Volatile
import RequestGuard.Table
import RequestGuard.Telemetry
import RequestGuard.Text.Blank
import RequestGuard.Text.Diagnostic
import RequestGuard.Text.Digits
import RequestGuard.Text.Glyph
import RequestGuard.Text.Plain
import RequestGuard.Time.Calendar
import RequestGuard.Time.Instant
import RequestGuard.Time.Stamp
import RequestGuard.Word
