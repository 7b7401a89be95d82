import RequestGuard.Checkpoint
import RequestGuard.Proofs.Exchange
import RequestGuard.Proofs.Reference.Machine
import RequestGuard.Proofs.Store.Entries
import RequestGuard.Proofs.Traffic.Calls

/-!
# A gate refines the reference machine

A gate with its services in memory, used by one party at a time, answers as the reference
machine does. The counter of a token stands for its status: none, one, two or the floor. An
entry keeps the expiry of its token, from whichever presentation it comes, because the
clock stands still during each.
-/

namespace RequestGuard

/-- The entry that stands for the status of a token that expires at `t`. -/
def TokenStatus.record? (t : Instant) : TokenStatus → Option Entry
  | .unseen => none
  | .first => some ⟨1, .utc t⟩
  | .used => some ⟨2, .utc t⟩
  | .revoked => some ⟨blacklistFloor, .utc t⟩

def TokenStatus.state : TokenStatus → TokenState
  | .unseen => .unseen
  | .first => .firstUse
  | .used => .used 2
  | .revoked => .blacklisted

namespace Checkpoint

def use (p : Checkpoint) (now : Instant) : Use → Outcome × Checkpoint
  | .refresh c => let (r, p) := p.refresh now c; (.refresh r, p)
  | .logout c => let (r, p) := p.logout now c; (.logout r, p)
  | .register account version => (.register, p.register account version)
  | .bump account =>
    let (v, directory) := p.services.directory.bump account
    (.bump v, { p with services := { p.services with directory := directory } })
  | .lock account =>
    let (r, directory) := p.services.directory.lock account
    (.lock r, { p with services := { p.services with directory := directory } })

def uses (p : Checkpoint) : List (Instant × Use) → List Outcome × Checkpoint
  | [] => ([], p)
  | (now, u) :: rest =>
    let (o, p) := p.use now u
    let (os, p) := p.uses rest
    (o :: os, p)

end Checkpoint

/-- The claims of a use name the one expiry of their token, which the calendar covers. -/
def Use.Agrees (life : TokenId → Instant) : Use → Prop
  | .refresh c | .logout c => c.expiresAt = life c.tokenId ∧ c.expiresAt.InCalendar
  | .register _ _ | .bump _ | .lock _ => True

namespace Services

variable {now : Instant} {es : Entries} {d : Directory} {key : String}

theorem run_ok {α : Type} {c : Call} {next : c.Answer → Program α} {a : c.Answer}
    {s s' : Services} (h : s.perform now none c = (some (.ok a), s')) :
    s.run now (.call c next) = s'.run now (next a) := by
  simp only [run, Program.run, h]

theorem run_error {α : Type} {c : Call} {next : c.Answer → Program α} {f : Failure}
    {s s' : Services} (h : s.perform now none c = (some (.error f), s')) :
    s.run now (.call c next) = (some (.error f), s') := by
  simp only [run, Program.run, h]

theorem perform_fetch {value : Option SignedWord} (fetched : es.fetch now key = value) :
    perform now none (.fetch key) ⟨.volatile ⟨es⟩, d⟩ =
      (some (.ok value), ⟨.volatile ⟨es⟩, d⟩) := by
  rw [← fetched]
  rfl

theorem perform_insert {value : SignedWord} {ttl : Span} {e : Entry} (positive : ttl.Positive)
    (new : Entry.new? value now ttl = some e) :
    perform now none (.insert key value ttl) ⟨.volatile ⟨es⟩, d⟩ =
      (some (.ok ()), ⟨.volatile ⟨es.insert key e⟩, d⟩) := by
  simp only [perform, Store.insert, VolatileStore.insert, if_pos positive, new]
  rfl

theorem perform_insertIfAbsent {value : SignedWord} {ttl : Span} {e : Entry}
    (positive : ttl.Positive) (absent : es.live? now key = none)
    (new : Entry.new? value now ttl = some e) :
    perform now none (.insertIfAbsent key value ttl) ⟨.volatile ⟨es⟩, d⟩ =
      (some (.ok true), ⟨.volatile ⟨es.insert key e⟩, d⟩) := by
  simp only [perform, Store.insertIfAbsent, VolatileStore.insertIfAbsent, if_pos positive, absent,
    new]
  rfl

theorem perform_increment {e : Entry} {value : SignedWord} (live : es.live? now key = some e)
    (next : e.value.succ? = some value) :
    perform now none (.increment key) ⟨.volatile ⟨es⟩, d⟩ =
      (some (.ok (some value)), ⟨.volatile ⟨es.insert key { e with value := value }⟩, d⟩) := by
  simp only [perform, Store.increment, VolatileStore.increment, live, next]
  rfl

theorem perform_lock_none {store : Store} {account : AccountId} (h : d.record? account = none) :
    perform now none (.lock account) ⟨store, d⟩ =
      (some (.error (Directory.unknown account)), ⟨store, d⟩) := by
  simp only [perform, Directory.lock, h]
  rfl

theorem perform_lock_some {store : Store} {account : AccountId} {r : AccountRecord}
    (h : d.record? account = some r) :
    perform now none (.lock account) ⟨store, d⟩ = (some (.ok ()), ⟨store, (d.lock account).2⟩) := by
  simp only [perform, Directory.lock, h]
  rfl

end Services

namespace Exchange

variable {l : Ledger} {c : Claims} {now : Instant} {es : Entries} {e : Entry} {d : Directory}

/-- What a token leaves in a store expires with it. -/
theorem new?_since (v : SignedWord) (calendar : c.expiresAt.InCalendar) :
    Entry.new? v now (c.expiresAt.since now) = some ⟨v, .utc c.expiresAt⟩ := by
  have ends : now.nanos + (c.expiresAt.nanos - now.nanos) = c.expiresAt.nanos := by omega
  simp [Entry.new?, Instant.add?, Instant.since, ends, calendar]

theorem run_invalidate (early : now < c.expiresAt) (calendar : c.expiresAt.InCalendar) :
    Services.run ⟨.volatile ⟨es⟩, d⟩ now (l.invalidate c.tokenId (c.expiresAt.since now)) =
      (some (.ok ()),
        ⟨.volatile ⟨es.insert (l.key c.tokenId) ⟨blacklistFloor, .utc c.expiresAt⟩⟩, d⟩) :=
  Services.run_ok (Services.perform_insert (Instant.since_positive early) (new?_since _ calendar))

theorem run_escalate (early : now < c.expiresAt) (calendar : c.expiresAt.InCalendar) :
    Services.run ⟨.volatile ⟨es⟩, d⟩ now (escalate l c (c.expiresAt.since now)) =
      match d.record? c.subject with
      | none => (some (.error (Directory.unknown c.subject)), ⟨.volatile ⟨es⟩, d⟩)
      | some _ => (some (.ok (.denied .replay)),
          ⟨.volatile ⟨es.insert (l.key c.tokenId) ⟨blacklistFloor, .utc c.expiresAt⟩⟩,
            (d.lock c.subject).2⟩) := by
  cases record : d.record? c.subject with
  | none => exact Services.run_error (Services.perform_lock_none record)
  | some r =>
      refine (Services.run_ok (Services.perform_lock_some record)).trans ?_
      exact Services.run_ok
        (Services.perform_insert (Instant.since_positive early) (new?_since _ calendar))

/-- A claim of a token that was presented first, and is not used yet. -/
theorem run_claim (live : es.live? now (l.key c.tokenId) = some e) (one : e.value = 1)
    (ttl : Span) :
    Services.run ⟨.volatile ⟨es⟩, d⟩ now (claim l c ttl) =
      (some (.ok .granted),
        ⟨.volatile ⟨es.insert (l.key c.tokenId) { e with value := 2 }⟩, d⟩) := by
  have next : e.value.succ? = some 2 := by
    rw [one]
    rfl
  rw [claim_eq]
  refine (Services.run_ok (Services.perform_increment live next)).trans ?_
  rw [conclude_two rfl]
  rfl

/-- The checks of the account, for a token that was presented first and is not used yet. -/
theorem run_checkAccount (live : es.live? now (l.key c.tokenId) = some e) (one : e.value = 1)
    (ttl : Span) :
    Services.run ⟨.volatile ⟨es⟩, d⟩ now (checkAccount l c ttl) =
      match d.record? c.subject with
      | none => (some (.ok (.denied .unknownAccount)), ⟨.volatile ⟨es⟩, d⟩)
      | some r =>
        if r.locked then (some (.ok (.denied .accountLocked)), ⟨.volatile ⟨es⟩, d⟩)
        else if r.version ≠ c.version then
          (some (.ok (.denied .staleVersion)), ⟨.volatile ⟨es⟩, d⟩)
        else (some (.ok .granted),
          ⟨.volatile ⟨es.insert (l.key c.tokenId) { e with value := 2 }⟩, d⟩) := by
  refine (Services.run_ok (c := .currentVersion c.subject) rfl).trans ?_
  cases record : d.record? c.subject with
  | none =>
      simp only [Directory.currentVersion, record]
      rfl
  | some r =>
      simp only [Directory.currentVersion, record]
      refine (Services.run_ok (c := .isLocked c.subject) rfl).trans ?_
      simp only [Directory.isLocked, record]
      cases r.locked with
      | true => rfl
      | false =>
          show Services.run _ now (if r.version ≠ c.version then _ else claim l c ttl) = _
          by_cases other : r.version ≠ c.version
          · rw [if_pos other, if_neg Bool.false_ne_true, if_pos other]
            rfl
          · rw [if_neg other, if_neg Bool.false_ne_true, if_neg other]
            exact run_claim live one ttl

/-- What is fetched of an entry that stands for a status. -/
theorem fetch_status {s : TokenStatus} (early : now < c.expiresAt)
    (h : es.get? (l.key c.tokenId) = s.record? c.expiresAt) :
    es.fetch now (l.key c.tokenId) = (s.record? c.expiresAt).map Entry.value := by
  cases entry : s.record? c.expiresAt with
  | none => simp [Entries.fetch, Entries.live?, h, entry]
  | some e =>
      have lives : now < e.expiresAt.instant := by
        cases s <;> cases entry <;> exact early
      rw [entry] at h
      rw [Entries.fetch, Entries.live?_eq_some_iff.mpr ⟨h, lives⟩]

theorem run_check_revoked (early : now < c.expiresAt) (ttl : Span)
    (h : es.get? (l.key c.tokenId) = TokenStatus.revoked.record? c.expiresAt) :
    Services.run ⟨.volatile ⟨es⟩, d⟩ now (check l c ttl) =
      (some (.ok (.denied .blacklisted)), ⟨.volatile ⟨es⟩, d⟩) :=
  Services.run_ok (Services.perform_fetch (fetch_status early h))

theorem run_check_used (early : now < c.expiresAt) (calendar : c.expiresAt.InCalendar)
    (h : es.get? (l.key c.tokenId) = TokenStatus.used.record? c.expiresAt) :
    Services.run ⟨.volatile ⟨es⟩, d⟩ now (check l c (c.expiresAt.since now)) =
      match d.record? c.subject with
      | none => (some (.error (Directory.unknown c.subject)), ⟨.volatile ⟨es⟩, d⟩)
      | some _ => (some (.ok (.denied .replay)),
          ⟨.volatile ⟨es.insert (l.key c.tokenId) ⟨blacklistFloor, .utc c.expiresAt⟩⟩,
            (d.lock c.subject).2⟩) := by
  have fetched := Services.perform_fetch (d := d) (fetch_status early h)
  refine (Services.run_ok fetched).trans ?_
  refine (Services.run_ok fetched).trans ?_
  exact run_escalate early calendar

theorem run_check_first (live : es.live? now (l.key c.tokenId) = some e) (one : e.value = 1)
    (ttl : Span) :
    Services.run ⟨.volatile ⟨es⟩, d⟩ now (check l c ttl) =
      Services.run ⟨.volatile ⟨es⟩, d⟩ now (checkAccount l c ttl) := by
  have fetched : es.fetch now (l.key c.tokenId) = some 1 := by
    rw [Entries.fetch, live, Option.map_some, one]
  refine (Services.run_ok (Services.perform_fetch fetched)).trans ?_
  exact Services.run_ok (Services.perform_fetch fetched)

theorem run_check_unseen (early : now < c.expiresAt) (calendar : c.expiresAt.InCalendar)
    (absent : es.live? now (l.key c.tokenId) = none) :
    Services.run ⟨.volatile ⟨es⟩, d⟩ now (check l c (c.expiresAt.since now)) =
      Services.run ⟨.volatile ⟨es.insert (l.key c.tokenId) ⟨1, .utc c.expiresAt⟩⟩, d⟩ now
        (checkAccount l c (c.expiresAt.since now)) := by
  have fetched : es.fetch now (l.key c.tokenId) = none := by rw [Entries.fetch, absent]; rfl
  refine (Services.run_ok (Services.perform_fetch fetched)).trans ?_
  refine (Services.run_ok (Services.perform_fetch fetched)).trans ?_
  exact Services.run_ok
    (Services.perform_insertIfAbsent (Instant.since_positive early) absent (new?_since _ calendar))

end Exchange

namespace Reference

/-- Entries and accounts that stand for the reference machine. -/
structure Stands (l : Ledger) (life : TokenId → Instant) (m : Reference) (es : Entries)
    (d : Directory) : Prop where
  entries : ∀ id, es.get? (l.key id) = (m.status id).record? (life id)
  account : ∀ a, (d.record? a).map (fun r => ⟨r.version, r.locked⟩) = m.account a

/-- A result and the services after it are those of the reference machine. -/
def Matches {α : Type} (l : Ledger) (life : TokenId → Instant) (x : Option α × Services)
    (y : α × Reference) : Prop :=
  ∃ es d, x = (some y.1, ⟨.volatile ⟨es⟩, d⟩) ∧ Stands l life y.2 es d

variable {l : Ledger} {life : TokenId → Instant} {m : Reference} {es : Entries} {d : Directory}
  {now : Instant} {c : Claims}

theorem mark_status {id : TokenId} {s : TokenStatus} (h : m.status id = s) : m.mark id s = m := by
  subst h
  have same : (fun i => if i = id then m.status id else m.status i) = m.status := by
    funext i
    split
    · rename_i here
      rw [here]
    · rfl
  simp only [mark, same]

namespace Stands

theorem mark {id : TokenId} {s : TokenStatus} {e : Entry} (h : Stands l life m es d)
    (entry : s.record? (life id) = some e) :
    Stands l life (m.mark id s) (es.insert (l.key id) e) d := by
  refine ⟨fun i => ?_, h.account⟩
  rw [Table.get?_insert]
  by_cases same : i = id
  · subst same
    simp [Reference.mark, entry]
  · have apart : l.key id ≠ l.key i := fun key => same (l.key_injective key).symm
    simp [Reference.mark, same, apart, h.entries i]

theorem set {d' : Directory} {a : AccountId} {r : AccountRecord} (h : Stands l life m es d)
    (changed : ∀ b, d'.record? b = if a = b then some r else d.record? b) :
    Stands l life (m.set a ⟨r.version, r.locked⟩) es d' := by
  refine ⟨h.entries, fun b => ?_⟩
  rw [changed b]
  by_cases same : b = a
  · subst same
    simp [Reference.set]
  · simp [Reference.set, same, Ne.symm same, ← h.account b]

theorem lock {a : AccountId} {r : AccountRecord} (h : Stands l life m es d)
    (record : d.record? a = some r) :
    Stands l life (m.set a ⟨r.version, true⟩) es (d.lock a).2 := by
  refine h.set (r := { r with locked := true, lockRequests := r.lockRequests + 1 }) fun b => ?_
  rw [Directory.record?_lock, record]
  rfl

theorem account_none {a : AccountId} (h : Stands l life m es d) (record : d.record? a = none) :
    m.account a = none := by
  rw [← h.account a, record]
  rfl

theorem account_some {a : AccountId} {r : AccountRecord} (h : Stands l life m es d)
    (record : d.record? a = some r) : m.account a = some ⟨r.version, r.locked⟩ := by
  rw [← h.account a, record]
  rfl

/-- The replay of a token that was used. -/
theorem replay (h : Stands l life m es d) (early : now < c.expiresAt)
    (calendar : c.expiresAt.InCalendar) (agrees : c.expiresAt = life c.tokenId) :
    Matches l life (Services.run ⟨.volatile ⟨es⟩, d⟩ now
      (Exchange.escalate l c (c.expiresAt.since now))) (m.replay c) := by
  rw [Exchange.run_escalate early calendar]
  cases record : d.record? c.subject with
  | none =>
      simp only [Reference.replay, h.account_none record]
      exact ⟨es, d, rfl, h⟩
  | some r =>
      simp only [Reference.replay, h.account_some record]
      exact ⟨_, _, rfl, (h.lock record).mark (by rw [← agrees]; rfl)⟩

/-- The account of a token that is at its first use. -/
theorem checkAccount (h : Stands l life m es d) (early : now < c.expiresAt)
    (agrees : c.expiresAt = life c.tokenId) (first : m.status c.tokenId = .first) (ttl : Span) :
    Matches l life (Services.run ⟨.volatile ⟨es⟩, d⟩ now (Exchange.checkAccount l c ttl))
      (m.checkAccount c) := by
  have entry : es.get? (l.key c.tokenId) = some ⟨1, .utc c.expiresAt⟩ := by
    rw [h.entries, first, ← agrees]
    rfl
  rw [Exchange.run_checkAccount (Entries.live?_eq_some_iff.mpr ⟨entry, early⟩) rfl]
  cases record : d.record? c.subject with
  | none =>
      simp only [Reference.checkAccount, h.account_none record]
      exact ⟨es, d, rfl, h⟩
  | some r =>
      simp only [Reference.checkAccount, h.account_some record]
      split
      · exact ⟨es, d, rfl, h⟩
      · split
        · exact ⟨es, d, rfl, h⟩
        · exact ⟨_, _, rfl, h.mark (by rw [← agrees]; rfl)⟩

/-- A presentation has the answer of the reference machine, and leads to its next state. -/
theorem refresh (now : Instant) (h : Stands l life m es d) (agrees : c.expiresAt = life c.tokenId)
    (calendar : c.expiresAt.InCalendar) :
    Matches l life (Services.run ⟨.volatile ⟨es⟩, d⟩ now (Exchange.decide l c now))
      (m.refresh now c) := by
  unfold Reference.refresh Exchange.decide
  by_cases late : c.expiresAt ≤ now
  · rw [if_pos late, (c.remaining?_eq_none_iff now).mpr late]
    exact ⟨es, d, rfl, h⟩
  have early := Instant.not_le.mp late
  rw [if_neg late, (c.remaining?_eq_some_iff now _).mpr ⟨early, rfl⟩]
  have entry := h.entries c.tokenId
  rw [← agrees] at entry
  cases status : m.status c.tokenId with
  | revoked =>
      rw [status] at entry
      exact ⟨es, d, Exchange.run_check_revoked early _ entry, h⟩
  | used =>
      rw [status] at entry
      have replayed := h.replay early calendar agrees
      rw [Exchange.run_escalate early calendar, ← Exchange.run_check_used early calendar entry]
        at replayed
      exact replayed
  | first =>
      rw [status] at entry
      have checked := h.checkAccount early agrees status (c.expiresAt.since now)
      rw [← Exchange.run_check_first (Entries.live?_eq_some_iff.mpr ⟨entry, early⟩) rfl] at checked
      rw [mark_status status]
      exact checked
  | unseen =>
      rw [status] at entry
      have absent : es.live? now (l.key c.tokenId) = none := by
        simp [Entries.live?, entry, TokenStatus.record?]
      have marked := h.mark (s := .first)
        (show TokenStatus.record? (life c.tokenId) .first = _ from rfl)
      have checked := marked.checkAccount early agrees (by simp [Reference.mark])
        (c.expiresAt.since now)
      rw [← agrees, ← Exchange.run_check_unseen early calendar absent] at checked
      exact checked

theorem logout (now : Instant) (h : Stands l life m es d) (agrees : c.expiresAt = life c.tokenId)
    (calendar : c.expiresAt.InCalendar) :
    Matches l life (Services.run ⟨.volatile ⟨es⟩, d⟩ now (l.logout c now))
      (.ok (), m.logout now c) := by
  unfold Reference.logout Ledger.logout
  by_cases late : c.expiresAt ≤ now
  · rw [if_pos late, (c.remaining?_eq_none_iff now).mpr late]
    exact ⟨es, d, rfl, h⟩
  have early := Instant.not_le.mp late
  rw [if_neg late, (c.remaining?_eq_some_iff now _).mpr ⟨early, rfl⟩]
  refine ⟨_, d, Exchange.run_invalidate early calendar, ?_⟩
  exact h.mark (by rw [← agrees]; rfl)

end Stands

end Reference

namespace Checkpoint

variable {l : Ledger} {life : TokenId → Instant} {p : Checkpoint} {m : Reference}

/-- A checkpoint with its services in memory stands for the reference machine. -/
def Refines (l : Ledger) (life : TokenId → Instant) (p : Checkpoint) (m : Reference) : Prop :=
  p.gate.ledger = l ∧ ∃ es d, p.services = ⟨.volatile ⟨es⟩, d⟩ ∧ m.Stands l life es d

/-- A gate that counts keeps its ledger. -/
theorem ledger_endExchange (g : Gate) (r : Option (Except Failure Decision)) :
    (g.beginExchange.endExchange r).ledger = g.ledger := by
  unfold Gate.endExchange
  split <;> rfl

theorem ledger_endLogout (g : Gate) (r : Option (Except Failure Unit)) :
    (g.beginLogout.endLogout r).ledger = g.ledger := by
  unfold Gate.endLogout
  split <;> rfl

/-- One use has the outcome of the reference machine, and leads to its next state. -/
theorem Refines.use {u : Use} (h : Refines l life p m) (now : Instant) (agrees : u.Agrees life) :
    (p.use now u).1 = (m.use now u).1 ∧ Refines l life (p.use now u).2 (m.use now u).2 := by
  obtain ⟨rfl, es, d, services, stands⟩ := h
  cases u with
  | refresh c =>
      obtain ⟨es', d', runs, stands'⟩ := stands.refresh now agrees.1 agrees.2
      have runs : p.services.run now (Exchange.decide p.gate.ledger c now) = _ := services ▸ runs
      refine ⟨?_, ledger_endExchange _ _, es', d', ?_, stands'⟩
      · exact congrArg (fun x => Outcome.refresh x.1) runs
      · exact congrArg Prod.snd runs
  | logout c =>
      obtain ⟨es', d', runs, stands'⟩ := stands.logout now agrees.1 agrees.2
      have runs : p.services.run now (p.gate.ledger.logout c now) = _ := services ▸ runs
      refine ⟨?_, ledger_endLogout _ _, es', d', ?_, stands'⟩
      · exact congrArg (fun x => Outcome.logout x.1) runs
      · exact congrArg Prod.snd runs
  | register account version =>
      refine ⟨rfl, rfl, es, d.register account version, ?_, ?_⟩
      · simp only [Checkpoint.use, register, services]
      · exact stands.set (r := ⟨version, false, 0⟩) fun b =>
          Directory.record?_register d account b _
  | bump account =>
      simp only [Checkpoint.use, Reference.use, services]
      cases record : d.record? account with
      | none =>
          simp only [Directory.bump, Reference.bump, record, stands.account_none record]
          exact ⟨trivial, rfl, es, d, rfl, stands⟩
      | some r =>
          have changed := fun b => Directory.record?_bump d account b
          simp only [record, Option.map_some] at changed
          simp only [Reference.bump, stands.account_some record]
          exact ⟨by simp [Directory.bump, record], rfl, es, _, rfl, stands.set changed⟩
  | lock account =>
      simp only [Checkpoint.use, Reference.use, services]
      cases record : d.record? account with
      | none =>
          simp only [Directory.lock, Reference.lock, record, stands.account_none record]
          exact ⟨trivial, rfl, es, d, rfl, stands⟩
      | some r =>
          simp only [Reference.lock, stands.account_some record]
          exact ⟨by simp [Directory.lock, record], rfl, es, _, rfl, stands.lock record⟩

theorem Refines.uses {us : List (Instant × Use)} (h : Refines l life p m)
    (agrees : ∀ u ∈ us, u.2.Agrees life) :
    (p.uses us).1 = (m.uses us).1 ∧ Refines l life (p.uses us).2 (m.uses us).2 := by
  induction us generalizing p m with
  | nil => exact ⟨rfl, h⟩
  | cons u rest ih =>
      obtain ⟨now, u⟩ := u
      obtain ⟨same, next⟩ := h.use now (agrees _ List.mem_cons_self)
      obtain ⟨same', last⟩ := ih next fun v hv => agrees v (List.mem_cons_of_mem _ hv)
      refine ⟨?_, last⟩
      simp only [Checkpoint.uses, Reference.uses, same, same']

/-- What the ledger says of a token is its status, until it expires. -/
theorem Refines.standing {now : Instant} (h : Refines l life p m) (id : TokenId) :
    Ledger.standing (l.key id) (p.services.store.fetch now (l.key id)) =
      .ok (if life id ≤ now then .unseen else (m.status id).state) := by
  obtain ⟨_, es, d, services, stands⟩ := h
  have entry := stands.entries id
  have fetched : p.services.store.fetch now (l.key id) = es.fetch now (l.key id) := by
    rw [services]
    rfl
  rw [fetched, Entries.fetch, Entries.live?, entry]
  by_cases late : life id ≤ now
  · have gone := Instant.not_lt.mpr late
    cases m.status id <;>
      simp [TokenStatus.record?, Option.filter, Entry.isLive, Stamp.utc, gone, late,
        Ledger.standing]
  · have lives := Instant.not_le.mp late
    cases m.status id <;>
      simp [TokenStatus.record?, Option.filter, Entry.isLive, Stamp.utc, lives, late,
        Ledger.standing, TokenStatus.state] <;>
      rfl

/-- A gate used by one party at a time refines the reference machine: all outcomes are the
same, and so is the state that they lead to, as far as the ledger and the directory show it.
The claims of one token share its expiry. The clock stands still during each use; between
two it may even go back. -/
theorem uses_refines_reference (l : Ledger) (life : TokenId → Instant)
    (us : List (Instant × Use)) (agrees : ∀ u ∈ us, u.2.Agrees life) :
    let (outcomes, p) := (Checkpoint.mk (.new l) .inMemory).uses us
    let (expected, m) := Reference.empty.uses us
    outcomes = expected ∧
      (∀ now id, Ledger.standing (l.key id) (p.services.store.fetch now (l.key id)) =
        .ok (if life id ≤ now then .unseen else (m.status id).state)) ∧
      ∀ a, (p.services.directory.record? a).map (fun r => ⟨r.version, r.locked⟩) = m.account a := by
  have start : Refines l life (Checkpoint.mk (.new l) .inMemory) .empty :=
    ⟨rfl, .empty, .empty, rfl, fun _ => rfl, fun _ => rfl⟩
  obtain ⟨same, last⟩ := start.uses agrees
  refine ⟨same, fun now id => last.standing id, fun a => ?_⟩
  obtain ⟨_, es, d, services, stands⟩ := last
  rw [services]
  exact stands.account a

/-- A token that is exchanged, replayed and then presented once more. -/
def replayedUses (c : Claims) : List (Instant × Use) :=
  [(.ofSeconds 0, .register c.subject c.version), (.ofSeconds 1, .refresh c),
    (.ofSeconds 2, .refresh c), (.ofSeconds 3, .refresh c)]

theorem replayed_token_outcomes :
    ((Checkpoint.mk (.new .standard) .inMemory).uses (replayedUses Traffic.sampleClaims)).1 =
      [.register, .refresh (some (.ok .granted)), .refresh (some (.ok (.denied .replay))),
        .refresh (some (.ok (.denied .blacklisted)))] := by
  have agrees : ∀ u ∈ replayedUses Traffic.sampleClaims, u.2.Agrees fun _ => .ofSeconds 60 := by
    intro u member
    simp only [replayedUses, List.mem_cons, List.not_mem_nil, or_false] at member
    rcases member with rfl | rfl | rfl | rfl
    · trivial
    · exact ⟨rfl, by decide⟩
    · exact ⟨rfl, by decide⟩
    · exact ⟨rfl, by decide⟩
  exact (uses_refines_reference .standard (fun _ => .ofSeconds 60) _ agrees).1.trans rfl

end Checkpoint

end RequestGuard
