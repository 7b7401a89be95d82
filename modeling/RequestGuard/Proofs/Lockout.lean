import RequestGuard.Proofs.Runs
import RequestGuard.Proofs.Transcript

/-!
# The lock after a replay

An exchange that has seen a replay locks the account of the token with its very next call, then
blacklists the token, and denies the replay only after both.

A failure of either step loses nothing. Where presentations follow one another over a store in
memory, and any of their calls may be made to fail, the counter of a token that was used stays as
it is until one of its presentations is denied as a replay, so each of them tries again.
`present_used` says how one presentation of the token may end, and `presentAll_used` is the
invariant of a whole run.
-/

namespace RequestGuard

namespace Exchange

variable {l : Ledger} {c : Claims} {now : Instant} {key : String} {ttl : Span} {h : List Made}
  {q : Option (Program Decision)}

theorem Overspent.ne_nil (overspent : Overspent key c ttl h) : h ≠ [] := by
  cases overspent with
  | judged clears | counted clears =>
      cases clears with
      | unknown | low => exact List.cons_ne_nil _ _

/-- An exchange that has seen a replay escalates it. -/
theorem escalates_of_overspent (leads : Program.Leads (some (decide l c now)) h q)
    (overspent : Overspent (l.key c.tokenId) c (c.expiresAt.since now) h) :
    q = some (escalate l c (c.expiresAt.since now)) := by
  obtain ⟨_, none, _⟩ | ⟨early, _⟩ := Operation.decide_cases leads
  · exact absurd none overspent.ne_nil
  · exact (overspent.leads early).unique leads

/-- An exchange locks no account unless it has seen a replay. -/
theorem overspent_of_lock {a : AccountId} {next : Unit → Program Decision}
    (leads : Program.Leads (some (decide l c now)) h (some (.call (.lock a) next))) :
    Overspent (l.key c.tokenId) c (c.expiresAt.since now) h := by
  have answered := leads.allAnswered fun _ same => (nomatch same)
  obtain ⟨_, ⟨⟨⟩, _⟩ | ⟨before, rest, rfl, overspent, escalates⟩ | ⟨_, ⟨⟩, _⟩⟩ :=
    of_decide (.lock a next) answered leads
  obtain ⟨rfl, _⟩ | ⟨_, ⟨⟩⟩ := of_escalate (.lock a next) answered.of_append escalates
  rw [List.append_nil]
  exact overspent

/-- A replay is denied once the account is locked and the token is blacklisted, and only then. -/
theorem replay_iff (leads : Program.Leads (some (decide l c now)) h q) :
    q = some (.pure (.denied .replay)) ↔
      ∃ before, Overspent (l.key c.tokenId) c (c.expiresAt.since now) before ∧
        h = before ++ [⟨.lock c.subject, some (.ok ())⟩,
          ⟨.insert (l.key c.tokenId) blacklistFloor (c.expiresAt.since now), some (.ok ())⟩] := by
  constructor
  · rintro rfl
    have answered := leads.allAnswered fun _ same => (nomatch same)
    obtain ⟨_, ⟨⟨⟩, _⟩ | ⟨before, rest, rfl, overspent, escalates⟩ | ⟨_, ⟨⟩, _⟩⟩ :=
      of_decide .replay answered leads
    obtain ⟨_, ⟨⟩⟩ | ⟨rfl, _⟩ := of_escalate .replay answered.of_append escalates
    exact ⟨before, overspent, rfl⟩
  · rintro ⟨before, overspent, rfl⟩
    obtain ⟨next, first, rest⟩ := leads.split
    have same := escalates_of_overspent first overspent
    cases same
    exact (Program.Leads.answer (.stay _)).unique rest

end Exchange

/-- A token that is presented, with what happens meanwhile: what the clock reads at each call, and
the failure that the call is made to reply with, if it is. The clock does not go back. -/
structure Presentation where
  start : Instant
  claims : Claims
  clock : Nat → Instant
  fails : Nat → Option Failure
  later : ∀ n, start ≤ clock n

namespace Presentation

variable {α : Type}

/-- How long the token lives when it is presented. -/
def life (p : Presentation) : Span := p.claims.expiresAt.since p.start

/-- All calls are made before a moment. -/
def Before (p : Presentation) (t : Instant) : Prop := ∀ n, p.clock n < t

/-- What is written for the life of the token expires within the calendar. -/
def Fits (p : Presentation) : Prop := ∀ n, (p.clock n).add? p.life ≠ none

/-- Replies to a call after `n` others. If it is made to fail, it has no effect. -/
def reply (p : Presentation) (c : Call) : Nat × Services → Option c.Reply × Nat × Services
  | (n, s) => match p.fails n with
    | some f => (some (.error f), n + 1, s)
    | none => let (r, s) := s.perform (p.clock n) none c; (r, n + 1, s)

/-- What comes of the presentation. -/
def outcome (l : Ledger) (p : Presentation) (s : Services) :
    Option (Except Failure Decision) × Nat × Services :=
  (Exchange.decide l p.claims p.start).run p.reply (0, s)

/-- If the clock stands still meanwhile, what is written expires with the token. -/
theorem fits_of_still {p : Presentation} (covered : p.claims.expiresAt.InCalendar)
    (still : ∀ n, p.clock n = p.start) : p.Fits := by
  intro n
  have ends : (⟨p.start.nanos + p.life.nanos⟩ : Instant) = p.claims.expiresAt := by
    refine congrArg Instant.mk ?_
    show p.start.nanos + (p.claims.expiresAt.nanos - p.start.nanos) = p.claims.expiresAt.nanos
    omega
  rw [still n, Instant.add?, ends, if_pos covered]
  exact Option.some_ne_none _

variable {p : Presentation} {n : Nat} {s : Services} {c : Call}
  {next : c.Answer → Program α} {Q : Option (Except Failure α) × Nat × Services → Prop}

/-- What holds of a program that makes a call: it holds if the call is made to fail, and it holds
for every reply of the call that is performed. -/
theorem run_call (failed : ∀ f, Q (some (.error f), n + 1, s))
    (performed : p.fails n = none →
      Q (match s.perform (p.clock n) none c with
        | (some (.ok a), s) => (next a).run p.reply (n + 1, s)
        | (some (.error f), s) => (some (.error f), n + 1, s)
        | (none, s) => (none, n + 1, s))) :
    Q ((Program.call c next).run p.reply (n, s)) := by
  cases fails : p.fails n with
  | some f =>
      have same : (Program.call c next).run p.reply (n, s) = (some (.error f), n + 1, s) := by
        simp only [Program.run, reply, fails]
      rw [same]
      exact failed f
  | none =>
      have done := performed fails
      cases run : s.perform (p.clock n) none c with
      | mk r s' =>
        rw [run] at done
        simp only [Program.run, reply, fails, run]
        obtain _ | _ | _ := r
        · exact done
        · exact done
        · exact done

/-- What every call that a program may come to keeps, whatever is left of the program keeps. -/
theorem run_keeps {root program : Program α} {h : List Made} {P : Services → Prop}
    (each : ∀ h c (next : c.Answer → Program α) now s,
      Program.Leads (some root) h (some (.call c next)) → P s → P (s.perform now none c).2)
    (leads : Program.Leads (some root) h (some program)) (first : P s) :
    P (program.run p.reply (n, s)).2.2 := by
  induction program generalizing h n s with
  | pure a => exact first
  | fail f => exact first
  | call c next ih =>
      refine run_call (Q := fun x => P x.2.2) (fun _ => first) fun _ => ?_
      have kept := each h c next (p.clock n) s leads first
      cases run : s.perform (p.clock n) none c with
      | mk r s' =>
        rw [run] at kept
        match r with
        | some (.ok a) => exact ih a (leads.extend (some (.ok a)) rfl) kept
        | some (.error f) => exact kept
        | none => exact kept

end Presentation

/-- Everything is in memory, and under the key is the entry. -/
structure Services.Holds (key : String) (e : Entry) (s : Services) : Prop where
  memory : s.store.isDurable = false
  entry : s.store.entries.get? key = some e

theorem Services.Holds.in_memory {key : String} {e : Entry} {s : Services} (holds : s.Holds key e) :
    ∃ es d, s = ⟨.volatile ⟨es⟩, d⟩ ∧ es.get? key = some e := by
  obtain ⟨⟨⟨es⟩⟩ | _, d⟩ := s
  · exact ⟨es, d, rfl, holds.entry⟩
  · cases holds.memory

/-- How a presentation of a token in use ends: with a failure, or unanswered, the entry being
what it was, or with the denial of a replay. -/
inductive Repelled (l : Ledger) (p : Presentation) (e : Entry) :
    Option (Except Failure Decision) × Nat × Services → Prop
  | failed (f : Failure) {n : Nat} {s : Services} (holds : s.Holds (l.key p.claims.tokenId) e) :
      Repelled l p e (some (.error f), n, s)
  | unanswered {n : Nat} {s : Services} (holds : s.Holds (l.key p.claims.tokenId) e)
      (beyond : ¬ p.Fits) : Repelled l p e (none, n, s)
  | replay {n : Nat} {s : Services} {u : Instant}
      (locked : s.directory.isLocked p.claims.subject = true)
      (blacklisted : s.store.entries.get? (l.key p.claims.tokenId) =
        some ⟨blacklistFloor, .utc u⟩)
      (lasts : p.claims.expiresAt ≤ u) : Repelled l p e (some (.ok (.denied .replay)), n, s)

namespace Repelled

variable {l : Ledger} {p : Presentation} {e : Entry}
  {x : Option (Except Failure Decision) × Nat × Services}

theorem holds (repelled : Repelled l p e x) (other : x.1 ≠ some (.ok (.denied .replay))) :
    x.2.2.Holds (l.key p.claims.tokenId) e := by
  cases repelled with
  | failed f holds => exact holds
  | unanswered holds => exact holds
  | replay => exact absurd rfl other

theorem failed_or_replay (repelled : Repelled l p e x) :
    (∃ f, x.1 = some (.error f)) ∨
      (x.1 = some (.ok (.denied .replay)) ∧ x.2.2.directory.isLocked p.claims.subject = true ∧
        ∃ u, p.claims.expiresAt ≤ u ∧
          x.2.2.store.entries.get? (l.key p.claims.tokenId) = some ⟨blacklistFloor, .utc u⟩) ∨
      x.1 = none ∧ ¬ p.Fits := by
  cases repelled with
  | failed f => exact .inl ⟨f, rfl⟩
  | unanswered _ beyond => exact .inr (.inr ⟨rfl, beyond⟩)
  | replay locked blacklisted lasts => exact .inr (.inl ⟨rfl, locked, _, lasts, blacklisted⟩)

end Repelled

theorem Directory.isLocked_lock {d : Directory} {a : AccountId} {r : AccountRecord}
    (record : d.record? a = some r) : (d.lock a).2.isLocked a = true := by
  rw [Directory.isLocked, Directory.record?_lock, if_pos rfl, record]
  rfl

/-- An insert whose entry would expire beyond the calendar has no reply and no effect. -/
theorem Services.perform_insert_none {now : Instant} {key : String} {value : SignedWord}
    {ttl : Span} {es : Entries} {d : Directory} (positive : ttl.Positive)
    (ends : now.add? ttl = none) :
    perform now none (.insert key value ttl) ⟨.volatile ⟨es⟩, d⟩ =
      (none, ⟨.volatile ⟨es⟩, d⟩) := by
  simp only [perform, Store.insert, VolatileStore.insert, if_pos positive, Entry.new?, ends]
  rfl

section Used

variable {l : Ledger} {p : Presentation} {e : Entry} {es : Entries} {d : Directory} {n : Nat}

/-- A replay ends with a failure, or with the lock and the denial. -/
theorem escalate_used (used : es.get? (l.key p.claims.tokenId) = some e)
    (early : p.start < p.claims.expiresAt) :
    Repelled l p e
      ((Exchange.escalate l p.claims p.life).run p.reply (n, ⟨.volatile ⟨es⟩, d⟩)) := by
  refine p.run_call (fun f => .failed f ⟨rfl, used⟩) fun _ => ?_
  match record : d.record? p.claims.subject with
  | none =>
      rw [Services.perform_lock_none record]
      exact .failed _ ⟨rfl, used⟩
  | some r =>
      rw [Services.perform_lock_some record]
      refine p.run_call (fun f => .failed f ⟨rfl, used⟩) fun _ => ?_
      have positive : p.life.Positive := Instant.since_positive early
      match ends : (p.clock (n + 1)).add? p.life with
      | none =>
          rw [Services.perform_insert_none positive ends]
          exact .unanswered ⟨rfl, used⟩ fun fits => fits (n + 1) ends
      | some u =>
          have new : Entry.new? blacklistFloor (p.clock (n + 1)) p.life =
              some ⟨blacklistFloor, .utc u⟩ := by rw [Entry.new?, ends, Option.map_some]
          rw [Services.perform_insert positive new]
          refine .replay (u := u) (Directory.isLocked_lock record) ?_ ?_
          · exact (Table.get?_insert _ _ _ _).trans (if_pos rfl)
          · have later := p.later (n + 1)
            have sum := Instant.add?_eq_some ends
            simp only [Instant.le_iff, Presentation.life, Instant.since] at later sum ⊢
            omega

/-- A presentation of a token in use makes its way to the escalation, or fails before. -/
theorem outcome_used {s : Services} (holds : s.Holds (l.key p.claims.tokenId) e)
    (high : 2 ≤ e.value.toInt) (low : e.value.toInt < blacklistFloor.toInt)
    (before : p.Before e.expiresAt.instant) (early : p.start < p.claims.expiresAt) :
    Repelled l p e (p.outcome l s) := by
  obtain ⟨es, d, rfl, used⟩ := holds.in_memory
  have fetched : ∀ n, Services.perform (p.clock n) none (.fetch (l.key p.claims.tokenId))
      ⟨.volatile ⟨es⟩, d⟩ = (some (.ok (some e.value)), ⟨.volatile ⟨es⟩, d⟩) := by
    intro n
    refine Services.perform_fetch ?_
    rw [Entries.fetch, Entries.live?_eq_some_iff.mpr ⟨used, before n⟩, Option.map_some]
  rw [Presentation.outcome, Exchange.decide,
    (p.claims.remaining?_eq_some_iff p.start _).mpr ⟨early, rfl⟩]
  refine p.run_call (fun f => .failed f ⟨rfl, used⟩) fun _ => ?_
  rw [fetched]
  show Repelled l p e ((Exchange.examine l p.claims p.life (some e.value)).run _ _)
  rw [Exchange.examine_low (Int.not_le.mpr low), Exchange.checkUses_eq]
  refine p.run_call (fun f => .failed f ⟨rfl, used⟩) fun _ => ?_
  rw [fetched]
  show Repelled l p e ((Exchange.pursue l p.claims p.life e.value).run _ _)
  obtain ⟨_, same⟩ | ⟨one, _⟩ | ⟨none, _⟩ := Exchange.pursue_cases l p.claims p.life e.value
  · rw [same]
    exact escalate_used used early
  · rw [one] at high
    exact absurd high (by decide)
  · omega

end Used

namespace Services

/-- A token is presented: the answer, and the services after it. -/
def present (l : Ledger) (s : Services) (p : Presentation) :
    Option (Except Failure Decision) × Services :=
  ((p.outcome l s).1, (p.outcome l s).2.2)

/-- One presentation after the other, each with its answer, and the services after them all. -/
def presentAll (l : Ledger) (s : Services) : List Presentation →
    List (Presentation × Option (Except Failure Decision)) × Services
  | [] => ([], s)
  | p :: ps =>
    let (r, s) := s.present l p
    let (log, s) := s.presentAll l ps
    ((p, r) :: log, s)

variable {l : Ledger} {s : Services} {id : TokenId} {e : Entry} {p : Presentation}

theorem Holds.elsewhere (holds : s.Holds (l.key id) e) (other : p.claims.tokenId ≠ id) :
    (s.present l p).2.Holds (l.key id) e := by
  refine p.run_keeps ?_ (.stay _) holds
  intro h c next now s leads holds
  have elsewhere : c.key? ≠ some (l.key id) := fun about =>
    other (l.key_injective (Operation.call_key (o := .refresh p.claims) leads about)).symm
  have outcome : Kept now (l.key id) s (s.perform now none c).2 := kept_perform elsewhere
  obtain ⟨memory, kept | ⟨durable, _⟩⟩ := outcome
  · exact ⟨memory.trans holds.memory, kept.trans holds.entry⟩
  · rw [holds.memory] at durable
    cases durable

/-- A presentation of the token itself that is not denied as a replay leaves the entry, also if
the token has expired. -/
theorem Holds.own (holds : s.Holds (l.key id) e) (own : p.claims.tokenId = id)
    (high : 2 ≤ e.value.toInt) (low : e.value.toInt < blacklistFloor.toInt)
    (before : p.Before e.expiresAt.instant)
    (other : (s.present l p).1 ≠ some (.ok (.denied .replay))) :
    (s.present l p).2.Holds (l.key id) e := by
  subst own
  by_cases early : p.start < p.claims.expiresAt
  · exact (outcome_used holds high low before early).holds other
  · have late := (p.claims.remaining?_eq_none_iff p.start).mpr (Instant.not_lt.mp early)
    rw [present, Presentation.outcome, Exchange.decide, late]
    exact holds

/-- As long as no presentation of a token in use is denied as a replay, its entry stays. -/
theorem Holds.presentAll {ps : List Presentation} (holds : s.Holds (l.key id) e)
    (high : 2 ≤ e.value.toInt) (low : e.value.toInt < blacklistFloor.toInt)
    (none : ∀ x ∈ (s.presentAll l ps).1, x.1.claims.tokenId = id →
      x.1.Before e.expiresAt.instant ∧ x.2 ≠ some (.ok (.denied .replay))) :
    (s.presentAll l ps).2.Holds (l.key id) e := by
  induction ps generalizing s with
  | nil => exact holds
  | cons p ps ih =>
      have first : (s.present l p).2.Holds (l.key id) e := by
        by_cases own : p.claims.tokenId = id
        · obtain ⟨before, other⟩ := none (p, (s.present l p).1) List.mem_cons_self own
          exact holds.own own high low before other
        · exact holds.elsewhere own
      exact ih first fun x member => none x (List.mem_cons_of_mem _ member)

end Services

/-- The lock after a replay. Whatever is replied to its calls, an exchange comes to lock an account
exactly if it has seen a replay. Then it locks the account of the token at once, and after that it
only blacklists the token for the rest of its life. A replay is denied exactly if both succeed.

So the lock is not lost to a failure. Presentations of any tokens may follow one another over a
store in memory, with failures at any of their calls. As long as no presentation of a token whose
live entry shows two uses or more has been denied as a replay, the next one of that token fails or
is denied as a replay, and then the account is locked and the token is blacklisted. It never has
another answer. It has none at all only if the new entry would expire beyond the calendar, which
cannot be if the clock stands still meanwhile. -/
theorem lock_not_lost (l : Ledger) :
    (∀ c now h q, Program.Leads (some (Exchange.decide l c now)) h q →
      ((∃ a next, q = some (.call (.lock a) next)) ↔
        Exchange.Overspent (l.key c.tokenId) c (c.expiresAt.since now) h) ∧
      (Exchange.Overspent (l.key c.tokenId) c (c.expiresAt.since now) h →
        q = some (.call (.lock c.subject) fun _ =>
          .call (.insert (l.key c.tokenId) blacklistFloor (c.expiresAt.since now)) fun _ =>
            .pure (.denied .replay))) ∧
      (q = some (.pure (.denied .replay)) ↔
        ∃ before, Exchange.Overspent (l.key c.tokenId) c (c.expiresAt.since now) before ∧
          h = before ++ [⟨.lock c.subject, some (.ok ())⟩,
            ⟨.insert (l.key c.tokenId) blacklistFloor (c.expiresAt.since now),
              some (.ok ())⟩])) ∧
    ∀ (s : Services) (earlier : List Presentation) (p : Presentation) (e : Entry),
      s.store.isDurable = false → s.store.entries.get? (l.key p.claims.tokenId) = some e →
      2 ≤ e.value.toInt → e.value.toInt < blacklistFloor.toInt →
      (∀ x ∈ (s.presentAll l earlier).1, x.1.claims.tokenId = p.claims.tokenId →
        x.1.Before e.expiresAt.instant ∧ x.2 ≠ some (.ok (.denied .replay))) →
      p.Before e.expiresAt.instant → p.start < p.claims.expiresAt →
      let (r, after) := (s.presentAll l earlier).2.present l p
      ((∃ f, r = some (.error f)) ∨
        (r = some (.ok (.denied .replay)) ∧ after.directory.isLocked p.claims.subject = true ∧
          ∃ u, p.claims.expiresAt ≤ u ∧
            after.store.entries.get? (l.key p.claims.tokenId) =
              some ⟨blacklistFloor, .utc u⟩) ∨
        r = none ∧ ¬ p.Fits) ∧
      (p.claims.expiresAt.InCalendar → (∀ n, p.clock n = p.start) → r ≠ none) := by
  refine ⟨fun c now h q leads => ⟨⟨?_, ?_⟩, ?_, Exchange.replay_iff leads⟩, ?_⟩
  · rintro ⟨a, next, rfl⟩
    exact Exchange.overspent_of_lock leads
  · exact fun overspent => ⟨_, _, Exchange.escalates_of_overspent leads overspent⟩
  · exact Exchange.escalates_of_overspent leads
  · intro s earlier p e memory entry high low earlierOnes before early
    have holds := Services.Holds.presentAll ⟨memory, entry⟩ high low earlierOnes
    have outcome := (outcome_used holds high low before early).failed_or_replay
    refine ⟨outcome, fun covered still unanswered => ?_⟩
    obtain ⟨f, failed⟩ | ⟨replay, -⟩ | ⟨-, beyond⟩ := outcome
    · exact Option.some_ne_none _ (failed.symm.trans unanswered)
    · exact Option.some_ne_none _ (replay.symm.trans unanswered)
    · exact beyond (Presentation.fits_of_still covered still)

/-- A presentation of the sample token in its tenth second of which the call after `n` others is
made to fail. -/
def failingAfter (n : Nat) : Presentation where
  start := .ofSeconds 10
  claims := Traffic.sampleClaims
  clock _ := .ofSeconds 10
  fails k := if k = n then some (.account "unreachable") else none
  later _ := Int.le_refl _

def usedSample : Services :=
  ⟨.volatile ⟨Table.empty.insert (Ledger.standard.key Traffic.sampleClaims.tokenId)
    ⟨2, .utc (.ofSeconds 60)⟩⟩, Traffic.sampleDirectory⟩

/-- After a count of two, the lock comes next. Where first the lock fails and then the blacklisting,
the third presentation is denied as a replay. -/
theorem locked_after_failures :
    let c := Traffic.sampleClaims
    let key := Ledger.standard.key c.tokenId
    (∀ q, Program.Leads (some (Exchange.decide .standard c (.ofSeconds 10)))
        [⟨.fetch key, some (.ok (some 2))⟩, ⟨.fetch key, some (.ok (some 2))⟩] q →
      ∃ next, q = some (.call (.lock c.subject) next)) ∧
    let (log, s) := usedSample.presentAll .standard [failingAfter 2, failingAfter 3]
    log.map Prod.snd = [some (.error (.account "unreachable")),
      some (.error (.account "unreachable"))] ∧
    let (r, s) := s.present .standard (failingAfter 4)
    r = some (.ok (.denied .replay)) ∧ s.directory.isLocked c.subject = true ∧
      ∃ u, c.expiresAt ≤ u ∧ s.store.entries.get? key = some ⟨blacklistFloor, .utc u⟩ := by
  intro c key
  have early : Instant.ofSeconds 10 < Instant.ofSeconds 60 := by decide
  have overspent : Exchange.Overspent key c (.ofSeconds 50)
      [⟨.fetch key, some (.ok (some 2))⟩, ⟨.fetch key, some (.ok (some 2))⟩] :=
    .judged (.low (by decide)) (.found 2) (by decide)
  have failed : ∀ x ∈ (usedSample.presentAll .standard [failingAfter 2, failingAfter 3]).1,
      x.1.claims.tokenId = c.tokenId →
        x.1.Before (.ofSeconds 60) ∧ x.2 ≠ some (.ok (.denied .replay)) := by
    rintro x (_ | ⟨_, _ | ⟨_, ⟨⟩⟩⟩) -
    · exact ⟨fun _ => early, nofun⟩
    · exact ⟨fun _ => early, nofun⟩
  obtain ⟨escalates, covered⟩ := lock_not_lost .standard
  refine ⟨fun q leads => ⟨_, (escalates c (.ofSeconds 10) _ q leads).2.1 overspent⟩, rfl, ?_⟩
  obtain ⟨outcome, answered⟩ := covered usedSample
    [failingAfter 2, failingAfter 3] (failingAfter 4) ⟨2, .utc (.ofSeconds 60)⟩ rfl rfl
    (by decide) (by decide) failed (fun _ => early) early
  obtain ⟨f, fails⟩ | replay | ⟨none, _⟩ := outcome
  · cases fails
  · exact replay
  · exact absurd none (answered (by decide) fun _ => rfl)

end RequestGuard
