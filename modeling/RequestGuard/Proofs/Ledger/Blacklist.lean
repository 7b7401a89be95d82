import RequestGuard.Proofs.Store.Counter
import RequestGuard.Proofs.Traffic.Calls
import RequestGuard.Proofs.Traffic.Sound

/-!
# How long a token stays blacklisted

A token is blacklisted for a span by a write of the floor. What comes later under the same key
either counts the token on, which leaves the expiry, or is refused because the token is known, or is
another write of the floor. Only the last of these can take anything away: it puts its own expiry in
the place of the one before, also if that is sooner. So a token stays blacklisted for the span of an
invalidation, unless a later one has ended by then.

The operations are any, of the ledger and of the gate, about any tokens and with any spans. The
clock does not go back, and the store is one in memory.
-/

namespace RequestGuard

namespace Store

variable {now : Instant} {s s' : Store} {key : String} {value : SignedWord} {ttl : Span}

/-- A store in memory writes what it can write, and says so. -/
theorem Turn.insert_replies {reply : Option (Call.insert key value ttl).Reply}
    (turn : s.Turn now (.insert key value ttl) reply s') (volatile : s.isDurable = false)
    {k : String} {e : Entry} (writes : Entries.Writes now s.entries (.insert key value ttl) k e) :
    reply = some (.ok ()) := by
  obtain ⟨positive, ends⟩ := writes
  cases turn with
  | insert => rfl
  | refused write dead =>
      obtain same | same := write
      · cases same
        exact absurd positive dead
      · cases same
  | failed _ _ _ disk =>
      rw [volatile] at disk
      cases disk
  | lost write endless =>
      obtain same | same := write
      · cases same
        rw [ends] at endless
        cases endless
      · cases same

end Store

/-- Whether the only value that a call may write over a counter is the floor. -/
def Call.Floors : Call → Prop
  | .insert _ value _ => value = blacklistFloor
  | .fetch _ | .insertIfAbsent _ _ _ | .increment _ => True
  | .currentVersion _ | .isLocked _ | .lock _ => True

namespace Operation

variable {l : Ledger} {t : Instant} {h : List Made} {key : String} {value : SignedWord} {ttl : Span}

theorem floors_ledger (id : TokenId) (step : Scenario.LedgerStep) :
    ((Operation.ledger id step).program l t).Uses Call.Floors := by
  cases step with
  | recordFirstUse ttl => exact ⟨trivial, fun _ => trivial⟩
  | invalidate ttl => exact ⟨rfl, fun _ => trivial⟩
  | checkBlacklist => exact ⟨trivial, fun _ => trivial⟩
  | markUsed => exact ⟨trivial, fun _ => .ofStore _⟩
  | state => exact ⟨trivial, fun _ => .ofStore _⟩
  | checkUseCount ttl =>
      refine ⟨trivial, fun value => ?_⟩
      cases value with
      | some v => exact .ofStore _
      | none =>
          refine ⟨trivial, fun written => ?_⟩
          cases written with
          | true => trivial
          | false => exact ⟨trivial, fun _ => .ofStore _⟩

/-- Nothing is ever written over a counter but the floor. -/
theorem insert_floor {o : Operation} {next : Unit → Program o.Answer}
    (leads : Program.Leads (some (o.program l t)) h (some (.call (.insert key value ttl) next))) :
    value = blacklistFloor := by
  cases o with
  | refresh c => exact insert_atGate (o := .refresh c) trivial leads
  | logout c => exact insert_atGate (o := .logout c) trivial leads
  | ledger id step => exact (Program.Uses.of_leads leads (floors_ledger id step)).1

/-- An invalidation that succeeded has made one call. -/
theorem called_of_invalidate {id : TokenId} (leads : Program.Leads
    (some ((Operation.ledger id (.invalidate ttl)).program l t)) h (some (.pure ()))) :
    h = [⟨.insert (l.key id) blacklistFloor ttl, some (.ok ())⟩] := by
  obtain ⟨-, ends⟩ | ⟨reply, rest, rfl, further⟩ := Program.Leads.call_iff.mp leads
  · cases ends
  · match reply with
    | some (.ok ()) =>
        obtain ⟨rfl, -⟩ := Program.Leads.pure_iff.mp further
        rfl
    | some (.error f) => cases (Program.Leads.fail_iff.mp further).2
    | none => cases (Program.Leads.none_iff.mp further).2

end Operation

namespace Traffic

/-- What may happen at a gate whose clock does not go back. -/
def Forward (w : Traffic) : Action → Prop
  | .wait now => w.now ≤ now
  | .begin _ _ | .proceed _ _ | .change _ _ => True

/-- Somebody blacklists a token for a span. -/
def Blacklists (l : Ledger) (id : TokenId) (time : Instant) (ttl : Span) (log : List Event) :
    Prop :=
  ∃ n, Event.called time n ⟨.insert (l.key id) blacklistFloor ttl, some (.ok ())⟩ ∈ log

/-- Every blacklisting in a log lasts up to a moment. -/
def Uncut (l : Ledger) (id : TokenId) (bound : Instant) (log : List Event) : Prop :=
  ∀ time ttl, Blacklists l id time ttl log → bound.nanos ≤ time.nanos + ttl.nanos

variable {l : Ledger} {id : TokenId} {bound : Instant} {w v : Traffic} {a : Action}
  {earlier later : List Event}

theorem Uncut.of_append (uncut : Uncut l id bound (earlier ++ later)) :
    Uncut l id bound earlier := by
  intro time ttl ⟨n, called⟩
  exact uncut time ttl ⟨n, List.mem_append_left _ called⟩

theorem Uncut.of_append_right (uncut : Uncut l id bound (earlier ++ later)) :
    Uncut l id bound later := by
  intro time ttl ⟨n, called⟩
  exact uncut time ttl ⟨n, List.mem_append_right _ called⟩

theorem Forward.now_le (forward : Forward w a) : w.now ≤ (w.act l a).now := by
  have step := act_step (l := l) (w := w) a
  revert step
  generalize w.act l a = w'
  intro step
  cases step with
  | wait => exact forward
  | begun | called | changed | nothing => exact Int.le_refl _

/-- A call keeps a counter on the blacklist up to a moment if it writes nothing that ends sooner. -/
theorem counts_call {n : Nat} {fault : Option WriteFault} {o : Operation} {c : Call}
    {next : c.Answer → Program o.Answer} (sound : Sound l w)
    (volatile : w.services.store.isDurable = false)
    (coming : w.flights.get? n = some ⟨o, some (.call c next)⟩) (early : w.now < bound)
    (uncut : Uncut l id bound [.called w.now n ⟨c, (w.services.perform w.now fault c).1⟩])
    (counts : Entries.Counts (l.key id) bound blacklistFloor.toInt w.services.store.entries) :
    Entries.Counts (l.key id) bound blacklistFloor.toInt
      (w.services.perform w.now fault c).2.store.entries := by
  have turn : w.services.store.Turn w.now c (w.services.perform w.now fault c).1
      (w.services.perform w.now fault c).2.store :=
    (Services.perform_turn (Store.placed_of_volatile volatile) c).1
  refine turn.memory (fun base swept => swept.counts early) (fun base key e writes swept => ?_)
    counts
  refine writes.counts_of_long swept early ?_
  rintro value ttl rfl
  obtain ⟨t, -, leads⟩ := sound.history n _ coming
  obtain rfl := Operation.insert_floor leads
  refine ⟨Int.le_refl _, uncut w.now ttl ⟨n, ?_⟩⟩
  rw [turn.insert_replies volatile writes]
  exact List.mem_singleton_self _

/-- So it is kept through a run in which no blacklisting ends sooner. -/
theorem counts_reaches (reaches : Reaches l Forward w v) (sound : Sound l w)
    (volatile : w.services.store.isDurable = false)
    (counts : Entries.Counts (l.key id) bound blacklistFloor.toInt w.services.store.entries)
    (same : v.log = w.log ++ later) (uncut : Uncut l id bound later) (early : v.now < bound) :
    Entries.Counts (l.key id) bound blacklistFloor.toInt v.services.store.entries := by
  refine reaches.induct_volatile (P := fun v => ∀ later, v.log = w.log ++ later →
    Uncut l id bound later → v.now < bound →
      Entries.Counts (l.key id) bound blacklistFloor.toInt v.services.store.entries)
    volatile (fun _ _ _ _ => counts) ?_ later same uncut early
  intro u a before forward ih later same uncut early
  obtain ⟨sofar, log⟩ := before.log_grows
  have step := act_step (l := l) (w := u) a
  obtain ⟨more, grown⟩ := step.log_grows
  obtain rfl : later = sofar ++ more := by
    rw [grown, log, List.append_assoc] at same
    exact (List.append_cancel_left same).symm
  have early' : u.now < bound := Instant.lt_of_le_of_lt forward.now_le early
  have counts' := ih sofar log uncut.of_append early'
  revert step grown
  generalize u.act l a = u'
  intro step grown
  cases step with
  | wait | begun | changed | nothing => exact counts'
  | @called n fault o c next coming =>
      refine counts_call (before.sound sound) (before.volatile volatile) coming early' ?_ counts'
      obtain rfl := List.append_cancel_left (grown.symm.trans (call_log u n fault o c next))
      exact uncut.of_append_right

/-- A counter on the blacklist shows when it is checked. -/
theorem checkBlacklist_of_counts (early : w.now < bound)
    (counts : Entries.Counts (l.key id) bound blacklistFloor.toInt w.services.store.entries) :
    (w.services.run w.now (l.checkBlacklist id)).1 = some (.ok .blacklisted) := by
  obtain ⟨e, live, floor, -⟩ := counts.live? early
  have fetched : w.services.store.fetch w.now (l.key id) = some e.value := by
    have same : w.services.store.fetch w.now (l.key id) =
        w.services.store.entries.fetch w.now (l.key id) := by cases w.services.store <;> rfl
    rw [same, Entries.fetch, live]
    rfl
  show some (Except.ok (Ledger.listed (w.services.store.fetch w.now (l.key id)))) = _
  rw [fetched, Ledger.listed, if_pos floor]

/-- A token is on the blacklist for the span of a blacklisting, unless a later one has ended. -/
theorem Reaches.blacklisted {begun t : Instant} {m : VolatileStore} {directory : Directory}
    {n : Nat} {ttl : Span} (reaches : Reaches l Forward (start begun ⟨.volatile m, directory⟩) v)
    (called : v.log =
      earlier ++ .called t n ⟨.insert (l.key id) blacklistFloor ttl, some (.ok ())⟩ :: later)
    (early : v.now.nanos < t.nanos + ttl.nanos) (uncut : Uncut l id ⟨v.now.nanos + 1⟩ later) :
    (v.services.run v.now (l.checkBlacklist id)).1 = some (.ok .blacklisted) := by
  obtain ⟨moment, log, rfl⟩ := reaches.moment_at (w := start begun ⟨.volatile m, directory⟩) called
  have volatile : moment.before.services.store.isDurable = false := moment.reached.volatile rfl
  have sound : Sound l moment.after := (moment.reached.sound (sound_start _ _)).step moment.step
  have turn := moment.turn (Store.placed_of_volatile volatile)
  have long : Instant.nanos ⟨v.now.nanos + 1⟩ ≤ moment.before.now.nanos + ttl.nanos := early
  obtain ⟨counts, -⟩ := turn.insert_counts long
  have same : v.log = moment.after.log ++ later := by
    rw [called, moment.log_after, log, List.append_assoc]
    rfl
  have before : v.now < ⟨v.now.nanos + 1⟩ := Int.lt_succ _
  refine checkBlacklist_of_counts before ?_
  exact counts_reaches moment.onward sound (moment.step.isDurable.trans volatile) counts same uncut
    before

/-- An invalidation that has succeeded blacklists its token once. From then on the token is
blacklisted until the span of the invalidation has elapsed, whatever is done with it or with any
other token, unless a later blacklisting of it has ended by then. -/
theorem blacklisted_unless_cut_short (l : Ledger) (id : TokenId) (ttl : Span) (begun : Instant)
    (m : VolatileStore) (directory : Directory) :
    ∀ v, Reaches l Forward (start begun ⟨.volatile m, directory⟩) v →
      ∀ n, v.Answered n (.ledger id (.invalidate ttl)) (.ok ()) →
      ∃ t earlier later, v.log =
          earlier ++ .called t n ⟨.insert (l.key id) blacklistFloor ttl, some (.ok ())⟩ :: later ∧
        (v.now.nanos < t.nanos + ttl.nanos →
          (v.services.run v.now (l.checkBlacklist id)).1 = some (.ok .blacklisted) ∨
          ∃ time span, Blacklists l id time span later ∧
            time.nanos + span.nanos ≤ v.now.nanos) := by
  intro v reaches n answered
  obtain ⟨_, _, leads⟩ := (reaches.sound (sound_start _ _)).history n _ answered
  have calls : callsOf n v.log =
      [] ++ [⟨.insert (l.key id) blacklistFloor ttl, some (.ok ())⟩] :=
    Operation.called_of_invalidate leads
  obtain ⟨earlier, t, later, log, -⟩ := callsOf_split calls
  refine ⟨t, earlier, later, log, fun early => ?_⟩
  by_cases cut : ∃ time span, Blacklists l id time span later ∧
      time.nanos + span.nanos ≤ v.now.nanos
  · exact .inr cut
  · refine .inl (reaches.blacklisted log early fun time span blacklists => ?_)
    exact Int.not_le.mp fun ended => cut ⟨time, span, blacklists, ended⟩

/-- The sample token is invalidated for a minute, and then for a second. -/
def cutShort : Traffic :=
  (start (.ofSeconds 0) ⟨.volatile .empty, .empty⟩).acts .standard
    [.begin 0 (.ledger sampleClaims.tokenId (.invalidate (.ofSeconds 60))), .proceed 0 none,
      .begin 1 (.ledger sampleClaims.tokenId (.invalidate (.ofSeconds 1))), .proceed 1 none,
      .wait (.ofSeconds 1)]

theorem cutShort_reached :
    Reaches .standard Forward (start (.ofSeconds 0) ⟨.volatile .empty, .empty⟩) cutShort :=
  reaches_acts (.refl _) ⟨trivial, trivial, trivial, trivial,
    (by decide : Instant.ofSeconds 0 ≤ .ofSeconds 1), trivial⟩

/-- After that second it is no longer blacklisted. -/
theorem clear_when_cut_short :
    Reaches .standard Forward (start (.ofSeconds 0) ⟨.volatile .empty, .empty⟩) cutShort ∧
    cutShort.Answered 0 (.ledger sampleClaims.tokenId (.invalidate (.ofSeconds 60))) (.ok ()) ∧
    cutShort.now = .ofSeconds 1 ∧
    (cutShort.services.run cutShort.now
      (Ledger.standard.checkBlacklist sampleClaims.tokenId)).1 = some (.ok .clear) :=
  ⟨cutShort_reached, rfl, rfl, rfl⟩

/-- Another invalidation for longer, and a use, take nothing away. -/
def notCutShort : Traffic :=
  (start (.ofSeconds 0) ⟨.volatile .empty, .empty⟩).acts .standard
    [.begin 0 (.ledger sampleClaims.tokenId (.invalidate (.ofSeconds 60))), .proceed 0 none,
      .begin 1 (.ledger sampleClaims.tokenId .markUsed), .proceed 1 none,
      .begin 2 (.ledger sampleClaims.tokenId (.invalidate (.ofSeconds 90))), .proceed 2 none,
      .begin 3 (.ledger sampleClaims.tokenId (.recordFirstUse (.ofSeconds 1))), .proceed 3 none,
      .wait (.ofSeconds 59)]

theorem notCutShort_reached :
    Reaches .standard Forward (start (.ofSeconds 0) ⟨.volatile .empty, .empty⟩) notCutShort :=
  reaches_acts (.refl _) ⟨trivial, trivial, trivial, trivial, trivial, trivial, trivial, trivial,
    (by decide : Instant.ofSeconds 0 ≤ .ofSeconds 59), trivial⟩

/-- Whether a write of the event lasts beyond a moment. -/
def lasting (now : Instant) : Event → Bool
  | .called time _ ⟨.insert _ _ span, _⟩ => now.nanos < time.nanos + span.nanos
  | _ => true

theorem blacklisted_up_to_the_end :
    notCutShort.Answered 0 (.ledger sampleClaims.tokenId (.invalidate (.ofSeconds 60))) (.ok ()) ∧
    notCutShort.now = .ofSeconds 59 ∧
    (notCutShort.services.run notCutShort.now
      (Ledger.standard.checkBlacklist sampleClaims.tokenId)).1 = some (.ok .blacklisted) := by
  have answered : notCutShort.Answered 0
      (.ledger sampleClaims.tokenId (.invalidate (.ofSeconds 60))) (.ok ()) :=
    show notCutShort.flights.get? 0 = _ from rfl
  obtain ⟨t, earlier, later, log, blacklisted⟩ := blacklisted_unless_cut_short .standard
    sampleClaims.tokenId (.ofSeconds 60) (.ofSeconds 0) .empty .empty notCutShort
    notCutShort_reached 0 answered
  -- Every blacklisting in the log lasts beyond the present.
  have all : notCutShort.log.all (lasting notCutShort.now) = true := rfl
  have lasts : ∀ time n span, Event.called time n
      ⟨.insert (Ledger.standard.key sampleClaims.tokenId) blacklistFloor span, some (.ok ())⟩ ∈
        notCutShort.log → notCutShort.now.nanos < time.nanos + span.nanos :=
    fun _ _ _ called => of_decide_eq_true (List.all_eq_true.mp all _ called)
  refine ⟨answered, rfl, ?_⟩
  have present : notCutShort.now.nanos < t.nanos + (Span.ofSeconds 60).nanos :=
    lasts t 0 _ (log ▸ List.mem_append_right _ List.mem_cons_self)
  obtain still | ⟨time, span, ⟨n, called⟩, ended⟩ := blacklisted present
  · exact still
  · have more := lasts time n span
      (log ▸ List.mem_append_right _ (List.mem_cons_of_mem _ called))
    exact absurd ended (Int.not_le.mpr more)

end Traffic

end RequestGuard
