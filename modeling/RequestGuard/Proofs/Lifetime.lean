import RequestGuard.Proofs.Expiry

/-!
# The lifetime of a record

A ledger keeps a record of a token for as long as the token lives. The lifetime is taken when an
operation begins, and counted from when the record is written. So a record ends exactly at the
expiry of its token, moved on by what the clock has moved in between. It cannot be gone before the
expiry, and if the clock stands still while the token is presented and logged out, it ends with it.

The other end of the calendar is the only thing that can stand in the way: a write is left without a
reply where the record would end beyond it.
-/

namespace RequestGuard

namespace Traffic

variable {l : Ledger} {id : TokenId} {expiry : Instant} {w v : Traffic} {log : List Event}
  {e : Entry}

/-- The clock stands still during every operation with a token. -/
def Unmoved (id : TokenId) (log : List Event) : Prop :=
  ∀ s n o, Event.begun s n o ∈ log → o.tokenId = id →
    ∀ t made, Event.called t n made ∈ log → t = s

namespace Origin

/-- A record is there until the moment that its origin tells. -/
theorem isLive_iff (origin : Origin l id expiry e log) (t : Instant) : e.isLive t = true ↔
    t.nanos < expiry.nanos + (origin.time.nanos - origin.start.nanos) := by
  rw [Entry.isLive_iff, Instant.lt_iff, origin.expires]

theorem expiry_le (origin : Origin l id expiry e log) : expiry ≤ e.expiresAt.instant := by
  have ordered := origin.ordered
  rw [Instant.le_iff] at ordered ⊢
  rw [origin.expires]
  omega

/-- If the clock stood still, the record ends with its token. -/
theorem expires_of_unmoved (origin : Origin l id expiry e log) (unmoved : Unmoved id log) :
    e.expiresAt.instant.nanos = expiry.nanos := by
  obtain ⟨flight, o, start, time, made, earlier, later, rfl, begun, own, -, -, -, -, -, expires⟩ :=
    origin
  have still : time = start := unmoved start flight o (List.mem_append_left _ begun) own time made
    (List.mem_append_right _ List.mem_cons_self)
  rw [expires, still, Int.sub_self, Int.add_zero]

end Origin

namespace Dated

/-- Before the expiry, dated records are guarded. -/
theorem guarded (d : Dated l id expiry w) (early : w.now < expiry) : Guarded l id expiry w where
  sound := d.sound
  early := early
  placed := Store.placed_of_volatile d.volatile
  begun := fun t n o begun => ⟨d.past _ begun, d.presents t n o begun⟩

/-- A record that is there lives up to the expiry of its token. -/
theorem settled (d : Dated l id expiry w)
    (got : w.services.store.entries.get? (l.key id) = some e) :
    Settled l id expiry (min e.value.toInt blacklistFloor.toInt) w := by
  obtain ⟨origin⟩ := d.origin e got
  have counts : Entries.Counts (l.key id) expiry (min e.value.toInt blacklistFloor.toInt)
      w.services.store.entries := ⟨e, got, Int.min_le_left _ _, origin.expiry_le⟩
  exact Store.holds_of_volatile d.volatile counts

/-- A token that has a record has one up to its expiry. -/
theorem live_of_early (d : Dated l id expiry w)
    (got : w.services.store.entries.get? (l.key id) = some e)
    (r : Reaches l (Agreed id expiry) w v) (early : v.now < expiry) :
    ∃ e', v.services.store.entries.live? v.now (l.key id) = some e' := by
  obtain ⟨regular, onward⟩ := r.regular_of_early early
  have guarded := d.guarded (Instant.lt_of_le_of_lt onward early)
  have settled := (d.settled got).reaches guarded (Int.min_le_right _ _) regular fun _ _ ok => ok
  obtain ⟨e', live, -⟩ := settled.1.live? early
  exact ⟨e', live⟩

/-- A call about a token goes without a reply only if its record would end beyond the calendar. -/
theorem beyond_calendar (d : Dated l id expiry w) {n : Nat} {fault : Option WriteFault}
    {o : Operation} {c : Call} {next : c.Answer → Program o.Answer}
    (coming : w.flights.get? n = some ⟨o, some (.call c next)⟩)
    (about : c.key? = some (l.key id))
    (unanswered : (w.services.perform w.now fault c).1 = none) :
    ∃ s, Event.begun s n o ∈ w.log ∧ o.tokenId = id ∧
      ¬ Instant.InCalendar ⟨expiry.nanos + (w.now.nanos - s.nanos)⟩ := by
  obtain ⟨s, begun, -, own, presents, leads⟩ := d.own_of_key coming about
  have beyond : ∀ ttl : Span, ttl = expiry.since s → w.now.add? ttl = none →
      ¬ Instant.InCalendar ⟨expiry.nanos + (w.now.nanos - s.nanos)⟩ := by
    rintro _ rfl endless covered
    have end_eq : w.now.nanos + (expiry.since s).nanos =
        expiry.nanos + (w.now.nanos - s.nanos) := by
      simp only [Instant.since]
      omega
    rw [Instant.add?, end_eq, if_pos covered] at endless
    cases endless
  refine ⟨s, begun, own, ?_⟩
  have turn := d.turn fault c
  rw [unanswered] at turn
  cases turn with
  | lost write endless =>
      obtain rfl | rfl := write
      · obtain ⟨-, -, lifetime⟩ := Operation.insert_of_leads presents leads
        exact beyond _ lifetime endless
      · obtain ⟨-, -, -, lifetime⟩ := Operation.record_of_leads presents leads
        exact beyond _ lifetime endless
  | currentVersion | isLocked | lock => cases about

end Dated

/-- Every record of a token covers the life of the token, and no more of the time after it than the
clock moved during the operation that wrote it. Whatever presentations and logouts overlap, with the
token or any other, and however the clock goes forward:

A record of the token goes back to the write that put it there last, by an operation that began at
some moment. It ends at the expiry of the token, moved on by what the clock moved from there to
the write. As long as the clock has not reached the expiry, there is a record from then on. A write
is left without a reply only if its record would end beyond the calendar. So if the clock stands
still during the operations with the token, its records are there up to the expiry and no longer,
and no write is left without a reply unless the expiry itself lies beyond the calendar. -/
theorem records_cover_lifetime (l : Ledger) (id : TokenId) (expiry begun : Instant)
    (directory : Directory) :
    ∀ v, Reaches l (Agreed id expiry) (start begun ⟨.volatile .empty, directory⟩) v →
      (∀ e, v.services.store.entries.get? (l.key id) = some e →
        (∃ origin : Origin l id expiry e v.log, ∀ t, e.isLive t = true ↔
          t.nanos < expiry.nanos + (origin.time.nanos - origin.start.nanos)) ∧
        ∀ w, Reaches l (Agreed id expiry) v w → w.now < expiry →
          ∃ e', w.services.store.entries.live? w.now (l.key id) = some e') ∧
      (∀ t n made, Event.called t n made ∈ v.log → made.call.key? = some (l.key id) →
        made.reply = none → ∃ s o, Event.begun s n o ∈ v.log ∧ o.tokenId = id ∧
          ¬ Instant.InCalendar ⟨expiry.nanos + (t.nanos - s.nanos)⟩) ∧
      (Unmoved id v.log →
        (∀ e, v.services.store.entries.get? (l.key id) = some e →
          ∀ t, e.isLive t = true ↔ t < expiry) ∧
        ∀ t n made, Event.called t n made ∈ v.log → made.call.key? = some (l.key id) →
          made.reply = none → ¬ expiry.InCalendar) := by
  intro v reaches
  have new : Dated l id expiry (start begun ⟨.volatile .empty, directory⟩) :=
    dated_start begun directory
  have dated : Dated l id expiry v := new.reaches reaches fun _ _ ok => ok
  have unanswered : ∀ t n made, Event.called t n made ∈ v.log →
      made.call.key? = some (l.key id) → made.reply = none → ∃ s o, Event.begun s n o ∈ v.log ∧
        o.tokenId = id ∧ ¬ Instant.InCalendar ⟨expiry.nanos + (t.nanos - s.nanos)⟩ := by
    intro t n made called about none
    obtain ⟨m, rfl⟩ := reaches.moment_of_mem rfl called
    have before : Dated l id expiry m.before := new.reaches m.reached fun _ _ ok => ok
    obtain ⟨s, begun, own, beyond⟩ := before.beyond_calendar m.coming about (m.reply ▸ none)
    exact ⟨s, m.operation, m.log_subset begun, own, beyond⟩
  refine ⟨fun e got => ⟨?_, fun w onward early => dated.live_of_early got onward early⟩, unanswered,
    fun unmoved => ⟨fun e got t => ?_, fun t n made called about none => ?_⟩⟩
  · obtain ⟨origin⟩ := dated.origin e got
    exact ⟨origin, origin.isLive_iff⟩
  · obtain ⟨origin⟩ := dated.origin e got
    rw [Entry.isLive_iff, Instant.lt_iff, Instant.lt_iff, origin.expires_of_unmoved unmoved]
  · obtain ⟨s, o, begun, own, beyond⟩ := unanswered t n made called about none
    rw [unmoved s n o begun own t made called, Int.sub_self, Int.add_zero] at beyond
    exact beyond

/-- The sample token is presented a nanosecond before 1970. The clock moves on by three before the
presentation makes its calls. -/
def acrossEpoch : Traffic :=
  (start ⟨-1⟩ ⟨.volatile .empty, sampleDirectory⟩).acts .standard
    [.begin 0 (.refresh sampleClaims), .wait ⟨2⟩, .proceed 0 none, .proceed 0 none, .proceed 0 none,
      .proceed 0 none, .proceed 0 none, .proceed 0 none]

theorem acrossEpoch_reached :
    Reaches .standard (Agreed sampleClaims.tokenId sampleClaims.expiresAt)
      (start ⟨-1⟩ ⟨.volatile .empty, sampleDirectory⟩) acrossEpoch :=
  reaches_acts (.refl _) ⟨fun _ => rfl, (by decide : (⟨-1⟩ : Instant) ≤ ⟨2⟩), trivial, trivial,
    trivial, trivial, trivial, trivial, trivial⟩

/-- Its record, which has been counted on to two, outlives it by these three nanoseconds. Where the
clock stands still, the record ends with the token. -/
theorem record_outlives_by_three :
    (∃ e, acrossEpoch.services.store.entries.get? (Ledger.standard.key sampleClaims.tokenId) =
        some e ∧ e.value.toInt = 2 ∧
      ∀ t, e.isLive t = true ↔ t.nanos < sampleClaims.expiresAt.nanos + 3) ∧
    (acrossEpoch.now < sampleClaims.expiresAt ∧
      ∃ e, acrossEpoch.services.store.entries.live? acrossEpoch.now
        (Ledger.standard.key sampleClaims.tokenId) = some e) ∧
    Unmoved sampleClaims.tokenId inTime.log ∧
    ∃ e, inTime.services.store.entries.get? (Ledger.standard.key sampleClaims.tokenId) = some e ∧
      ∀ t, e.isLive t = true ↔ t < sampleClaims.expiresAt := by
  have unmoved : Unmoved sampleClaims.tokenId inTime.log := by
    have all : inTime.log.all (fun event => event.time = .ofSeconds 59) = true := rfl
    have still : ∀ event ∈ inTime.log, event.time = .ofSeconds 59 :=
      fun event member => of_decide_eq_true (List.all_eq_true.mp all event member)
    intro s n o begun own t made called
    exact (still _ called).trans (still _ begun).symm
  obtain ⟨records, -⟩ := records_cover_lifetime .standard sampleClaims.tokenId
    sampleClaims.expiresAt ⟨-1⟩ sampleDirectory acrossEpoch acrossEpoch_reached
  have got : acrossEpoch.services.store.entries.get?
      (Ledger.standard.key sampleClaims.tokenId) = some ⟨2, .utc ⟨60000000003⟩⟩ := rfl
  obtain ⟨⟨origin, lives⟩, onward⟩ := records _ got
  have early : acrossEpoch.now < sampleClaims.expiresAt := by decide
  refine ⟨⟨_, got, rfl, fun t => ?_⟩, ⟨early, onward acrossEpoch (.refl _) early⟩, unmoved, ?_⟩
  · have moved : (60000000003 : Int) = 60000000000 + (origin.time.nanos - origin.start.nanos) :=
      origin.expires
    rw [lives t]
    omega
  · obtain ⟨-, -, standing⟩ := records_cover_lifetime .standard sampleClaims.tokenId
      sampleClaims.expiresAt (.ofSeconds 59) sampleDirectory inTime
      (reaches_acts (.refl _) ⟨fun _ => rfl, trivial, trivial, trivial, trivial, trivial, trivial,
        (by decide : Instant.ofSeconds 59 ≤ .ofSeconds 60), trivial⟩)
    exact ⟨⟨2, .utc (.ofSeconds 60)⟩, rfl, (standing unmoved).1 _ rfl⟩

end Traffic

end RequestGuard
