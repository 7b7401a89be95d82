import RequestGuard.Proofs.Traffic.Settled

/-!
# Where a counter comes from

The clock may move between the calls of one operation, also beyond the expiry of its token.
A store then gives a record the lifetime that the token had when the operation began, counted
from a later moment. `Origin` says of a record which write was the last to put it there and
what its expiry is: that of the token, moved on by what the clock moved between the beginning
of the operation and the write. `Dated` is the invariant that every record of the token has
an origin in the log.

The store is one in memory: a restart would take records back to an older snapshot.
-/

namespace RequestGuard

def Event.time : Event → Instant
  | .begun t _ _ => t
  | .called t _ _ => t
  | .changed t _ _ => t

/-- A call that has put a record of its own under a key. -/
inductive Made.Inserts (key : String) : Made → Prop
  | insert (value : SignedWord) (ttl : Span) : Inserts key ⟨.insert key value ttl, some (.ok ())⟩
  | insertIfAbsent (value : SignedWord) (ttl : Span) :
      Inserts key ⟨.insertIfAbsent key value ttl, some (.ok true)⟩

namespace Store

variable {now : Instant} {s s' : Store} {c : Call} {key : String}

/-- How an entry under a key has come to stand in a store in memory after a call. -/
inductive Becomes (now : Instant) (s : Store) (key : String) (made : Made) (e : Entry) : Prop
  | kept (old : s.entries.get? key = some e) (bare : ¬ made.Inserts key)
  | counted {before : Entry} (live : s.entries.live? now key = some before)
      (same : made = ⟨.increment key, some (.ok (some e.value))⟩)
      (next : e.value.toInt = before.value.toInt + 1) (lives : e.expiresAt = before.expiresAt)
  | recorded {value : SignedWord} {ttl : Span} {t : Instant}
      (same : made = ⟨.insertIfAbsent key value ttl, some (.ok true)⟩)
      (ends : now.add? ttl = some t) (entry : e = ⟨value, .utc t⟩)
  | replaced {value : SignedWord} {ttl : Span} {t : Instant}
      (same : made = ⟨.insert key value ttl, some (.ok ())⟩)
      (ends : now.add? ttl = some t) (entry : e = ⟨value, .utc t⟩)

/-- An entry that a call about another key, or without success, has left. -/
private theorem Took.other {e e' : Entry} {key' : String} {done : Bool}
    (took : Took now key' e' s s' done) (apart : key' ≠ key)
    (got : s'.entries.get? key = some e) : s.entries.get? key = some e := by
  obtain ⟨base, swept, same⟩ := took.entries
  rw [same, Table.get?_insert, if_neg apart] at got
  exact swept.get?_eq got

private theorem Took.own {e e' : Entry} {done : Bool} (took : Took now key e' s s' done)
    (got : s'.entries.get? key = some e) : e = e' := by
  obtain ⟨base, swept, same⟩ := took.entries
  rw [same, Table.get?_insert, if_pos rfl] at got
  exact (Option.some.inj got).symm

theorem Turn.becomes {reply : Option c.Reply} {e : Entry} (turn : s.Turn now c reply s')
    (volatile : s.isDurable = false) (got : s'.entries.get? key = some e) :
    Becomes now s key ⟨c, reply⟩ e := by
  cases turn with
  | @insert key' value ttl e' _ writes took =>
      by_cases own : key' = key
      · subst own
        cases took.own got
        cases writes with
        | insert _ ends => exact .replaced rfl ends rfl
      · refine .kept (took.other own got) fun inserts => ?_
        cases inserts
        exact own rfl
  | @insertIfAbsent key' value ttl e' _ writes took =>
      by_cases own : key' = key
      · subst own
        cases took.own got
        cases writes with
        | insertIfAbsent _ _ ends => exact .recorded rfl ends rfl
      · refine .kept (took.other own got) fun inserts => ?_
        cases inserts
        exact own rfl
  | @increment key' before value _ live next took =>
      by_cases own : key' = key
      · subst own
        cases took.own got
        exact .counted live rfl (SignedWord.toInt_of_succ? next) rfl
      · exact .kept (took.other own got) nofun
  | failed f writes took disk =>
      rw [volatile] at disk
      cases disk
  | lost write endless swept => exact .kept (swept.get?_eq got) nofun
  | fetch | present | absent | refused | overflow | currentVersion | isLocked | lock =>
      exact .kept got nofun

end Store

namespace Operation

variable {l : Ledger} {t expiry : Instant} {h : List Made} {o : Operation} {key : String}
  {value : SignedWord} {ttl : Span}

/-- Only a presentation records a first use, with the lifetime that its token had when it
began. -/
theorem record_of_leads {next : Bool → Program o.Answer} (presents : o.Presents expiry)
    (leads : Program.Leads (some (o.program l t)) h
      (some (.call (.insertIfAbsent key value ttl) next))) :
    (∃ c, o = .refresh c) ∧ t < expiry ∧ value = 1 ∧ ttl = expiry.since t := by
  cases o with
  | refresh c =>
      cases presents
      obtain ⟨early, stage⟩ := stage_of_leads leads
      cases stage
      exact ⟨⟨c, rfl⟩, early, rfl, rfl⟩
  | logout c => cases (call_of_logout leads).2
  | ledger => cases presents

/-- Presentations and logouts blacklist for the lifetime that their token had when they
began. -/
theorem insert_of_leads {next : Unit → Program o.Answer} (presents : o.Presents expiry)
    (leads : Program.Leads (some (o.program l t)) h
      (some (.call (.insert key value ttl) next))) :
    t < expiry ∧ value = blacklistFloor ∧ ttl = expiry.since t := by
  cases o with
  | refresh c =>
      cases presents
      obtain ⟨early, stage⟩ := stage_of_leads leads
      cases stage
      exact ⟨early, rfl, rfl⟩
  | logout c =>
      cases presents
      obtain ⟨early, same⟩ := call_of_logout leads
      cases same
      exact ⟨early, rfl, rfl⟩
  | ledger => cases presents

end Operation

namespace Traffic

/-- What may happen at a gate whose clock does not go back, when whoever presents a token or
logs it out agrees on its expiry. -/
def Agreed (id : TokenId) (expiry : Instant) (w : Traffic) : Action → Prop
  | .wait now => w.now ≤ now
  | .begin _ o => o.tokenId = id → o.Presents expiry
  | .proceed _ _ | .change _ _ => True

/-- The writes that put a record of a token into a store: a presentation records its first
use, and presentations and logouts blacklist it. -/
def Wrote (key : String) (ttl : Span) (value : Int) (o : Operation) (made : Made) : Prop :=
  ((∃ c, o = .refresh c) ∧ made = ⟨.insertIfAbsent key 1 ttl, some (.ok true)⟩) ∨
    (made = ⟨.insert key blacklistFloor ttl, some (.ok ())⟩ ∧ blacklistFloor.toInt ≤ value)

/-- A presentation of a token records its first use at some time. -/
structure FirstUse (l : Ledger) (id : TokenId) (expiry : Instant) (log : List Event) (f : Nat)
    (start time : Instant) : Prop where
  begun : ∃ c : Claims, Event.begun start f (.refresh c) ∈ log ∧ c.tokenId = id ∧
    c.expiresAt = expiry
  called : Event.called time f
    ⟨.insertIfAbsent (l.key id) 1 (expiry.since start), some (.ok true)⟩ ∈ log

/-- The write in a log that was the last to put a record of a token into the store. -/
structure Origin (l : Ledger) (id : TokenId) (expiry : Instant) (e : Entry) (log : List Event) where
  flight : Nat
  operation : Operation
  start : Instant
  time : Instant
  made : Made
  earlier : List Event
  later : List Event
  whole : log = earlier ++ .called time flight made :: later
  begun : Event.begun start flight operation ∈ earlier
  own : operation.tokenId = id
  presents : operation.Presents expiry
  wrote : Wrote (l.key id) (expiry.since start) e.value.toInt operation made
  last : ∀ t n made, Event.called t n made ∈ later → ¬ made.Inserts (l.key id)
  early : start < expiry
  ordered : start ≤ time
  expires : e.expiresAt.instant.nanos = expiry.nanos + (time.nanos - start.nanos)

namespace Origin

variable {l : Ledger} {id : TokenId} {expiry : Instant} {e e' : Entry} {log : List Event}

/-- A record keeps its origin as long as no other is put in its place. -/
def append (origin : Origin l id expiry e log) (more : List Event)
    (bare : ∀ t n made, Event.called t n made ∈ more → ¬ made.Inserts (l.key id)) :
    Origin l id expiry e (log ++ more) :=
  { origin with
    later := origin.later ++ more
    whole := (congrArg (· ++ more) origin.whole).trans (List.append_assoc _ _ _)
    last := fun t n made called =>
      (List.mem_append.mp called).elim (origin.last t n made) (bare t n made) }

/-- An increment keeps the origin of a record. -/
def count (origin : Origin l id expiry e log) (next : e'.value.toInt = e.value.toInt + 1)
    (lives : e'.expiresAt = e.expiresAt) : Origin l id expiry e' log :=
  { origin with
    wrote := origin.wrote.imp_right fun ⟨same, floor⟩ => ⟨same, by omega⟩
    expires := by rw [lives, origin.expires] }

/-- A record below the floor goes back to a presentation that recorded the first use. -/
theorem firstUse (origin : Origin l id expiry e log)
    (low : e.value.toInt < blacklistFloor.toInt) :
    FirstUse l id expiry log origin.flight origin.start origin.time := by
  obtain ⟨flight, o, start, time, made, earlier, later, rfl, begun, own, presents, wrote, _⟩ :=
    origin
  rcases wrote with ⟨⟨c, rfl⟩, rfl⟩ | ⟨_, floor⟩
  · exact ⟨⟨c, List.mem_append_left _ begun, own, presents⟩,
      List.mem_append_right _ List.mem_cons_self⟩
  · omega

end Origin

/-- What holds at a gate over a store in memory that started empty. -/
structure Dated (l : Ledger) (id : TokenId) (expiry : Instant) (w : Traffic) : Prop where
  sound : Sound l w
  volatile : w.services.store.isDurable = false
  past : ∀ event ∈ w.log, event.time ≤ w.now
  presents : ∀ t n o, Event.begun t n o ∈ w.log → o.tokenId = id → o.Presents expiry
  origin : ∀ e, w.services.store.entries.get? (l.key id) = some e →
    Nonempty (Origin l id expiry e w.log)

variable {l : Ledger} {id : TokenId} {expiry : Instant} {allowed : Traffic → Action → Prop}
  {w v : Traffic}

theorem dated_start (now : Instant) (directory : Directory) :
    Dated l id expiry (start now ⟨.volatile .empty, directory⟩) where
  sound := sound_start _ _
  volatile := rfl
  past := by
    intro event member
    cases member
  presents := by
    intro t n o begun
    cases begun
  origin := by
    intro e got
    cases got

namespace Dated

/-- The call of a flight goes in one of the known ways. -/
theorem turn (d : Dated l id expiry w) (fault : Option WriteFault) (c : Call) :
    w.services.store.Turn w.now c (w.services.perform w.now fault c).1
      (w.services.perform w.now fault c).2.store :=
  (Services.perform_turn (Store.placed_of_volatile d.volatile) c).1

/-- A flight that calls the store under the key of the token presents it or logs it out. -/
theorem own_of_key (d : Dated l id expiry w) {n : Nat} {o : Operation} {c : Call}
    {next : c.Answer → Program o.Answer}
    (coming : w.flights.get? n = some ⟨o, some (.call c next)⟩) (about : c.key? = some (l.key id)) :
    ∃ t, Event.begun t n o ∈ w.log ∧ t ≤ w.now ∧ o.tokenId = id ∧ o.Presents expiry ∧
      Program.Leads (some (o.program l t)) (callsOf n w.log) (some (.call c next)) := by
  obtain ⟨t, begun, leads⟩ := d.sound.history n _ coming
  have own := (l.key_injective (Operation.call_key leads about)).symm
  exact ⟨t, begun, d.past _ begun, own, d.presents t n o begun own, leads⟩

private theorem expires {now start t : Instant} (ends : now.add? (expiry.since start) = some t) :
    (Stamp.utc t).instant.nanos = expiry.nanos + (now.nanos - start.nanos) := by
  show t.nanos = _
  rw [Instant.add?_eq_some ends]
  simp only [Instant.since]
  omega

/-- The origin of a record after a call of a flight. -/
theorem origin_call (d : Dated l id expiry w) {n : Nat} {o : Operation} {c : Call}
    {next : c.Answer → Program o.Answer}
    (coming : w.flights.get? n = some ⟨o, some (.call c next)⟩) {reply : Option c.Reply} {e : Entry}
    (becomes : w.services.store.Becomes w.now (l.key id) ⟨c, reply⟩ e) :
    Nonempty (Origin l id expiry e (w.log ++ [.called w.now n ⟨c, reply⟩])) := by
  obtain ⟨made, same⟩ : ∃ made : Made, made = ⟨c, reply⟩ := ⟨_, rfl⟩
  rw [← same] at becomes ⊢
  have only : ∀ {made' : Made}, ¬ made'.Inserts (l.key id) → ∀ t m made,
      Event.called t m made ∈ [Event.called w.now n made'] → ¬ made.Inserts (l.key id) := by
    intro made' bare t m made called
    cases List.mem_singleton.mp called
    exact bare
  cases becomes with
  | kept old bare =>
      obtain ⟨origin⟩ := d.origin e old
      exact ⟨origin.append _ (only bare)⟩
  | counted live incremented next lives =>
      obtain ⟨origin⟩ := d.origin _ (Entries.live?_eq_some_iff.mp live).1
      refine ⟨(origin.count next lives).append _ (only ?_)⟩
      rw [incremented]
      exact nofun
  | recorded written ends entry =>
      subst entry written
      cases same
      obtain ⟨t, begun, before, own, presents, leads⟩ := d.own_of_key coming rfl
      obtain ⟨refreshes, early, rfl, rfl⟩ := Operation.record_of_leads presents leads
      exact ⟨⟨n, o, t, w.now, _, w.log, [], rfl, begun, own, presents, .inl ⟨refreshes, rfl⟩,
        fun _ _ _ called => (List.not_mem_nil called).elim, early, before, expires ends⟩⟩
  | replaced written ends entry =>
      subst entry written
      cases same
      obtain ⟨t, begun, before, own, presents, leads⟩ := d.own_of_key coming rfl
      obtain ⟨early, rfl, rfl⟩ := Operation.insert_of_leads presents leads
      exact ⟨⟨n, o, t, w.now, _, w.log, [], rfl, begun, own, presents,
        .inr ⟨rfl, Int.le_refl _⟩, fun _ _ _ called => (List.not_mem_nil called).elim, early,
        before, expires ends⟩⟩

theorem step {a : Action} (d : Dated l id expiry w) (agreed : Agreed id expiry w a)
    (step : Step l w a v) : Dated l id expiry v := by
  have sound := d.sound.step step
  -- An event that is no call leaves every origin as it is.
  have still : ∀ {event : Event}, (∀ t n made, event ≠ .called t n made) → ∀ e,
      w.services.store.entries.get? (l.key id) = some e →
        Nonempty (Origin l id expiry e (w.log ++ [event])) := by
    intro event silent e got
    obtain ⟨origin⟩ := d.origin e got
    exact ⟨origin.append _ fun t n made called => absurd (List.mem_singleton.mp called).symm
      (silent t n made)⟩
  have past : ∀ {event : Event}, event.time = w.now →
      ∀ event' ∈ w.log ++ [event], event'.time ≤ w.now := by
    intro event now event' member
    rcases List.mem_append.mp member with old | new
    · exact d.past event' old
    · cases List.mem_singleton.mp new
      exact now ▸ Int.le_refl _
  cases step with
  | nothing => exact d
  | wait now =>
      exact ⟨sound, d.volatile, fun event member => Int.le_trans (d.past event member) agreed,
        d.presents, d.origin⟩
  | changed account change =>
      refine ⟨sound, d.volatile, past rfl, fun t n o begun => ?_,
        still fun _ _ _ => Event.noConfusion⟩
      exact d.presents t n o (by simpa using begun)
  | begun o new =>
      refine ⟨sound, d.volatile, past rfl, fun t n o' begun => ?_,
        still fun _ _ _ => Event.noConfusion⟩
      rcases List.mem_append.mp begun with old | now
      · exact d.presents t n o' old
      · cases List.mem_singleton.mp now
        exact agreed
  | @called n fault o c next coming =>
      refine ⟨sound, (Services.isDurable_perform c).trans d.volatile, past rfl,
        fun t m o' begun => ?_, fun e got => ?_⟩
      · exact d.presents t m o' (by simpa [call] using begun)
      · exact d.origin_call coming ((d.turn fault c).becomes d.volatile got)

theorem reaches (d : Dated l id expiry w) (r : Reaches l allowed w v)
    (agreed : ∀ u a, allowed u a → Agreed id expiry u a) : Dated l id expiry v := by
  refine r.induct_volatile d.volatile d ?_
  intro u a _ ok dated
  exact dated.step (agreed u a ok) (act_step a)

end Dated

end Traffic

end RequestGuard
