import RequestGuard.Proofs.Traffic.Regular

/-!
# Claims and revocations

Two calls settle the counter of a token for the rest of its life. The increment by which a
presentation claims the token leads to two, and nothing leads back to one. A blacklist
write leads to the floor. So no second presentation claims a token, and none claims it once
it was revoked.

Both need the write to have been reported as a success: one that failed may be undone by a
restart.
-/

namespace RequestGuard

namespace Traffic

variable {l : Ledger} {id : TokenId} {c : Claims} {expiry : Instant}
  {allowed : Traffic → Action → Prop}
  {w v : Traffic} {n : Int} {later : List Event} {t : Instant} {f : Nat}

/-- The increment by which a flight claims a token. -/
def Claimed (l : Ledger) (id : TokenId) (log : List Event) (f : Nat) : Prop :=
  ∃ t value, Event.called t f ⟨.increment (l.key id), some (.ok (some value))⟩ ∈ log ∧
    value.toInt = 2

/-- The write by which a flight revokes a token. -/
def Revoked (l : Ledger) (id : TokenId) (log : List Event) (f : Nat) : Prop :=
  ∃ t value ttl, Event.called t f ⟨.insert (l.key id) value ttl, some (.ok ())⟩ ∈ log

/-- A presentation that was granted has claimed the token. -/
theorem Sound.claimed_of_granted (s : Sound l v)
    (h : v.Answered f (.refresh c) (.ok .granted)) : Claimed l c.tokenId v.log f := by
  obtain ⟨t, _, leads⟩ := s.history f _ h
  cases Operation.verdict_of_leads leads nofun with
  | granted heard two =>
      obtain ⟨t', called⟩ := mem_callsOf.mp heard
      exact ⟨t', _, called, two⟩

/-- A presentation that has claimed the token is granted. -/
theorem Sound.granted_of_claimed {rest : Option (Program Decision)} (s : Sound l v)
    (flight : v.flights.get? f = some ⟨.refresh c, rest⟩) (h : Claimed l c.tokenId v.log f) :
    v.Answered f (.refresh c) (.ok .granted) := by
  obtain ⟨t', value, called, two⟩ := h
  obtain ⟨t, _, leads⟩ := s.history f _ flight
  have heard := mem_callsOf.mpr ⟨t', called⟩
  rcases Operation.decide_cases leads with ⟨_, none, _⟩ | ⟨_, leads⟩
  · rw [none] at heard
    cases heard
  · have ends : rest = some (.pure .granted) := Exchange.granted_of_two leads heard two
    rw [ends] at flight
    exact flight

/-- A presentation that was denied as a replay has revoked the token. -/
theorem Sound.revoked_of_replay (s : Sound l v)
    (h : v.Answered f (.refresh c) (.ok (.denied .replay))) : Revoked l c.tokenId v.log f := by
  obtain ⟨t, _, leads⟩ := s.history f _ h
  cases Operation.verdict_of_leads leads nofun with
  | replay _ heard =>
      obtain ⟨t', called⟩ := mem_callsOf.mp heard
      exact ⟨t', _, _, called⟩

/-- Whoever presents a living token or logs it out has it with its expiry. -/
theorem Guarded.presents {o : Operation} {rest : Option (Program o.Answer)}
    (g : Guarded l id expiry v) (flight : v.flights.get? f = some ⟨o, rest⟩)
    (own : o.tokenId = id) : o.Presents expiry := by
  obtain ⟨t, begun, _⟩ := g.sound.history f _ flight
  exact (g.begun t f o begun).2 own

/-- A logout of a living token that succeeded has revoked it. -/
theorem Guarded.revoked_of_logout (g : Guarded l c.tokenId c.expiresAt v)
    (h : v.Answered f (.logout c) (.ok ())) : Revoked l c.tokenId v.log f := by
  obtain ⟨t, begun, leads⟩ := g.sound.history f _ h
  obtain ⟨t', called⟩ := mem_callsOf.mp (Operation.heard_of_logout leads (g.begun_early begun))
  exact ⟨t', _, _, called⟩

/-- The setting of the guarantees about a token: a run in which it lives, from traffic at
which it is guarded. -/
structure Run (l : Ledger) (id : TokenId) (expiry : Instant)
    (allowed : Traffic → Action → Prop) (w v : Traffic) : Prop where
  reaches : Reaches l allowed w v
  regular : ∀ u a, allowed u a → Regular id expiry u a
  guarded : Guarded l id expiry w

theorem Run.guarded_last (r : Run l id expiry allowed w v) : Guarded l id expiry v :=
  r.guarded.reaches r.reaches r.regular

theorem Run.settled (r : Run l id expiry allowed w v) (h : Settled l id expiry n w)
    (low : n ≤ blacklistFloor.toInt) : Settled l id expiry n v :=
  h.reaches r.guarded low r.reaches r.regular

/-- A run up to the moment of a call. -/
theorem Run.until {made : Made} (r : Run l id expiry allowed w v)
    (m : Moment l allowed w v f made) : Run l id expiry allowed w m.before :=
  ⟨m.reached, r.regular, r.guarded⟩

/-- The rest of a run after the moment of a call. -/
theorem Run.after {made : Made} (r : Run l id expiry allowed w v)
    (m : Moment l allowed w v f made) : Run l id expiry allowed m.after v :=
  ⟨m.onward, r.regular,
    (r.until m).guarded_last.step (r.regular _ _ m.ok) (.called m.coming)⟩

/-- The call of a moment goes in one of the known ways. -/
theorem Run.turn {made : Made} (r : Run l id expiry allowed w v)
    (m : Moment l allowed w v f made) :
    m.before.services.store.Turn m.before.now made.call made.reply m.after.services.store :=
  m.turn (r.until m).guarded_last.placed

theorem Run.respects {made : Made} (r : Run l id expiry allowed w v)
    (m : Moment l allowed w v f made) : made.call.Respects (l.key id) expiry m.before.now :=
  (r.until m).guarded_last.respects m.coming

/-- Once a counter is settled, every fetch shows it. -/
theorem Run.fetch_shows (r : Run l id expiry allowed w v) (h : Settled l id expiry n w)
    (low : n ≤ blacklistFloor.toInt) (same : v.log = w.log ++ later)
    {reply : Option (Call.fetch (l.key id)).Reply}
    (called : Event.called t f ⟨.fetch (l.key id), reply⟩ ∈ later) :
    ∃ value, reply = some (.ok (some value)) ∧ n ≤ value.toInt := by
  obtain ⟨m⟩ := r.reaches.moment same called
  have settled := (r.until m).settled h low
  exact (r.turn m).fetch_shows (r.until m).guarded_last.early settled.1

/-- Once a counter is settled, every increment leads beyond it, or is an error. -/
theorem Run.increment_shows (r : Run l id expiry allowed w v) (h : Settled l id expiry n w)
    (low : n ≤ blacklistFloor.toInt) (same : v.log = w.log ++ later)
    {reply : Option (Call.increment (l.key id)).Reply}
    (called : Event.called t f ⟨.increment (l.key id), reply⟩ ∈ later) :
    (∃ value, reply = some (.ok (some value)) ∧ n < value.toInt) ∨
      ∃ e, reply = some (.error e) := by
  obtain ⟨m⟩ := r.reaches.moment same called
  have settled := (r.until m).settled h low
  exact (r.turn m).increment_shows (r.until m).guarded_last.early settled.1

/-- After a counter of two or more nothing claims the token. -/
theorem Run.not_claimed (r : Run l id expiry allowed w v) (h : Settled l id expiry n w)
    (two : 2 ≤ n) (low : n ≤ blacklistFloor.toInt) (same : v.log = w.log ++ later) :
    ¬ Claimed l id later f := by
  rintro ⟨t, value, called, claims⟩
  rcases r.increment_shows h low same called with ⟨_, reply, beyond⟩ | ⟨_, reply⟩
  · cases reply
    omega
  · cases reply

/-- A revocation settles the floor. -/
theorem Run.settled_of_revoked (r : Run l id expiry allowed w v) (same : v.log = w.log ++ later)
    (revoked : Revoked l id later f) : Settled l id expiry blacklistFloor.toInt v := by
  obtain ⟨t, value, ttl, called⟩ := revoked
  obtain ⟨m⟩ := r.reaches.moment same called
  obtain ⟨rfl, long⟩ := r.respects m rfl
  exact (r.after m).settled ((r.turn m).insert_counts long) (Int.le_refl _)

/-- A presentation that counts its use after the revocation is not granted. -/
theorem Run.not_granted_of_increment (r : Run l c.tokenId c.expiresAt allowed w v)
    (settled : Settled l c.tokenId c.expiresAt blacklistFloor.toInt w)
    (same : v.log = w.log ++ later) {t : Instant}
    {reply : Option (Call.increment (l.key c.tokenId)).Reply}
    (called : Event.called t f ⟨.increment (l.key c.tokenId), reply⟩ ∈ later) :
    ¬ v.Answered f (.refresh c) (.ok .granted) := by
  intro granted
  obtain ⟨ttl, leads⟩ := r.guarded_last.checked granted
  have made : ⟨.increment (l.key c.tokenId), reply⟩ ∈ callsOf f v.log :=
    mem_callsOf.mpr ⟨t, same ▸ List.mem_append_right _ called⟩
  rcases r.increment_shows settled (Int.le_refl _) same called with ⟨value, rfl, beyond⟩ | ⟨e, rfl⟩
  · cases Exchange.blacklisted_of_high leads made (Int.le_of_lt beyond)
  · cases leads.eq_fail made

/-- A claim settles two. -/
theorem Moment.settled_of_claim {value : SignedWord} (r : Run l id expiry allowed w v)
    (m : Moment l allowed w v f ⟨.increment (l.key id), some (.ok (some value))⟩)
    (lives : w.services.store.Holds (Entries.Outlives (l.key id) expiry))
    (two : value.toInt = 2) : Settled l id expiry 2 m.after := by
  have outlives := outlives_reaches m.reached r.regular r.guarded lives
  rw [← two]
  exact (r.turn m).increment_counts outlives

theorem Run.settled_of_claimed (r : Run l id expiry allowed w v) (same : v.log = w.log ++ later)
    (lives : w.services.store.Holds (Entries.Outlives (l.key id) expiry))
    (claimed : Claimed l id later f) : Settled l id expiry 2 v := by
  obtain ⟨t, value, called, two⟩ := claimed
  obtain ⟨m⟩ := r.reaches.moment same called
  exact (r.after m).settled (m.settled_of_claim r lives two) (by decide)

/-- No two flights claim a token. -/
theorem Run.claimed_unique {g : Nat} (r : Run l id expiry allowed w v)
    (same : v.log = w.log ++ later)
    (lives : w.services.store.Holds (Entries.Outlives (l.key id) expiry))
    (first : Claimed l id later f) (second : Claimed l id later g) : f = g := by
  -- Of the two claims, the one that is not the later one has settled the counter.
  by_cases other : f = g
  · exact other
  exfalso
  obtain ⟨t, value, called, two⟩ := first
  obtain ⟨t', value', called', two'⟩ := second
  obtain ⟨m⟩ := r.reaches.moment same called
  obtain ⟨earlier, rest, before, onward, whole⟩ := m.split same
  rw [whole] at called'
  rcases List.mem_append.mp called' with old | now
  · have settled := (r.until m).settled_of_claimed before lives ⟨t', value', old, two'⟩
    rcases (r.turn m).increment_shows (r.until m).guarded_last.early settled.1 with
      ⟨_, reply, beyond⟩ | ⟨_, reply⟩
    · cases reply
      omega
    · cases reply
  · rcases List.mem_cons.mp now with head | new
    · cases head
      exact other rfl
    · exact (r.after m).not_claimed (m.settled_of_claim r lives two) (Int.le_refl _) (by decide)
        onward ⟨t', value', new, two'⟩

end Traffic

end RequestGuard
