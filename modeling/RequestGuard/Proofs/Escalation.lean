import RequestGuard.Proofs.Traffic.Accounted

/-!
# What an escalation rests on

A presentation looks at its counter twice: first to see whether the token is blacklisted,
then to see how often it was used. A counter that has reached the floor in between is a high
one at the second look, and is taken for that of a replay.

So there are two reasons for an escalation. Another presentation has claimed the token, or a
logout has blacklisted it between the two looks. In the second case the account is locked
although the token was presented but once.
-/

namespace RequestGuard

/-- The name of the call, if the event is one. -/
def Event.callName? : Event → Option CallName
  | .called _ _ made => some made.call.name
  | .begun _ _ _ | .changed _ _ _ => none

namespace Traffic

variable {l : Ledger} {id : TokenId} {c : Claims} {expiry : Instant} {ttl : Span}
  {allowed : Traffic → Action → Prop} {w v : Traffic} {n f : Nat} {log : List Event}
  {q : Option (Program Decision)}

/-- A logout blacklists a token between two fetches of another flight, and the second of them
shows it. -/
def Overtaken (l : Ledger) (id : TokenId) (log : List Event) (n f : Nat) : Prop :=
  ∃ early t reply middle t' value rest,
    log = early ++ .called t n ⟨.fetch (l.key id), reply⟩ ::
      (middle ++ .called t' n ⟨.fetch (l.key id), some (.ok (some value))⟩ :: rest) ∧
    blacklistFloor.toInt ≤ value.toInt ∧ Revoked l id middle f ∧
    ∃ s c', Event.begun s f (.logout c') ∈ log

theorem Overtaken.append (h : Overtaken l id log n f) (later : List Event) :
    Overtaken l id (log ++ later) n f := by
  obtain ⟨early, t, reply, middle, t', value, rest, rfl, floor, revoked, s, c', begun⟩ := h
  refine ⟨early, t, reply, middle, t', value, rest ++ later, ?_, floor, revoked, s, c',
    List.mem_append_left _ begun⟩
  simp only [List.append_assoc, List.cons_append]

/-- The setting of escalations: a run of a living token over a store in memory that started
empty. -/
structure MemoryRun (l : Ledger) (id : TokenId) (expiry : Instant)
    (allowed : Traffic → Action → Prop) (w v : Traffic) : Prop where
  run : Run l id expiry allowed w v
  new : w.log = []
  volatile : w.services.store.isDurable = false
  accounted : Accounted l id w

namespace MemoryRun

theorem upTo (h : MemoryRun l id expiry allowed w v) {made : Made}
    (m : Moment l allowed w v n made) : MemoryRun l id expiry allowed w m.before :=
  ⟨h.run.until m, h.new, h.volatile, h.accounted⟩

theorem accounted_last (h : MemoryRun l id expiry allowed w v) : Accounted l id v :=
  h.accounted.reaches h.run.guarded.gated h.volatile h.run.reaches
    fun _ _ _ ok own => (h.run.regular _ _ ok own).atGate

theorem moment_at (h : MemoryRun l id expiry allowed w v) {earlier rest : List Event} {t : Instant}
    {made : Made} (same : v.log = earlier ++ .called t n made :: rest) :
    ∃ m : Moment l allowed w v n made, m.before.log = earlier := by
  have same' : v.log = w.log ++ earlier ++ .called t n made :: rest := by
    rw [h.new, List.nil_append, same]
  obtain ⟨m, log, _⟩ := h.run.reaches.moment_at same'
  exact ⟨m, by rw [log, h.new, List.nil_append]⟩

theorem moment_of_mem (h : MemoryRun l id expiry allowed w v) {made : Made}
    (heard : made ∈ callsOf n v.log) : Nonempty (Moment l allowed w v n made) := by
  obtain ⟨t, called⟩ := mem_callsOf.mp heard
  obtain ⟨m, _⟩ := h.run.reaches.moment_of_mem h.new called
  exact ⟨m⟩

theorem settled (h : MemoryRun l id expiry allowed w v) (revoked : Revoked l id v.log f) :
    Settled l id expiry blacklistFloor.toInt v := by
  have same : v.log = w.log ++ v.log := by rw [h.new, List.nil_append]
  exact h.run.settled_of_revoked same revoked

/-- A fetch after a revocation shows the floor. -/
theorem fetch_shows (h : MemoryRun l id expiry allowed w v)
    {reply : Option (Call.fetch (l.key id)).Reply}
    (m : Moment l allowed w v n ⟨.fetch (l.key id), reply⟩)
    (revoked : Revoked l id m.before.log f) :
    ∃ value, reply = some (.ok (some value)) ∧ blacklistFloor.toInt ≤ value.toInt :=
  (h.run.turn m).fetch_shows (h.upTo m).run.guarded_last.early ((h.upTo m).settled revoked).1

/-- If a presentation went on after its first fetch, the token was not revoked before. -/
theorem not_revoked_before (h : MemoryRun l c.tokenId c.expiresAt allowed w v) {made : Made}
    {first : List Made} {early rest : List Event} {t : Instant}
    (leads : Program.Leads (some (Exchange.check l c ttl)) (made :: first) q)
    (other : q ≠ some (.pure (.denied .blacklisted)))
    (log : v.log = early ++ .called t n made :: rest) : ¬ Revoked l c.tokenId early f := by
  intro revoked
  obtain ⟨m, sofar⟩ := h.moment_at log
  obtain ⟨reply, rfl, ends⟩ := Exchange.first_fetch leads
  obtain ⟨value, rfl, floor⟩ := h.fetch_shows m (sofar ▸ revoked)
  exact other (ends value rfl floor)

/-- If a presentation has fetched a high counter and was not denied as blacklisted, the token
was claimed, or the presentation was overtaken by a logout. -/
theorem of_fetch (h : MemoryRun l c.tokenId c.expiresAt allowed w v) {value : SignedWord}
    (leads : Program.Leads (some (Exchange.check l c ttl)) (callsOf n v.log) q)
    (heard : Heard (callsOf n v.log) (.fetch (l.key c.tokenId)) (some value))
    (high : 1 < value.toInt) (other : q ≠ some (.pure (.denied .blacklisted))) :
    (∃ k, Claimed l c.tokenId v.log k) ∨ ∃ f, Overtaken l c.tokenId v.log n f := by
  obtain ⟨m⟩ := h.moment_of_mem heard
  obtain ⟨rest, log⟩ := m.log_split
  obtain ⟨e, live, same⟩ := (h.run.turn m).live_of_fetch
  subst same
  have spent : Spent l c.tokenId m.before.log :=
    (h.upTo m).accounted_last.high e (Entries.live?_eq_some_iff.mp live).1 high
  rcases spent with ⟨k, claimed⟩ | ⟨f, ⟨s, c', begun⟩, revoked⟩
  · exact .inl ⟨k, claimed.mono m.log_subset⟩
  obtain ⟨value, shown, floor⟩ := h.fetch_shows m revoked
  cases shown
  rw [log, callsOf_append, callsOf_called_cons] at leads
  cases before : callsOf n m.before.log with
  | nil =>
      rw [before] at leads
      exact absurd revoked (h.not_revoked_before leads other log)
  | cons made first =>
      rw [before] at leads
      obtain ⟨reply, rfl, _⟩ := Exchange.first_fetch leads
      obtain ⟨early, t, middle, sofar, _, _⟩ := callsOf_split (show _ = [] ++ _ :: _ from before)
      rw [sofar, List.append_assoc, List.cons_append] at log
      refine .inr ⟨f, early, t, reply, middle, _, _, rest, log, floor, ?_, s, c',
        m.log_subset begun⟩
      obtain ⟨u, written, ttl', called⟩ := revoked
      rw [sofar] at called
      rcases List.mem_append.mp called with old | new
      · exact absurd ⟨u, written, ttl', old⟩ (h.not_revoked_before leads other log)
      · rcases List.mem_cons.mp new with head | between
        · cases head
        · exact ⟨u, written, ttl', between⟩

/-- The same if its increment has led to a counter other than two. -/
theorem of_increment (h : MemoryRun l c.tokenId c.expiresAt allowed w v) {value : SignedWord}
    (leads : Program.Leads (some (Exchange.check l c ttl)) (callsOf n v.log) q)
    (heard : Heard (callsOf n v.log) (.increment (l.key c.tokenId)) (some value))
    (high : value.toInt ≠ 2) (other : q ≠ some (.pure (.denied .blacklisted))) :
    ∃ k, Claimed l c.tokenId v.log k := by
  obtain ⟨m⟩ := h.moment_of_mem heard
  have turn := h.run.turn m
  have spent : Spent l c.tokenId m.before.log := by
    cases turn with
    | @increment _ e _ _ live next _ =>
        have got := (Entries.live?_eq_some_iff.mp live).1
        have positive := (h.upTo m).accounted_last.positive e got
        have one := SignedWord.toInt_of_succ? next
        exact (h.upTo m).accounted_last.high e got (by omega)
  rcases spent with ⟨k, claimed⟩ | ⟨f, _, revoked⟩
  · exact ⟨k, claimed.mono m.log_subset⟩
  have settled := (h.upTo m).settled revoked
  rcases turn.increment_shows (h.upTo m).run.guarded_last.early settled.1 with
    ⟨v, shown, beyond⟩ | ⟨f, failed⟩
  · cases shown
    exact absurd (Exchange.blacklisted_of_high leads heard (Int.le_of_lt beyond)) other
  · cases failed

/-- What an overused token rests on. -/
theorem of_overused (h : MemoryRun l c.tokenId c.expiresAt allowed w v)
    (leads : Program.Leads (some (Exchange.check l c ttl)) (callsOf n v.log) q)
    (overused : Exchange.Overused (l.key c.tokenId) (callsOf n v.log))
    (denied : q ≠ some (.pure (.denied .blacklisted))) (granted : q ≠ some (.pure .granted)) :
    (∃ k, k ≠ n ∧ Claimed l c.tokenId v.log k) ∨ ∃ f, Overtaken l c.tokenId v.log n f := by
  have reasons : (∃ k, Claimed l c.tokenId v.log k) ∨ ∃ f, Overtaken l c.tokenId v.log n f := by
    rcases overused with ⟨value, heard, high⟩ | ⟨value, heard, _, high⟩
    · exact h.of_fetch leads heard high denied
    · exact .inl (h.of_increment leads heard high denied)
  rcases reasons with ⟨k, claimed⟩ | overtaken
  · refine .inl ⟨k, fun same => ?_, claimed⟩
    subst same
    obtain ⟨t, value, called, two⟩ := claimed
    exact granted (Exchange.granted_of_two leads (mem_callsOf.mpr ⟨t, called⟩) two)
  · exact .inr overtaken

end MemoryRun

/-- A presentation locks its account, or is denied as a replay, only if another one has
claimed the token, or if a logout has blacklisted the token after the first fetch of the
presentation and before a later one. -/
theorem escalated_after_claim_or_logout (l : Ledger) (c : Claims) (now : Instant)
    (directory : Directory) (early : now < c.expiresAt) :
    ∀ v, Reaches l (Regular c.tokenId c.expiresAt) (start now ⟨.volatile .empty, directory⟩) v →
      ∀ n rest, v.flights.get? n = some ⟨.refresh c, rest⟩ →
        ((∃ reply, (⟨.lock c.subject, reply⟩ : Made) ∈ callsOf n v.log) ∨
          v.Answered n (.refresh c) (.ok (.denied .replay))) →
        (∃ k, k ≠ n ∧ Claimed l c.tokenId v.log k) ∨ ∃ f, Overtaken l c.tokenId v.log n f := by
  intro v reaches n rest flight escalated
  have h : MemoryRun l c.tokenId c.expiresAt _ (start now ⟨.volatile .empty, directory⟩) v :=
    ⟨⟨reaches, fun _ _ ok => ok, guarded_start early trivial⟩, rfl, rfl, accounted_start now _⟩
  obtain ⟨ttl, leads⟩ := h.run.guarded_last.checked flight
  rcases escalated with ⟨reply, locked⟩ | replay
  · obtain ⟨m⟩ := h.moment_of_mem locked
    obtain ⟨later, log⟩ := m.log_split
    rw [log, callsOf_append, callsOf_called_cons] at leads
    obtain ⟨next, leads, _⟩ := leads.split
    cases Exchange.trail_check leads with
    | calls stage =>
        cases stage with
        | lock overused =>
            rcases (h.upTo m).of_overused leads overused nofun nofun with
              ⟨k, other, claimed⟩ | ⟨f, overtaken⟩
            · exact .inl ⟨k, other, claimed.mono m.log_subset⟩
            · exact .inr ⟨f, log ▸ overtaken.append _⟩
  · cases flight.symm.trans replay
    cases Exchange.trail_check leads with
    | answered verdict =>
        cases verdict with
        | replay overused => exact h.of_overused leads overused nofun nofun

/-- A logout of the sample token between the two fetches of its only presentation. -/
def overtaken : Traffic :=
  (start (.ofSeconds 0) ⟨.volatile .empty, sampleDirectory⟩).acts .standard
    [.begin 0 (.refresh sampleClaims), .proceed 0 none, .begin 1 (.logout sampleClaims),
      .proceed 1 none, .proceed 0 none, .proceed 0 none, .proceed 0 none]

theorem overtaken_reached : Reaches .standard (Regular sampleClaims.tokenId sampleClaims.expiresAt)
    (start (.ofSeconds 0) ⟨.volatile .empty, sampleDirectory⟩) overtaken :=
  reaches_acts (.refl _) ⟨fun _ => rfl, trivial, fun _ => rfl, trivial, trivial, trivial, trivial,
    trivial⟩

theorem overtaken_replay : overtaken.Answered 0 (.refresh sampleClaims) (.ok (.denied .replay)) :=
  show overtaken.flights.get? 0 = _ from rfl

theorem overtaken_unclaimed (k : Nat) :
    ¬ Claimed .standard sampleClaims.tokenId overtaken.log k := by
  rintro ⟨t, value, called, _⟩
  have none : overtaken.log.all (fun event => event.callName? ≠ some .increment) = true := rfl
  exact of_decide_eq_true (List.all_eq_true.mp none _ called) rfl

/-- The presentation is denied as a replay, and its account locked, but nobody has claimed
the token. -/
theorem locked_without_claim :
    Reaches .standard (Regular sampleClaims.tokenId sampleClaims.expiresAt)
      (start (.ofSeconds 0) ⟨.volatile .empty, sampleDirectory⟩) overtaken ∧
    overtaken.Answered 0 (.refresh sampleClaims) (.ok (.denied .replay)) ∧
    overtaken.services.directory.isLocked sampleClaims.subject = true ∧
    ∀ k, ¬ Claimed .standard sampleClaims.tokenId overtaken.log k :=
  ⟨overtaken_reached, overtaken_replay, rfl, overtaken_unclaimed⟩

theorem replay_after_logout :
    ∃ f, Overtaken .standard sampleClaims.tokenId overtaken.log 0 f := by
  rcases escalated_after_claim_or_logout .standard sampleClaims (.ofSeconds 0) sampleDirectory
    (by decide) overtaken overtaken_reached 0 _ overtaken_replay (.inr overtaken_replay) with
    ⟨k, _, claimed⟩ | logout
  · exact absurd claimed (overtaken_unclaimed k)
  · exact logout

end Traffic

end RequestGuard
