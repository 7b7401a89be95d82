import RequestGuard.Proofs.Runs

/-!
# A clock that is set

A gate is used by one party at a time, and the clock stands still during each use. Between two
uses it may be set to any moment, also back. Whoever uses a token agrees on its expiry.

A record hidden by its expiry shows again when the clock is set back, so a store in memory
grants a token once. A store on disk drops what has expired whenever it adds a record. If that
happened to the record of a token that was claimed or logged out, and the clock is set back, the
token is good once more. The main theorem says that there is no other way.
-/

namespace RequestGuard

namespace Services

variable {l : Ledger} {c : Claims} {now : Instant} {s : Services}

/-- A presentation that is granted ends with an increment that leads to two. -/
theorem of_granted (granted : (s.run now (Exchange.decide l c now)).1 = some (.ok .granted)) :
    now < c.expiresAt ∧ ∃ s' value, value.toInt = 2 ∧
      (s'.perform now none (.increment (l.key c.tokenId))).1 = some (.ok (some value)) ∧
      (s'.perform now none (.increment (l.key c.tokenId))).2 =
        (s.run now (Exchange.decide l c now)).2 ∧
      ∀ P : Services → Prop, (∀ h x (next : x.Answer → Program Decision) s,
        Program.Leads (some (Exchange.decide l c now)) h (some (.call x next)) → P s →
          P (s.perform now none x).2) → P s → P s' := by
  obtain ⟨h, calls, leads⟩ := run_performs (Exchange.decide l c now) s now
  rw [granted] at leads
  have leads : Program.Leads (some (Exchange.decide l c now)) h (some (.pure .granted)) := leads
  obtain ⟨_, _, ends⟩ | ⟨early, checks⟩ := Operation.decide_cases leads
  · cases ends
  obtain ⟨first, rest, rfl, account⟩ := Exchange.granted_check checks
  obtain ⟨value, two, rfl⟩ := Exchange.granted_checkAccount account
  -- All calls but the last.
  obtain ⟨others, whole⟩ : ∃ others : List Made,
      first ++ [⟨.currentVersion c.subject, some (.ok (some c.version))⟩,
        ⟨.isLocked c.subject, some (.ok false)⟩,
        ⟨.increment (l.key c.tokenId), some (.ok (some value))⟩] =
          others ++ [⟨.increment (l.key c.tokenId), some (.ok (some value))⟩] :=
    ⟨first ++ [_, _], (List.append_assoc first [_, _] [_]).symm⟩
  rw [whole] at calls leads
  obtain ⟨s', others', claim⟩ := calls.split
  obtain ⟨reply, ends⟩ := claim.of_cons
  refine ⟨early, s', value, two, reply, ends.eq_of_nil.symm, fun P each first => ?_⟩
  refine others'.keeps (fun made member s held => ?_) first
  obtain ⟨h, h', rfl⟩ := List.append_of_mem member
  rw [List.append_assoc] at leads
  obtain ⟨next, leads, _⟩ := leads.split
  exact each h made.call next s leads held

/-- A presentation that is granted leaves a counter beyond one. -/
theorem counts_of_granted (granted : (s.run now (Exchange.decide l c now)).1 = some (.ok .granted))
    (lives : s.store.entries.Outlives (l.key c.tokenId) c.expiresAt) :
    (s.run now (Exchange.decide l c now)).2.store.entries.Counts (l.key c.tokenId)
      c.expiresAt 2 := by
  obtain ⟨early, s', value, two, answer, ends, keeps⟩ := of_granted granted
  have lives' : s'.store.entries.Outlives (l.key c.tokenId) c.expiresAt := by
    refine keeps (fun s => s.store.entries.Outlives (l.key c.tokenId) c.expiresAt) ?_ lives
    intro h x next s leads lives
    exact outlives_perform
      (Operation.call_respects (o := .refresh c) leads rfl (Int.le_refl _)) lives
  obtain ⟨e, live, _, written⟩ := of_increment answer
  rw [← ends, written]
  exact Entries.counts_insert (Int.le_of_eq two.symm)
    (lives' e (Entries.live?_eq_some_iff.mp live).1)

/-- And it does not find one. -/
theorem not_granted_of_counts (counts : s.store.entries.Counts (l.key c.tokenId) c.expiresAt 2) :
    (s.run now (Exchange.decide l c now)).1 ≠ some (.ok .granted) := by
  intro granted
  obtain ⟨early, s', value, two, answer, _, keeps⟩ := of_granted granted
  have counts' : s'.store.entries.Counts (l.key c.tokenId) c.expiresAt 2 := by
    refine keeps (fun s => s.store.entries.Counts (l.key c.tokenId) c.expiresAt 2) ?_ counts
    intro h x next s leads counts
    exact counts_perform (Operation.call_respects (o := .refresh c) leads rfl (Int.le_refl _))
      early (by decide) counts
  obtain ⟨e, live, next, _⟩ := of_increment answer
  obtain ⟨e', live', many, _⟩ := counts'.live? early
  rw [live] at live'
  cases live'
  omega

/-- A logout of a token that lives leaves the floor. -/
theorem counts_of_logout (done : (s.run now (l.logout c now)).1 = some (.ok ()))
    (early : now < c.expiresAt) :
    (s.run now (l.logout c now)).2.store.entries.Counts (l.key c.tokenId) c.expiresAt 2 := by
  rw [Ledger.logout, (c.remaining?_eq_some_iff now _).mpr ⟨early, rfl⟩] at done ⊢
  obtain ⟨h, calls, leads⟩ := run_performs (l.invalidate c.tokenId (c.expiresAt.since now)) s now
  dsimp only at done ⊢
  rw [done] at leads
  obtain ⟨_, ends⟩ | ⟨reply, rest, rfl, further⟩ := Program.Leads.call_iff.mp leads
  · cases ends
  obtain ⟨answer, calls⟩ := calls.of_cons
  cases reply with
  | none => cases (Program.Leads.none_iff.mp further).2
  | some r =>
      cases r with
      | error f => cases (Program.Leads.fail_iff.mp further).2
      | ok =>
          obtain ⟨rfl, _⟩ := Program.Leads.pure_iff.mp further
          rw [calls.eq_of_nil]
          obtain ⟨t, ends, written⟩ := of_insert answer
          have high : 2 ≤ blacklistFloor.toInt := by decide
          have long : c.expiresAt.nanos ≤ now.nanos + (c.expiresAt.since now).nanos := by
            simp only [Instant.since]
            omega
          exact ⟨_, written, high, Entries.lives_of_add? ends long⟩

end Services

namespace Use

/-- The operation at the gate that a use is, unless it is a change of an account. -/
def operation? : Use → Option Operation
  | .refresh c => some (.refresh c)
  | .logout c => some (.logout c)
  | .register _ _ | .bump _ | .lock _ => none

/-- Claims of the token name its expiry. -/
def Shares (id : TokenId) (expiry : Instant) (u : Use) : Prop :=
  ∀ o, u.operation? = some o → o.tokenId = id → o.Presents expiry

/-- The use has claimed the token, or logged it out while it lived. -/
inductive Spends (id : TokenId) (now : Instant) : Use → Outcome → Prop
  | granted {c : Claims} (own : c.tokenId = id) :
      Spends id now (.refresh c) (.refresh (some (.ok .granted)))
  | loggedOut {c : Claims} (own : c.tokenId = id) (early : now < c.expiresAt) :
      Spends id now (.logout c) (.logout (some (.ok ())))

end Use

namespace Checkpoint

variable {p : Checkpoint} {now expiry : Instant} {id : TokenId} {u : Use} {o : Operation}

def after (p : Checkpoint) (us : List (Instant × Use)) : Checkpoint := (p.uses us).2

theorem after_append (p : Checkpoint) (us more : List (Instant × Use)) :
    p.after (us ++ more) = (p.after us).after more := by
  induction us generalizing p with
  | nil => rfl
  | cons x us ih => exact ih (p.use x.1 x.2).2

theorem ledger_use (p : Checkpoint) (now : Instant) (u : Use) :
    (p.use now u).2.gate.ledger = p.gate.ledger := by
  cases u with
  | refresh c => exact ledger_endExchange _ _
  | logout c => exact ledger_endLogout _ _
  | register | bump | lock => rfl

/-- A presentation or a logout runs its program. -/
theorem services_use (same : u.operation? = some o) : (p.use now u).2.services =
    (p.services.run now (o.program p.gate.ledger now)).2 := by
  cases u with
  | refresh | logout =>
      cases same
      rfl
  | register | bump | lock => cases same

/-- A change of an account leaves the store. -/
theorem store_use (none : u.operation? = none) :
    (p.use now u).2.services.store = p.services.store := by
  cases u with
  | refresh | logout => cases none
  | register | bump | lock => rfl

/-- A checkpoint keeps the kind of its store. -/
theorem isDurable_use (p : Checkpoint) (now : Instant) (u : Use) :
    (p.use now u).2.services.store.isDurable = p.services.store.isDurable := by
  cases same : u.operation? with
  | none => rw [store_use same]
  | some o =>
      rw [services_use same]
      exact Operation.run_keeps
        (P := fun s => s.store.isDurable = p.services.store.isDurable)
        (fun _ _ _ _ _ kind => (Services.isDurable_perform _).trans kind) rfl

theorem isDurable_after (p : Checkpoint) (us : List (Instant × Use)) :
    (p.after us).services.store.isDurable = p.services.store.isDurable := by
  induction us generalizing p with
  | nil => rfl
  | cons x us ih => exact (ih _).trans (isDurable_use p x.1 x.2)

/-- Only a token that lives makes a difference. -/
theorem living_of_changed (same : u.operation? = some o)
    (changed : (p.use now u).2.services ≠ p.services) :
    ∃ c, (u = .refresh c ∨ u = .logout c) ∧ c.tokenId = o.tokenId ∧ now < c.expiresAt := by
  have still : ∀ {expiry}, o.Presents expiry → now < expiry := fun presents =>
    Instant.not_le.mp fun late =>
      changed ((services_use same).trans (Operation.run_late presents late))
  cases u with
  | refresh c =>
      cases same
      exact ⟨c, .inl rfl, rfl, still rfl⟩
  | logout c =>
      cases same
      exact ⟨c, .inr rfl, rfl, still rfl⟩
  | register | bump | lock => cases same

/-- What the store keeps of a token lives up to its expiry. -/
def Lasting (id : TokenId) (expiry : Instant) (p : Checkpoint) : Prop :=
  p.services.store.entries.Outlives (p.gate.ledger.key id) expiry

/-- The store shows that the token was claimed or logged out. -/
def Marked (id : TokenId) (expiry : Instant) (p : Checkpoint) : Prop :=
  p.services.store.entries.Counts (p.gate.ledger.key id) expiry 2

/-- A use at which the record of a token is lost. The store is one on disk, the clock shows the
expiry of the token or a later moment, and another token, which lives, is presented or logged
out. -/
structure Drops (id : TokenId) (expiry : Instant) (p : Checkpoint) (now : Instant) (u : Use) :
    Prop where
  durable : p.services.store.isDurable = true
  late : expiry ≤ now
  other : ∃ c, (u = .refresh c ∨ u = .logout c) ∧ c.tokenId ≠ id ∧ now < c.expiresAt
  stood : (p.services.store.entries.get? (p.gate.ledger.key id)).isSome
  gone : (p.use now u).2.services.store.entries.get? (p.gate.ledger.key id) = none

theorem Lasting.use (h : p.Lasting id expiry) (now : Instant) (shares : u.Shares id expiry) :
    (p.use now u).2.Lasting id expiry := by
  unfold Lasting at h ⊢
  rw [ledger_use]
  cases same : u.operation? with
  | none =>
      rw [store_use same]
      exact h
  | some o =>
      rw [services_use same]
      exact Operation.run_outlives (shares o same) h

/-- The mark of a token is only lost where its record is dropped. -/
theorem Marked.use (h : p.Marked id expiry) (now : Instant) (shares : u.Shares id expiry) :
    (p.use now u).2.Marked id expiry ∨ p.Drops id expiry now u := by
  unfold Marked at h ⊢
  rw [ledger_use]
  cases same : u.operation? with
  | none =>
      rw [store_use same]
      exact .inl h
  | some o =>
      have services : (p.use now u).2.services =
          (p.services.run now (o.program p.gate.ledger now)).2 := services_use same
      by_cases own : o.tokenId = id
      · have presents := shares o same own
        subst own
        rw [services]
        by_cases late : expiry ≤ now
        · rw [Operation.run_late presents late]
          exact .inl h
        · exact .inl (Operation.run_counts presents (Instant.not_le.mp late) h)
      · obtain ⟨e, stood, many, lives⟩ := h
        have kept : Services.Kept now (p.gate.ledger.key id) p.services
            (p.use now u).2.services := by
          rw [services]
          exact Operation.run_elsewhere own
        obtain still | ⟨durable, live⟩ := kept.2
        · exact .inl ⟨e, still.trans stood, many, lives⟩
        · by_cases early : now < e.expiresAt.instant
          · rw [Entries.live?_eq_some_iff.mpr ⟨stood, early⟩] at live
            exact .inl ⟨e, live, many, lives⟩
          · have gone : p.services.store.entries.live? now (p.gate.ledger.key id) = none := by
              rw [Entries.live?, stood, Option.filter_some, if_neg]
              rwa [Entry.isLive_iff]
            have gone := live.trans gone
            have changed : (p.use now u).2.services ≠ p.services := by
              intro unchanged
              rw [unchanged, stood] at gone
              cases gone
            obtain ⟨c, which, token, living⟩ := living_of_changed same changed
            refine .inr ⟨durable, Int.le_trans lives (Instant.not_lt.mp early),
              ⟨c, which, token ▸ own, living⟩, ?_, gone⟩
            rw [stood]
            rfl

/-- So it is over several uses. -/
theorem Marked.after {us : List (Instant × Use)} (h : p.Marked id expiry)
    (shares : ∀ x ∈ us, x.2.Shares id expiry) :
    (p.after us).Marked id expiry ∨ ∃ earlier now u later, us = earlier ++ (now, u) :: later ∧
      (p.after earlier).Drops id expiry now u := by
  induction us generalizing p with
  | nil => exact .inl h
  | cons x us ih =>
      obtain ⟨now, u⟩ := x
      obtain marked | drops := h.use now (shares _ List.mem_cons_self)
      · rcases ih marked fun x member => shares x (List.mem_cons_of_mem _ member) with
          last | ⟨earlier, now', u', later, rfl, drops⟩
        · exact .inl last
        · exact .inr ⟨(now, u) :: earlier, now', u', later, rfl, drops⟩
      · exact .inr ⟨[], now, u, us, rfl, drops⟩

theorem Lasting.after {us : List (Instant × Use)} (h : p.Lasting id expiry)
    (shares : ∀ x ∈ us, x.2.Shares id expiry) : (p.after us).Lasting id expiry := by
  induction us generalizing p with
  | nil => exact h
  | cons x us ih =>
      exact ih (h.use x.1 (shares x List.mem_cons_self))
        fun x member => shares x (List.mem_cons_of_mem _ member)

/-- A use that claims the token or logs it out marks it. -/
theorem Lasting.marked (h : p.Lasting id expiry) (shares : u.Shares id expiry)
    (spends : u.Spends id now (p.use now u).1) : (p.use now u).2.Marked id expiry := by
  unfold Lasting at h
  unfold Marked
  rw [ledger_use]
  generalize outcome : (p.use now u).1 = r at spends
  cases spends with
  | @granted c own =>
      subst own
      obtain rfl : c.expiresAt = expiry := shares _ rfl rfl
      exact Services.counts_of_granted (Outcome.refresh.inj outcome) h
  | @loggedOut c own early =>
      subst own
      obtain rfl : c.expiresAt = expiry := shares _ rfl rfl
      exact Services.counts_of_logout (Outcome.logout.inj outcome) early

/-- Single use with a clock that may be set to anything between two uses of a gate. Take a store
of either kind that begins empty, and a token on whose expiry all agree. If the token is granted
after it was claimed or logged out while it lived, then its record was dropped in between: by a
store on disk, when another, living token was presented or logged out while the clock showed the
expiry of the first one or a later moment. A store in memory drops nothing. -/
theorem single_use_unless_dropped (p : Checkpoint) (id : TokenId) (expiry : Instant)
    (empty : p.services.store.entries = .empty) (before between : List (Instant × Use))
    (t : Instant) (u : Use) (shares : ∀ x ∈ before ++ (t, u) :: between, x.2.Shares id expiry)
    (spends : u.Spends id t ((p.after before).use t u).1) (t' : Instant) (c : Claims)
    (own : c.tokenId = id) (agrees : c.expiresAt = expiry)
    (again : ((p.after (before ++ (t, u) :: between)).use t' (.refresh c)).1 =
      .refresh (some (.ok .granted))) :
    p.services.store.isDurable = true ∧
      ∃ earlier s x later, between = earlier ++ (s, x) :: later ∧
        (p.after (before ++ (t, u) :: earlier)).Drops id expiry s x := by
  have lasting : (p.after before).Lasting id expiry := by
    refine Lasting.after ?_ fun x member => shares x (List.mem_append_left _ member)
    unfold Lasting
    rw [empty]
    exact Entries.Outlives.empty
  have here : (t, u) ∈ before ++ (t, u) :: between := List.mem_append_right _ List.mem_cons_self
  have marked : ((p.after before).use t u).2.Marked id expiry :=
    lasting.marked (shares _ here) spends
  rw [after_append] at again
  rcases marked.after fun x member =>
      shares x (List.mem_append_right _ (List.mem_cons_of_mem _ member)) with
    still | ⟨earlier, s, x, later, rfl, drops⟩
  · subst own agrees
    exact absurd (Outcome.refresh.inj again) (Services.not_granted_of_counts still)
  · have kind := drops.durable
    rw [isDurable_after, isDurable_use, isDurable_after] at kind
    refine ⟨kind, earlier, s, x, later, rfl, ?_⟩
    rw [after_append]
    exact drops

/-- An unused gate over an empty store on disk. -/
def onDisk : Checkpoint :=
  ⟨.new .standard, ⟨.durable ⟨["ledger.json"], .empty⟩ (.empty "disk"), .empty⟩⟩

def longerClaims : Claims :=
  { Traffic.sampleClaims with tokenId := ⟨"longer", by decide⟩, expiresAt := .ofSeconds 200 }

/-- The sample token is presented, the other one after its expiry, and then, with the clock set
back, the sample token again. -/
def setBack : List (Instant × Use) :=
  [(.ofSeconds 0, .register Traffic.sampleClaims.subject Traffic.sampleClaims.version),
    (.ofSeconds 0, .refresh Traffic.sampleClaims), (.ofSeconds 100, .refresh longerClaims),
    (.ofSeconds 10, .refresh Traffic.sampleClaims)]

theorem setBack_shares : ∀ x ∈ setBack,
    x.2.Shares Traffic.sampleClaims.tokenId Traffic.sampleClaims.expiresAt := by
  intro x member o same own
  simp only [setBack, List.mem_cons, List.not_mem_nil, or_false] at member
  obtain rfl | rfl | rfl | rfl := member
  · cases same
  · cases same
    rfl
  · cases same
    exact absurd own (by decide)
  · cases same
    rfl

/-- A store in memory finds the second presentation out. -/
example : (new.uses setBack).1 = [.register, .refresh (some (.ok .granted)),
    .refresh (some (.ok .granted)), .refresh (some (.ok (.denied .replay)))] := rfl

/-- One on disk has dropped the record, and grants the sample token twice. -/
theorem granted_twice_with_clock_set_back :
    onDisk.services.store.entries = .empty ∧
      (∀ x ∈ setBack, x.2.Shares Traffic.sampleClaims.tokenId Traffic.sampleClaims.expiresAt) ∧
      (onDisk.uses setBack).1 = [.register, .refresh (some (.ok .granted)),
        .refresh (some (.ok .granted)), .refresh (some (.ok .granted))] :=
  ⟨rfl, setBack_shares, rfl⟩

/-- It was dropped when the other token was presented. -/
theorem dropped_by_other_token :
    onDisk.services.store.isDurable = true ∧
      ∃ earlier s x later,
        [(Instant.ofSeconds 100, Use.refresh longerClaims)] = earlier ++ (s, x) :: later ∧
        (onDisk.after ([(.ofSeconds 0, .register Traffic.sampleClaims.subject
            Traffic.sampleClaims.version)] ++ (.ofSeconds 0, .refresh Traffic.sampleClaims) ::
          earlier)).Drops Traffic.sampleClaims.tokenId Traffic.sampleClaims.expiresAt s x := by
  refine single_use_unless_dropped onDisk _ _ rfl
    [(.ofSeconds 0, .register Traffic.sampleClaims.subject Traffic.sampleClaims.version)]
    [(.ofSeconds 100, .refresh longerClaims)] (.ofSeconds 0) (.refresh Traffic.sampleClaims)
    (fun x member => setBack_shares x ?_) ?_ (.ofSeconds 10) Traffic.sampleClaims rfl rfl rfl
  · exact (List.dropLast_sublist setBack).subset member
  · exact .granted rfl

end Checkpoint

end RequestGuard
