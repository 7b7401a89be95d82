import RequestGuard.Proofs.Traffic.Settled

/-!
# Before a token is claimed

A token that is only presented, of an account that nothing but these presentations
touches. As long as none of them has claimed the token, its counter is at most one, its
account is as it was, and no presentation has heard anything that speaks against it:
`Unclaimed` is this invariant. A presentation that has heard nothing else cannot have come
to an answer, so by the time one has, the token is claimed.

The store is one in memory. With a snapshot, a write may fail and answer a presentation
before any claims the token.
-/

namespace RequestGuard

namespace Exchange

variable {l : Ledger} {c : Claims} {ttl : Span} {h : List Made} {q : Option (Program Decision)}

/-- The calls of an exchange with replies after which it goes on. -/
inductive Harmless (l : Ledger) (c : Claims) : Made → Prop
  | unseen : Harmless l c ⟨.fetch (l.key c.tokenId), some (.ok none)⟩
  | once {v : SignedWord} (one : v.toInt = 1) :
      Harmless l c ⟨.fetch (l.key c.tokenId), some (.ok (some v))⟩
  | recorded {ttl : Span} (written : Bool) :
      Harmless l c ⟨.insertIfAbsent (l.key c.tokenId) 1 ttl, some (.ok written)⟩
  | unrecorded {ttl : Span} : Harmless l c ⟨.insertIfAbsent (l.key c.tokenId) 1 ttl, none⟩
  | current : Harmless l c ⟨.currentVersion c.subject, some (.ok (some c.version))⟩
  | unlocked : Harmless l c ⟨.isLocked c.subject, some (.ok false)⟩

theorem not_overused (harmless : ∀ made ∈ h, Harmless l c made) :
    ¬ Overused (l.key c.tokenId) h := by
  rintro (⟨v, heard, high⟩ | ⟨v, heard, _⟩)
  · cases harmless _ heard with
    | once one => omega
  · cases harmless _ heard

/-- No decision rests on harmless replies alone. -/
theorem Verdict.not_harmless {d : Decision} (verdict : Verdict l c ttl h d) :
    ¬ ∀ made ∈ h, Harmless l c made := by
  intro harmless
  have floor := toInt_blacklistFloor
  cases verdict with
  | granted heard => cases harmless _ heard
  | blacklisted heard high =>
      rcases heard with heard | heard
      · cases harmless _ heard with
        | once one => omega
      · cases harmless _ heard
  | replay overused => exact not_overused harmless overused
  | unknownAccount heard => cases harmless _ heard
  | accountLocked heard => cases harmless _ heard
  | staleVersion heard other =>
      cases harmless _ heard with
      | current => exact other rfl

/-- Nor does a failure. -/
theorem Fault.not_harmless {f : Failure} (fault : Fault l c h f) :
    ¬ ∀ made ∈ h, Harmless l c made := by
  intro harmless
  cases fault with
  | reply member => cases harmless _ member
  | count _ heard low =>
      rcases heard with heard | heard
      · cases harmless _ heard with
        | once one => omega
      · cases harmless _ heard
  | unmarked _ heard => cases harmless _ heard

/-- After harmless replies an exchange has not ended. If it comes to another call, it is
no lock and no blacklist write, and a claim only of a token that it knows to be recorded. -/
theorem goes_on (trail : Trail l c ttl h q) (harmless : ∀ made ∈ h, Harmless l c made) :
    q = none ∨ ∃ x next, q = some (.call x next) ∧
      (x = .fetch (l.key c.tokenId) ∨ x = .insertIfAbsent (l.key c.tokenId) 1 ttl ∨
        x = .currentVersion c.subject ∨ x = .isLocked c.subject ∨
        x = .increment (l.key c.tokenId) ∧ Recorded (l.key c.tokenId) h) := by
  cases trail with
  | lost => exact .inl rfl
  | calls stage =>
      refine .inr ⟨_, _, rfl, ?_⟩
      cases stage with
      | fetch => exact .inl rfl
      | record => exact .inr (.inl rfl)
      | version => exact .inr (.inr (.inl rfl))
      | locked => exact .inr (.inr (.inr (.inl rfl)))
      | claim recorded => exact .inr (.inr (.inr (.inr ⟨rfl, recorded⟩)))
      | lock overused | invalidate overused => exact absurd overused (not_overused harmless)
  | answered verdict => exact absurd harmless verdict.not_harmless
  | failed fault => exact absurd harmless fault.not_harmless

theorem recorded_append_singleton {made : Made} {key : String} (r : Recorded key (h ++ [made])) :
    Recorded key h ∨ Recorded key [made] := by
  rcases r with ⟨v, heard⟩ | ⟨ttl, written, heard⟩
  · exact (List.mem_append.mp heard).imp (fun m => .inl ⟨v, m⟩) fun m => .inl ⟨v, m⟩
  · exact (List.mem_append.mp heard).imp (fun m => .inr ⟨ttl, written, m⟩)
      fun m => .inr ⟨ttl, written, m⟩

end Exchange

namespace Traffic

/-- The setting in which a token is presented only, and its account is left alone but for
the locks of these presentations. -/
def Undisturbed (c : Claims) (w : Traffic) : Action → Prop
  | .wait now => w.now ≤ now ∧ now < c.expiresAt
  | .begin _ o => o.tokenId = c.tokenId → o = .refresh c
  | .proceed n _ => ∀ o next, w.flights.get? n = some ⟨o, some (.call (.lock c.subject) next)⟩ →
      o = .refresh c
  | .change account _ => account ≠ c.subject

theorem Undisturbed.regular {c : Claims} {w : Traffic} {a : Action} (h : Undisturbed c w a) :
    Regular c.tokenId c.expiresAt w a := by
  cases a with
  | wait now => exact h
  | begin n o =>
      intro own
      cases h own
      rfl
  | proceed | change => trivial

/-- What holds as long as no presentation has claimed the token. -/
structure Unclaimed (l : Ledger) (c : Claims) (w : Traffic) : Prop where
  volatile : w.services.store.isDurable = false
  one : ∀ e, w.services.store.entries.get? (l.key c.tokenId) = some e → e.value.toInt = 1
  version : w.services.directory.currentVersion c.subject = some c.version
  unlocked : w.services.directory.isLocked c.subject = false
  harmless : ∀ n rest, w.flights.get? n = some ⟨.refresh c, rest⟩ →
    ∀ made ∈ callsOf n w.log, Exchange.Harmless l c made
  recorded : ∀ n, Exchange.Recorded (l.key c.tokenId) (callsOf n w.log) →
    w.services.store.entries.Counts (l.key c.tokenId) c.expiresAt 1

/-- What a call does to a store that leaves the token unclaimed. -/
structure Quiet (l : Ledger) (c : Claims) (s s' : Store) (made : Made) : Prop where
  one : ∀ e, s'.entries.get? (l.key c.tokenId) = some e → e.value.toInt = 1
  shows : Exchange.Recorded (l.key c.tokenId) [made] →
    s'.entries.Counts (l.key c.tokenId) c.expiresAt 1

section Quiet

variable {l : Ledger} {c : Claims} {now : Instant} {s s' : Store}

private theorem counts_of_live {e : Entry}
    (one : ∀ e, s.entries.get? (l.key c.tokenId) = some e → e.value.toInt = 1)
    (lives : s.entries.Outlives (l.key c.tokenId) c.expiresAt)
    (live : s.entries.live? now (l.key c.tokenId) = some e) :
    s.entries.Counts (l.key c.tokenId) c.expiresAt 1 := by
  have got := (Entries.live?_eq_some_iff.mp live).1
  exact ⟨e, got, Int.le_of_eq (one e got).symm, lives e got⟩

private theorem not_recorded {made : Made} (h : made.call.key? ≠ some (l.key c.tokenId)) :
    ¬ Exchange.Recorded (l.key c.tokenId) [made] := by
  rintro (⟨v, heard⟩ | ⟨ttl, written, heard⟩)
  · cases List.mem_singleton.mp heard
    exact h rfl
  · cases List.mem_singleton.mp heard
    exact h rfl

theorem quiet_fetch {reply : Option (Call.fetch (l.key c.tokenId)).Reply}
    (turn : s.Turn now (.fetch (l.key c.tokenId)) reply s')
    (one : ∀ e, s.entries.get? (l.key c.tokenId) = some e → e.value.toInt = 1)
    (lives : s.entries.Outlives (l.key c.tokenId) c.expiresAt) :
    Exchange.Harmless l c ⟨_, reply⟩ ∧ Quiet l c s s' ⟨_, reply⟩ := by
  obtain ⟨rfl, rfl⟩ := turn.of_fetch
  cases live : s'.entries.live? now (l.key c.tokenId) with
  | none =>
      simp only [Entries.fetch, live, Option.map_none]
      refine ⟨.unseen, one, ?_⟩
      rintro (⟨v, heard⟩ | ⟨ttl, written, heard⟩)
      · cases List.mem_singleton.mp heard
      · cases List.mem_singleton.mp heard
  | some e =>
      simp only [Entries.fetch, live, Option.map_some]
      exact ⟨.once (one e (Entries.live?_eq_some_iff.mp live).1), one,
        fun _ => counts_of_live one lives live⟩

theorem quiet_insertIfAbsent {ttl : Span}
    {reply : Option (Call.insertIfAbsent (l.key c.tokenId) 1 ttl).Reply}
    (turn : s.Turn now (.insertIfAbsent (l.key c.tokenId) 1 ttl) reply s')
    (volatile : s.isDurable = false) (positive : ttl.Positive)
    (respects : (Call.insertIfAbsent (l.key c.tokenId) 1 ttl).Respects (l.key c.tokenId)
      c.expiresAt now)
    (one : ∀ e, s.entries.get? (l.key c.tokenId) = some e → e.value.toInt = 1)
    (lives : s.entries.Outlives (l.key c.tokenId) c.expiresAt) :
    Exchange.Harmless l c ⟨_, reply⟩ ∧ Quiet l c s s' ⟨_, reply⟩ := by
  cases turn with
  | insertIfAbsent writes took =>
      obtain ⟨base, _, same⟩ := took.entries
      cases writes with
      | insertIfAbsent _ _ ends =>
          refine ⟨.recorded true, fun e got => ?_, fun _ => ?_⟩
          · rw [same, Table.get?_insert, if_pos rfl] at got
            cases got
            rfl
          · rw [same]
            exact Entries.counts_insert (Int.le_refl _)
              (Entries.lives_of_add? ends (respects rfl).2)
  | present live => exact ⟨.recorded false, one, fun _ => counts_of_live one lives live⟩
  | refused write dead =>
      rcases write with same | same
      · cases same
      · cases same
        exact absurd positive dead
  | failed f writes took disk => simp [volatile] at disk
  | lost write endless swept =>
      refine ⟨.unrecorded, fun e got => one e (swept.get?_eq got), ?_⟩
      rintro (⟨v, heard⟩ | ⟨ttl, written, heard⟩)
      · cases List.mem_singleton.mp heard
      · cases List.mem_singleton.mp heard

/-- A call about another key leaves the token unclaimed. -/
theorem quiet_of_key? {x : Call} {reply : Option x.Reply} (turn : s.Turn now x reply s')
    (other : x.key? ≠ some (l.key c.tokenId))
    (one : ∀ e, s.entries.get? (l.key c.tokenId) = some e → e.value.toInt = 1) :
    Quiet l c s s' ⟨x, reply⟩ := by
  refine ⟨?_, fun recorded => absurd recorded (not_recorded other)⟩
  refine turn.memory (P := fun es => ∀ e, es.get? (l.key c.tokenId) = some e → e.value.toInt = 1)
    (fun base swept one e got => one e (swept.get?_eq got)) ?_ one
  intro base key e writes swept one e' got
  have apart : key ≠ l.key c.tokenId := by
    intro same
    subst same
    cases writes <;> exact other rfl
  rw [Table.get?_insert, if_neg apart] at got
  exact one e' (swept.get?_eq got)

/-- An increment of a token that is recorded and unclaimed is its claim. -/
theorem two_of_increment {reply : Option (Call.increment (l.key c.tokenId)).Reply}
    (turn : s.Turn now (.increment (l.key c.tokenId)) reply s') (volatile : s.isDurable = false)
    (early : now < c.expiresAt)
    (one : ∀ e, s.entries.get? (l.key c.tokenId) = some e → e.value.toInt = 1)
    (counts : s.entries.Counts (l.key c.tokenId) c.expiresAt 1) :
    ∃ value, reply = some (.ok (some value)) ∧ value.toInt = 2 := by
  obtain ⟨e, live, _, _⟩ := counts.live? early
  have is_one := one e (Entries.live?_eq_some_iff.mp live).1
  cases turn with
  | increment live' next took =>
      rw [live] at live'
      cases live'
      refine ⟨_, rfl, ?_⟩
      rw [SignedWord.toInt_of_succ? next, is_one]
      rfl
  | absent absent =>
      rw [absent] at live
      cases live
  | overflow live' last =>
      rw [live] at live'
      cases live'
      rw [SignedWord.succ?_eq_none_iff, is_one] at last
      cases last
  | failed f writes took disk => simp [volatile] at disk
  | refused write => rcases write with same | same <;> cases same
  | lost write => rcases write with same | same <;> cases same

end Quiet

section Step

variable {l : Ledger} {c : Claims} {w v : Traffic} {n : Nat} {fault : Option WriteFault}
  {o : Operation} {x : Call} {next : x.Answer → Program o.Answer}

private theorem version_congr {d d' : Directory} {account : AccountId}
    (same : d'.record? account = d.record? account) :
    d'.currentVersion account = d.currentVersion account ∧
      d'.isLocked account = d.isLocked account := by
  simp [Directory.currentVersion, Directory.isLocked, same]

/-- A call that speaks against nothing, and leaves the entry and the account of the token. -/
theorem Unclaimed.of_quiet (u : Unclaimed l c w) (g : Guarded l c.tokenId c.expiresAt w)
    (coming : w.flights.get? n = some ⟨o, some (.call x next)⟩) (calm : x ≠ .lock c.subject)
    (harmless : o = .refresh c →
      Exchange.Harmless l c ⟨x, (w.services.perform w.now fault x).1⟩)
    (quiet : Quiet l c w.services.store (w.call n fault o x next).services.store
      ⟨x, (w.services.perform w.now fault x).1⟩) : Unclaimed l c (w.call n fault o x next) := by
  have account := version_congr (Services.record?_perform calm w.now fault w.services)
  have kept : ∀ m, Exchange.Recorded (l.key c.tokenId) (callsOf m w.log) →
      (w.call n fault o x next).services.store.entries.Counts (l.key c.tokenId) c.expiresAt 1 :=
    fun m recorded => (g.turn n fault o x next).memory
      (fun _ swept => swept.counts g.early)
      (fun _ _ _ writes swept => writes.counts swept (g.respects coming) g.early (by decide))
      (u.recorded m recorded)
  refine ⟨?_, quiet.one, account.1.trans u.version, account.2.trans u.unlocked, ?_, ?_⟩
  · exact (Services.isDurable_perform x).trans u.volatile
  · intro m rest flight made member
    simp only [call, Table.get?_insert] at flight
    by_cases same : n = m
    · subst same
      rw [if_pos rfl] at flight
      cases flight
      rw [callsOf_call, if_pos rfl] at member
      rcases List.mem_append.mp member with old | new
      · exact u.harmless n _ coming made old
      · cases List.mem_singleton.mp new
        exact harmless rfl
    · rw [if_neg same] at flight
      rw [callsOf_call, if_neg same] at member
      exact u.harmless m rest flight made member
  · intro m recorded
    rw [callsOf_call] at recorded
    split at recorded
    · rcases Exchange.recorded_append_singleton recorded with old | new
      · exact kept m old
      · exact quiet.shows new
    · exact kept m recorded

/-- The next call of a presentation leaves the token unclaimed, or claims it. -/
theorem Unclaimed.of_own {next : x.Answer → Program Decision} (u : Unclaimed l c w)
    (g : Guarded l c.tokenId c.expiresAt w)
    (lives : w.services.store.Holds (Entries.Outlives (l.key c.tokenId) c.expiresAt))
    (coming : w.flights.get? n = some ⟨.refresh c, some (.call x next)⟩) :
    Unclaimed l c (w.call n fault (.refresh c) x next) ∨
      Claimed l c.tokenId (w.call n fault (.refresh c) x next).log n := by
  obtain ⟨t, begun, leads⟩ := g.sound.history n _ coming
  rcases Operation.decide_cases leads with ⟨_, _, ends⟩ | ⟨early, leads⟩
  · cases ends
  have turn := g.turn n fault (.refresh c) x next
  have respects := g.respects coming
  rcases Exchange.goes_on (Exchange.trail_check leads) (u.harmless n _ coming) with
    ends | ⟨x', next', same, cases⟩
  · cases ends
  cases same
  rcases cases with rfl | rfl | rfl | rfl | ⟨rfl, recorded⟩
  · obtain ⟨harmless, quiet⟩ := quiet_fetch turn u.one lives.1
    exact .inl (u.of_quiet g coming nofun (fun _ => harmless) quiet)
  · obtain ⟨harmless, quiet⟩ := quiet_insertIfAbsent turn u.volatile
      (Instant.since_positive early) respects u.one lives.1
    exact .inl (u.of_quiet g coming nofun (fun _ => harmless) quiet)
  · refine .inl (u.of_quiet g coming nofun (fun _ => ?_) (quiet_of_key? turn nofun u.one))
    show Exchange.Harmless l c
      ⟨.currentVersion c.subject, some (.ok (w.services.directory.currentVersion c.subject))⟩
    rw [u.version]
    exact .current
  · refine .inl (u.of_quiet g coming nofun (fun _ => ?_) (quiet_of_key? turn nofun u.one))
    show Exchange.Harmless l c
      ⟨.isLocked c.subject, some (.ok (w.services.directory.isLocked c.subject))⟩
    rw [u.unlocked]
    exact .unlocked
  · obtain ⟨value, reply, two⟩ :=
      two_of_increment turn u.volatile g.early u.one (u.recorded n recorded)
    refine .inr ⟨w.now, value, ?_, two⟩
    rw [call_log, reply]
    simp

theorem Unclaimed.step {a : Action} (u : Unclaimed l c w) (g : Guarded l c.tokenId c.expiresAt w)
    (lives : w.services.store.Holds (Entries.Outlives (l.key c.tokenId) c.expiresAt))
    (own : ∀ t n o, Event.begun t n o ∈ w.log → o.tokenId = c.tokenId → o = .refresh c)
    (ok : Undisturbed c w a) (step : Step l w a v) :
    Unclaimed l c v ∨ ∃ n, Claimed l c.tokenId v.log n := by
  cases step with
  | nothing => exact .inl u
  | wait => exact .inl ⟨u.volatile, u.one, u.version, u.unlocked, u.harmless, u.recorded⟩
  | @begun n o new =>
      refine .inl ⟨u.volatile, u.one, u.version, u.unlocked, fun m rest flight made member => ?_,
        fun m recorded => u.recorded m (by simpa using recorded)⟩
      rw [callsOf_begun] at member
      simp only [Table.get?_insert] at flight
      by_cases same : n = m
      · subst same
        rw [g.sound.callsOf_eq_nil new] at member
        cases member
      · rw [if_neg same] at flight
        exact u.harmless m rest flight made member
  | changed account change =>
      have kept := version_congr (Directory.record?_change (d := w.services.directory) ok change)
      refine .inl ⟨u.volatile, u.one, kept.1.trans u.version, kept.2.trans u.unlocked,
        fun m rest flight made member => ?_,
        fun m recorded => u.recorded m (by simpa using recorded)⟩
      exact u.harmless m rest flight made (by simpa using member)
  | @called n fault o x next coming =>
      by_cases same : o.tokenId = c.tokenId
      · obtain ⟨t, begun, _⟩ := g.sound.history n _ coming
        cases own t n o begun same
        exact (u.of_own g lives coming).imp id fun claimed => ⟨n, claimed⟩
      · obtain ⟨t, begun, leads⟩ := g.sound.history n _ coming
        have other : x.key? ≠ some (l.key c.tokenId) := fun about =>
          same (l.key_injective (Operation.call_key leads about)).symm
        refine .inl (u.of_quiet g coming ?_
          (fun own => absurd (congrArg Operation.tokenId own) same)
          (quiet_of_key? (g.turn n fault o x next) other u.one))
        intro locks
        subst locks
        exact same (congrArg Operation.tokenId (ok o next coming))

end Step

end Traffic

end RequestGuard
