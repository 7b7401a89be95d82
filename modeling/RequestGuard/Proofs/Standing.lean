import RequestGuard.Proofs.Traffic.Accounts
import RequestGuard.Proofs.Traffic.Calls

/-!
# The account behind a grant

A presentation asks for the version of its account, then whether it is locked, and then
claims the token. The store and the directory are two parties, and no call reaches both. So
a grant vouches for the account at the moments at which it asked, which lie before the
claim. What happens to the account in between goes unnoticed.
-/

namespace RequestGuard

namespace Traffic

variable {l : Ledger} {allowed : Traffic → Action → Prop} {v : Traffic} {n : Nat} {c : Claims}
  {log : List Event}

/-- The three last calls of a presentation that was granted, and what else the log has before
the first of them, between them, and after the last. -/
structure Grant (l : Ledger) (c : Claims) (n : Nat) (log : List Event) where
  early : List Event
  asked : Instant
  middle : List Event
  checked : Instant
  late : List Event
  claimed : Instant
  value : SignedWord
  rest : List Event
  two : value.toInt = 2
  whole : log = early ++ .called asked n
      ⟨.currentVersion c.subject, some (.ok (some c.version))⟩ ::
    (middle ++ .called checked n ⟨.isLocked c.subject, some (.ok false)⟩ ::
      (late ++ .called claimed n ⟨.increment (l.key c.tokenId), some (.ok (some value))⟩ :: rest))

namespace Grant

def untilCheck (g : Grant l c n log) : List Event :=
  g.early ++ .called g.asked n ⟨.currentVersion c.subject, some (.ok (some c.version))⟩ :: g.middle

/-- The log when the presentation claims the token. -/
def untilClaim (g : Grant l c n log) : List Event :=
  g.untilCheck ++ .called g.checked n ⟨.isLocked c.subject, some (.ok false)⟩ :: g.late

theorem whole_untilCheck (g : Grant l c n log) : ∃ rest,
    log = g.untilCheck ++ .called g.checked n ⟨.isLocked c.subject, some (.ok false)⟩ :: rest :=
  ⟨_, g.whole.trans (by rw [untilCheck, List.append_assoc, List.cons_append])⟩

theorem untilClaim_eq (g : Grant l c n log) : g.untilClaim =
    g.early ++ (.called g.asked n ⟨.currentVersion c.subject, some (.ok (some c.version))⟩ ::
      g.middle ++ .called g.checked n ⟨.isLocked c.subject, some (.ok false)⟩ :: g.late) := by
  rw [untilClaim, untilCheck, List.append_assoc]

end Grant

/-- A presentation that was granted has made these calls. -/
theorem Sound.grant (s : Sound l v) (h : v.Answered n (.refresh c) (.ok .granted)) :
    Nonempty (Grant l c n v.log) := by
  obtain ⟨t, _, leads⟩ := s.history n _ h
  rcases Operation.decide_cases leads with ⟨_, _, ends⟩ | ⟨_, leads⟩
  · cases ends
  obtain ⟨first, last, calls, account⟩ := Exchange.granted_check leads
  obtain ⟨value, two, rfl⟩ := Exchange.granted_checkAccount account
  obtain ⟨early, asked, later, log, _, calls⟩ := callsOf_split calls
  obtain ⟨middle, checked, later, rfl, _, calls⟩ :=
    callsOf_split (show _ = [] ++ _ :: _ from calls)
  obtain ⟨late, claimed, rest, rfl, _, _⟩ := callsOf_split (show _ = [] ++ _ :: _ from calls)
  exact ⟨⟨early, asked, middle, checked, late, claimed, value, rest, two, log⟩⟩

/-- A grant vouches for the account at the moments at which the presentation asked about it:
the account was at the version of the token at the first, and unlocked at the second. When
the token was claimed the account was registered. If it was at another version by then, it
was given one after the first moment, and if it was locked, after the second. -/
theorem granted_as_asked (l : Ledger) (now : Instant) (m : VolatileStore) (d : Directory) :
    ∀ v, Reaches l allowed (start now ⟨.volatile m, d⟩) v →
      ∀ n c, v.Answered n (.refresh c) (.ok .granted) →
        Nonempty (Grant l c n v.log) ∧ ∀ g : Grant l c n v.log,
          (d.replay g.early).currentVersion c.subject = some c.version ∧
          (d.replay g.untilCheck).isLocked c.subject = false ∧
          ((d.replay g.untilClaim).record? c.subject).isSome ∧
          ((d.replay g.untilClaim).currentVersion c.subject ≠ some c.version →
            ∃ event ∈ g.middle ++ g.late, event.Renews c.subject) ∧
          ((d.replay g.untilClaim).isLocked c.subject = true →
            ∃ event ∈ g.late, event.Locks c.subject) := by
  intro v reaches n c granted
  have sound : Sound l v := reaches.sound (sound_start _ _)
  refine ⟨sound.grant granted, fun g => ?_⟩
  have version : (d.replay g.early).currentVersion c.subject = some c.version := by
    obtain ⟨services, fault, directory, reply⟩ := reaches.performed g.whole
    rw [← directory]
    exact Except.ok.inj (Option.some.inj reply)
  have unlocked : (d.replay g.untilCheck).isLocked c.subject = false := by
    obtain ⟨rest, whole⟩ := g.whole_untilCheck
    obtain ⟨services, fault, directory, reply⟩ := reaches.performed whole
    rw [← directory]
    exact Except.ok.inj (Option.some.inj reply)
  refine ⟨version, unlocked, ?_, ?_, ?_⟩
  · rw [g.untilClaim_eq, Directory.replay_append]
    apply Directory.registered_replay
    rw [Directory.currentVersion, Option.map_eq_some_iff] at version
    obtain ⟨record, same, _⟩ := version
    rw [same]
    rfl
  · intro other
    rw [g.untilClaim_eq, Directory.replay_append] at other
    obtain ⟨event, member, renews⟩ := Directory.renews_of_replay version other
    refine ⟨event, ?_, renews⟩
    -- The questions of the presentation itself renew nothing.
    rcases List.mem_append.mp member with first | last
    · rcases List.mem_cons.mp first with rfl | between
      · cases renews
      · exact List.mem_append_left _ between
    · rcases List.mem_cons.mp last with rfl | between
      · cases renews
      · exact List.mem_append_right _ between
  · intro locked
    rw [Grant.untilClaim, Directory.replay_append] at locked
    obtain ⟨event, member, locks⟩ := Directory.locks_of_replay unlocked locked
    refine ⟨event, ?_, locks⟩
    rcases List.mem_cons.mp member with rfl | between
    · cases locks
    · exact between

/-- A presentation of the sample token asks about its account. The credentials of the
account are changed after its first question, and the account is locked after the second. -/
def outdated : Traffic :=
  (start (.ofSeconds 0) ⟨.volatile .empty, sampleDirectory⟩).acts .standard
    [.begin 0 (.refresh sampleClaims), .proceed 0 none, .proceed 0 none, .proceed 0 none,
      .proceed 0 none, .change sampleClaims.subject .bump, .proceed 0 none,
      .change sampleClaims.subject .lock]

def outdatedClaim : Traffic := outdated.acts .standard [.proceed 0 none]

theorem outdatedClaim_reached : Reaches .standard (fun _ _ => True)
    (start (.ofSeconds 0) ⟨.volatile .empty, sampleDirectory⟩) outdatedClaim := by
  refine reaches_acts (reaches_acts (.refl _) ?_) ?_
  · exact ⟨trivial, trivial, trivial, trivial, trivial, trivial, trivial, trivial, trivial⟩
  · exact ⟨trivial, trivial⟩

theorem outdatedClaim_granted : outdatedClaim.Answered 0 (.refresh sampleClaims) (.ok .granted) :=
  show outdatedClaim.flights.get? 0 = _ from rfl

/-- At its claim the account is locked, and not at the version of the token. Still it is
granted. -/
theorem granted_to_locked_account :
    Reaches .standard (fun _ _ => True)
      (start (.ofSeconds 0) ⟨.volatile .empty, sampleDirectory⟩) outdatedClaim ∧
    outdated.services.directory.isLocked sampleClaims.subject = true ∧
    outdated.services.directory.currentVersion sampleClaims.subject ≠ some sampleClaims.version ∧
    outdatedClaim.log = outdated.log ++ [.called (.ofSeconds 0) 0
      ⟨.increment (Ledger.standard.key sampleClaims.tokenId), some (.ok (some 2))⟩] ∧
    outdatedClaim.Answered 0 (.refresh sampleClaims) (.ok .granted) :=
  ⟨outdatedClaim_reached, rfl, by decide, rfl, outdatedClaim_granted⟩

/-- Its last three calls, with the changes between them. -/
def outdatedGrant : Grant .standard sampleClaims 0 outdatedClaim.log where
  early := outdated.log.take 4
  asked := .ofSeconds 0
  middle := [.changed (.ofSeconds 0) sampleClaims.subject .bump]
  checked := .ofSeconds 0
  late := [.changed (.ofSeconds 0) sampleClaims.subject .lock]
  claimed := .ofSeconds 0
  value := 2
  rest := []
  two := rfl
  whole := rfl

theorem changed_after_asked :
    (∃ event ∈ outdatedGrant.middle ++ outdatedGrant.late, event.Renews sampleClaims.subject) ∧
      ∃ event ∈ outdatedGrant.late, event.Locks sampleClaims.subject := by
  obtain ⟨_, asked⟩ := granted_as_asked .standard (.ofSeconds 0) .empty sampleDirectory
    outdatedClaim outdatedClaim_reached 0 sampleClaims outdatedClaim_granted
  obtain ⟨_, _, _, version, locked⟩ := asked outdatedGrant
  exact ⟨version (by decide), locked rfl⟩

end Traffic

end RequestGuard
