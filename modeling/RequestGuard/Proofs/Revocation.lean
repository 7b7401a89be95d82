import RequestGuard.Proofs.Traffic.Settled

/-!
# Revocation in memory

Once a logout or an escalation has blacklisted a token in a store in memory, whatever the
store held before, the token stays revoked for the rest of its life. A presentation under
way at that moment may have passed every check, but its increment then finds the floor. One
that begins later is denied at its first call, and so locks nothing.
-/

namespace RequestGuard

namespace Traffic

variable {l : Ledger} {c : Claims} {w v : Traffic} {n : Nat} {later : List Event}
  {allowed : Traffic → Action → Prop}

/-- What can have become of a presentation that began after the revocation. -/
theorem Run.denied_at_once {rest : Option (Program Decision)}
    (r : Run l c.tokenId c.expiresAt allowed w v)
    (settled : Settled l c.tokenId c.expiresAt blacklistFloor.toInt w)
    (new : w.hasBegun n = false) (flight : v.flights.get? n = some ⟨.refresh c, rest⟩) :
    (callsOf n v.log = [] ∧ ∃ next, rest = some (.call (.fetch (l.key c.tokenId)) next)) ∨
      ∃ value, blacklistFloor.toInt ≤ value.toInt ∧
        callsOf n v.log = [⟨.fetch (l.key c.tokenId), some (.ok (some value))⟩] ∧
        rest = some (.pure (.denied .blacklisted)) := by
  obtain ⟨ttl, leads⟩ := r.guarded_last.checked flight
  obtain ⟨later, same⟩ := r.reaches.log_grows
  have calls : callsOf n v.log = callsOf n later := by
    rw [same, callsOf_append, r.guarded.sound.callsOf_eq_nil new, List.nil_append]
  refine Exchange.blacklisted_at_once leads fun reply made => ?_
  rw [calls] at made
  obtain ⟨t, called⟩ := mem_callsOf.mp made
  exact r.fetch_shows settled (Int.le_refl _) same called

/-- Revocation is final. After the blacklist write, no presentation is granted whose
increment comes later, and one that begins later is denied as blacklisted after a single
fetch: either it has made no call yet, and the next one ends it, or it has made this one. -/
theorem revocation_final_in_memory (l : Ledger) (c : Claims) (now : Instant) (m : VolatileStore)
    (directory : Directory) (early : now < c.expiresAt) :
    ∀ w, Reaches l (Regular c.tokenId c.expiresAt) (start now ⟨.volatile m, directory⟩) w →
      ∀ k, Revoked l c.tokenId w.log k →
      ∀ v, Reaches l (Regular c.tokenId c.expiresAt) w v →
      (∀ later, v.log = w.log ++ later → ∀ t n reply,
        Event.called t n ⟨.increment (l.key c.tokenId), reply⟩ ∈ later →
        ¬ v.Answered n (.refresh c) (.ok .granted)) ∧
      (∀ n rest, w.hasBegun n = false → v.flights.get? n = some ⟨.refresh c, rest⟩ →
        (callsOf n v.log = [] ∧ ∀ fault,
          (v.act l (.proceed n fault)).Answered n (.refresh c) (.ok (.denied .blacklisted)) ∧
          ∃ value, callsOf n (v.act l (.proceed n fault)).log =
            [⟨.fetch (l.key c.tokenId), some (.ok (some value))⟩]) ∨
        (∃ value, callsOf n v.log = [⟨.fetch (l.key c.tokenId), some (.ok (some value))⟩]) ∧
          v.Answered n (.refresh c) (.ok (.denied .blacklisted))) := by
  intro w first k revoked v second
  have r₀ : Run l c.tokenId c.expiresAt _ (start now ⟨.volatile m, directory⟩) w :=
    ⟨first, fun _ _ ok => ok, guarded_start early trivial⟩
  have settled := r₀.settled_of_revoked (List.nil_append _).symm revoked
  have r : Run l c.tokenId c.expiresAt _ w v := ⟨second, fun _ _ ok => ok, r₀.guarded_last⟩
  refine ⟨fun later same t n reply called => r.not_granted_of_increment settled same called,
    fun n rest new flight => ?_⟩
  rcases r.denied_at_once settled new flight with ⟨none, next, rfl⟩ | ⟨value, _, calls, rfl⟩
  · refine .inl ⟨none, fun fault => ?_⟩
    have r' : Run l c.tokenId c.expiresAt _ w (v.act l (.proceed n fault)) :=
      ⟨.act second trivial, fun _ _ ok => ok, r₀.guarded_last⟩
    have moves : v.act l (.proceed n fault) = v.call n fault (.refresh c) _ next := by
      simp only [act, flight]
    obtain ⟨rest, flight'⟩ : ∃ rest,
        (v.act l (.proceed n fault)).flights.get? n = some ⟨.refresh c, rest⟩ :=
      ⟨_, by rw [moves, call, Table.get?_insert, if_pos rfl]⟩
    rcases r'.denied_at_once settled new flight' with ⟨none', _⟩ | ⟨value, _, calls, ends⟩
    · rw [moves, call_log, callsOf_called_self] at none'
      cases List.append_eq_nil_iff.mp none' |>.2
    · refine ⟨?_, value, calls⟩
      rw [Answered, flight', ends]
      rfl
  · exact .inr ⟨⟨value, calls⟩, flight⟩

def afterLogout : Traffic :=
  (start (.ofSeconds 0) ⟨.volatile .empty, sampleDirectory⟩).acts .standard
    [.begin 0 (.refresh sampleClaims), .proceed 0 none, .proceed 0 none, .proceed 0 none,
      .proceed 0 none, .proceed 0 none, .begin 1 (.logout sampleClaims), .proceed 1 none]

def longAfterLogout : Traffic :=
  afterLogout.acts .standard
    [.proceed 0 none, .begin 2 (.refresh sampleClaims), .proceed 2 none]

theorem late_presentations_denied :
    (callsOf 0 longAfterLogout.log).length = 6 ∧
      ¬ longAfterLogout.Answered 0 (.refresh sampleClaims) (.ok .granted) ∧
      longAfterLogout.Answered 2 (.refresh sampleClaims) (.ok (.denied .blacklisted)) := by
  have first : Reaches .standard (Regular sampleClaims.tokenId sampleClaims.expiresAt)
      (start (.ofSeconds 0) ⟨.volatile .empty, sampleDirectory⟩) afterLogout :=
    reaches_acts (.refl _) ⟨fun _ => rfl, trivial, trivial, trivial, trivial, trivial,
      fun _ => rfl, trivial, trivial⟩
  have second : Reaches .standard (Regular sampleClaims.tokenId sampleClaims.expiresAt)
      afterLogout longAfterLogout :=
    reaches_acts (.refl _) ⟨trivial, fun _ => rfl, trivial, trivial⟩
  have revoked : Revoked .standard sampleClaims.tokenId afterLogout.log 1 :=
    ⟨.ofSeconds 0, blacklistFloor, .ofSeconds 60, List.mem_of_getLast? rfl⟩
  obtain ⟨counting, beginning⟩ := revocation_final_in_memory .standard sampleClaims (.ofSeconds 0)
    .empty sampleDirectory (by decide) afterLogout first 1 revoked longAfterLogout second
  refine ⟨rfl, counting (longAfterLogout.log.drop 8) rfl (.ofSeconds 0) 0 _ List.mem_cons_self, ?_⟩
  rcases beginning 2 _ rfl rfl with ⟨none, _⟩ | ⟨_, denied⟩
  · cases none
  · exact denied

end Traffic

end RequestGuard
