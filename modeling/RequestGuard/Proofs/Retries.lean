import RequestGuard.Proofs.Durability
import RequestGuard.Proofs.Traffic.Accounted
import RequestGuard.Proofs.Traffic.Sequential

/-!
# Presenting a token again

A presentation may fail at any of its calls, and be tried again. The store on disk keeps in
memory what it could not persist, so a failed call may have left its mark. A record of the first
use that failed does no harm, since the next presentation takes it for its own. The increment by
which a presentation claims its token does: the counter says two, nobody was granted, and the
next presentation is a replay by that counter.

Hence a replay among presentations that come one after the other has one of two causes, both
before it began: a presentation that was granted, or one whose claim has failed.
-/

namespace RequestGuard

namespace Traffic

variable {l : Ledger} {id : TokenId} {c : Claims} {allowed : Traffic → Action → Prop}
  {w v : Traffic} {n k : Nat} {log : List Event}

/-- What may happen while a living token is presented again and again, each time when the last
presentation has ended. The medium of the store may fail, and accounts may change. -/
def Retried (c : Claims) (w : Traffic) : Action → Prop
  | .wait now => w.now ≤ now ∧ now < c.expiresAt
  | .begin _ o => o = .refresh c ∧ Idle w
  | .proceed _ _ | .change _ _ => True

/-- The increment by which a flight was to claim a token has failed. -/
def ClaimFailed (l : Ledger) (id : TokenId) (log : List Event) (f : Nat) : Prop :=
  ∃ t e, Event.called t f ⟨.increment (l.key id), some (.error e)⟩ ∈ log

/-- A flight has claimed a token, or failed to. -/
def Attempted (l : Ledger) (id : TokenId) (log : List Event) (f : Nat) : Prop :=
  Claimed l id log f ∨ ClaimFailed l id log f

/-- A counter is positive, and beyond one only after an attempt to claim its token. -/
def Explained (l : Ledger) (id : TokenId) (log : List Event) (es : Entries) : Prop :=
  ∀ e, es.get? (l.key id) = some e →
    0 < e.value.toInt ∧ (1 < e.value.toInt → ∃ f, Attempted l id log f)

/-- Nothing but presentations has begun, and every counter beyond one, be it in memory, in the
snapshot or in a reply, comes from an attempt to claim the token. -/
structure Retrying (l : Ledger) (c : Claims) (w : Traffic) : Prop where
  begun : ∀ t n o, Event.begun t n o ∈ w.log → o = .refresh c
  held : w.services.store.Holds (Explained l c.tokenId w.log)
  shown : ∀ t n made, Event.called t n made ∈ w.log →
    Exchange.Overused (l.key c.tokenId) [made] → ∃ f, Attempted l c.tokenId w.log f

theorem Retried.regular {a : Action} (h : Retried c w a) : Regular c.tokenId c.expiresAt w a := by
  cases a with
  | wait now => exact h
  | begin n o =>
      intro _
      obtain ⟨rfl, _⟩ := h
      exact rfl
  | proceed | change => trivial

theorem Attempted.append (h : Attempted l id log k) (later : List Event) :
    Attempted l id (log ++ later) k := by
  obtain claimed | ⟨t, e, called⟩ := h
  · exact .inl (claimed.mono (List.subset_append_left _ _))
  · exact .inr ⟨t, e, List.mem_append_left _ called⟩

/-- An attempt of another flight was made before a stretch of calls. -/
theorem Attempted.before {earlier later : List Event} {t : Instant} {o : Operation}
    (h : Attempted l id (earlier ++ .begun t n o :: later) k) (other : k ≠ n)
    (calls : ∀ t' m made, Event.called t' m made ∈ later → m = n) :
    Attempted l id earlier k := by
  have first : ∀ {t' made}, Event.called t' k made ∈ earlier ++ .begun t n o :: later →
      Event.called t' k made ∈ earlier := by
    intro t' made called
    rcases List.mem_append.mp called with old | new
    · exact old
    · rcases List.mem_cons.mp new with head | tail
      · cases head
      · exact absurd (calls t' k made tail) other
  obtain ⟨t', value, called, two⟩ | ⟨t', e, called⟩ := h
  · exact .inl ⟨t', value, first called, two⟩
  · exact .inr ⟨t', e, first called⟩

theorem Explained.append {es : Entries} (h : Explained l id log es) (later : List Event) :
    Explained l id (log ++ later) es := by
  intro e got
  obtain ⟨positive, attempted⟩ := h e got
  refine ⟨positive, fun high => ?_⟩
  obtain ⟨f, attempt⟩ := attempted high
  exact ⟨f, attempt.append later⟩

namespace Retrying

theorem attempted (r : Retrying l c w)
    (overused : Exchange.Overused (l.key c.tokenId) (callsOf n w.log)) :
    ∃ f, Attempted l c.tokenId w.log f := by
  obtain ⟨made, member, reason⟩ := Exchange.overused_iff.mp overused
  obtain ⟨t, called⟩ := mem_callsOf.mp member
  exact r.shown t n made called reason

/-- Whatever calls, it is a presentation, and its call rests on its history. -/
theorem stage (r : Retrying l c w) (s : Sound l w) {o : Operation} {x : Call}
    {next : x.Answer → Program o.Answer}
    (coming : w.flights.get? n = some ⟨o, some (.call x next)⟩) :
    o = .refresh c ∧ ∃ ttl, Exchange.Stage l c ttl (callsOf n w.log) x := by
  obtain ⟨t, begun, leads⟩ := s.history n _ coming
  cases r.begun t n o begun
  exact ⟨rfl, _, (Operation.stage_of_leads leads).2⟩

/-- A call leaves no counter without an attempt that explains it. -/
theorem held_call (r : Retrying l c w) (s : Sound l w) {o : Operation} {x : Call}
    {next : x.Answer → Program o.Answer}
    (coming : w.flights.get? n = some ⟨o, some (.call x next)⟩) {reply : Option x.Reply}
    {store : Store} (turn : w.services.store.Turn w.now x reply store) :
    store.Holds (Explained l c.tokenId (w.log ++ [.called w.now n ⟨x, reply⟩])) := by
  obtain ⟨rfl, ttl, stage⟩ := r.stage s coming
  refine turn.holds ?_ ?_ (r.held.imp fun es explained => explained.append _)
  · intro base swept explained e got
    exact explained e (swept.get?_eq got)
  · intro base key e writes swept explained e' got
    rw [Table.get?_insert] at got
    by_cases own : key = l.key c.tokenId
    · rw [if_pos own] at got
      cases got
      cases writes with
      | insert positive ends =>
          cases stage with
          | invalidate overused =>
              obtain ⟨f, attempt⟩ := r.attempted overused
              have floor : 0 < blacklistFloor.toInt := by decide
              exact ⟨floor, fun _ => ⟨f, attempt.append _⟩⟩
      | insertIfAbsent positive absent ends =>
          cases stage with
          | record => exact ⟨Int.zero_lt_one, fun high => absurd high (Int.lt_irrefl 1)⟩
      | @increment _ before value live moved =>
          cases own
          have one := SignedWord.toInt_of_succ? moved
          obtain ⟨positive, attempted⟩ := explained before (Entries.live?_eq_some_iff.mp live).1
          have more : 0 < value.toInt := by omega
          refine ⟨more, fun _ => ?_⟩
          by_cases high : 1 < before.value.toInt
          · exact attempted high
          · have last := List.mem_append_right w.log (List.mem_singleton_self
              (Event.called w.now n ⟨.increment (l.key c.tokenId), reply⟩))
            obtain rfl | ⟨f, rfl⟩ := turn.increment_replies live moved
            · exact ⟨n, .inl ⟨w.now, value, last, by omega⟩⟩
            · exact ⟨n, .inr ⟨w.now, f, last⟩⟩
    · rw [if_neg own] at got
      exact explained e' (swept.get?_eq got)

theorem step {a : Action} (r : Retrying l c w) (g : Guarded l c.tokenId c.expiresAt w)
    (step : Step l w a v) (ok : Retried c w a) : Retrying l c v := by
  -- An event that is no call explains what was explained.
  have held : ∀ event, w.services.store.Holds (Explained l c.tokenId (w.log ++ [event])) :=
    fun event => r.held.imp fun es explained => explained.append [event]
  have still : ∀ {event : Event} {t n made}, Event.called t n made ∈ w.log →
      Exchange.Overused (l.key c.tokenId) [made] →
        ∃ f, Attempted l c.tokenId (w.log ++ [event]) f := by
    intro event t n made called overused
    obtain ⟨f, attempt⟩ := r.shown t n made called overused
    exact ⟨f, attempt.append _⟩
  cases step with
  | wait | nothing => exact ⟨r.begun, r.held, r.shown⟩
  | changed account change =>
      refine ⟨fun t n o begun => r.begun t n o (by simpa using begun), held _, ?_⟩
      intro t n made called
      exact still (by simpa using called)
  | begun o new =>
      refine ⟨fun t n o' begun => ?_, held _, ?_⟩
      · rcases List.mem_append.mp begun with old | now
        · exact r.begun t n o' old
        · cases List.mem_singleton.mp now
          exact ok.1
      · intro t n made called
        exact still (by simpa using called)
  | @called n fault o x next coming =>
      have turn := g.turn n fault o x next
      refine ⟨fun t m o' begun => r.begun t m o' (by simpa [call] using begun),
        r.held_call g.sound coming turn, fun t m made called overused => ?_⟩
      rcases List.mem_append.mp called with old | new
      · exact still old overused
      · cases List.mem_singleton.mp new
        obtain ⟨e, got, high⟩ :=
          turn.high_of_overused (fun e got => (r.held.1 e got).1) overused
        obtain ⟨f, attempt⟩ := (r.held.1 e got).2 high
        exact ⟨f, attempt.append _⟩

theorem reaches (r : Retrying l c w) (g : Guarded l c.tokenId c.expiresAt w)
    (run : Reaches l (Retried c) w v) : Retrying l c v := by
  induction run with
  | refl => exact r
  | act before ok ih =>
      exact ih.step (g.reaches before fun _ _ => Retried.regular) (act_step _) ok
  | @restart u s s' d d' directory before held opened ih =>
      have placed := (g.reaches before fun _ _ => Retried.regular).placed
      have explained := ih.held
      rw [held] at placed explained
      refine ⟨ih.begun, (Store.holds_load placed opened ?_ explained).1, ih.shown⟩
      intro es base swept explained e got
      exact explained e (swept.get?_eq got)

/-- At a call of a presentation that has found its token overused, an attempt to claim the token
was made before the presentation began. -/
theorem attempted_before (r : Retrying l c w) (turns : InTurn w) (s : Sound l w) {o : Operation}
    {x : Call} {next : x.Answer → Program o.Answer}
    (coming : w.flights.get? n = some ⟨o, some (.call x next)⟩)
    (overused : Exchange.Overused (l.key c.tokenId) (callsOf n w.log)) :
    ∃ earlier t later, w.log = earlier ++ .begun t n (.refresh c) :: later ∧
      ∃ f, Attempted l c.tokenId earlier f := by
  obtain ⟨rfl, _⟩ := r.stage s coming
  obtain ⟨f, attempt⟩ := r.attempted overused
  have other : f ≠ n := by
    rintro rfl
    obtain claimed | ⟨t, e, failed⟩ := attempt
    · cases coming.symm.trans (s.granted_of_claimed coming claimed)
    · obtain ⟨_, _, leads⟩ := s.history f _ coming
      cases leads.eq_fail (mem_callsOf.mpr ⟨t, failed⟩)
  obtain ⟨earlier, t, later, log, calls⟩ := turns.stretch n _ coming rfl
  exact ⟨earlier, t, later, log, f, (log ▸ attempt).before other calls⟩

end Retrying

/-- The setting of presentations that are tried again: a run that began with an empty log, at a
gate whose store explains the counter of the token. -/
structure RetryRun (l : Ledger) (c : Claims) (w v : Traffic) : Prop where
  run : Run l c.tokenId c.expiresAt (Retried c) w v
  new : w.log = []
  retrying : Retrying l c w
  turns : InTurn w

namespace RetryRun

theorem upTo {made : Made} (h : RetryRun l c w v) (m : Moment l (Retried c) w v n made) :
    RetryRun l c w m.before :=
  ⟨h.run.until m, h.new, h.retrying, h.turns⟩

theorem retrying_last (h : RetryRun l c w v) : Retrying l c v :=
  h.retrying.reaches h.run.guarded h.run.reaches

theorem turns_last (h : RetryRun l c w v) : InTurn v :=
  h.turns.reaches h.run.reaches fun _ _ _ ok => ok.2

/-- Whoever has claimed the token was granted, and stays so. -/
theorem granted_of_claimed (h : RetryRun l c w v) (claimed : Claimed l c.tokenId v.log k) :
    v.Answered k (.refresh c) (.ok .granted) := by
  obtain ⟨t, value, called, two⟩ := claimed
  obtain ⟨m, _⟩ := h.run.reaches.moment_of_mem h.new called
  have own : m.operation = .refresh c :=
    ((h.upTo m).retrying_last.stage (h.upTo m).run.guarded_last.sound m.coming).1
  have flight : ∃ rest, m.after.flights.get? k = some ⟨m.operation, rest⟩ :=
    ⟨_, (Table.get?_insert _ _ _ _).trans (if_pos rfl)⟩
  rw [own] at flight
  obtain ⟨rest, flight⟩ := flight
  have sound := (h.run.after m).guarded.sound
  have granted := sound.granted_of_claimed flight
    ⟨_, value, m.log_after ▸ List.mem_append_right _ (List.mem_singleton_self _), two⟩
  exact granted.reaches sound m.onward

/-- If a presentation locks the account or blacklists the token, there was an attempt to claim
the token before it began. -/
theorem attempted_before_call (h : RetryRun l c w v) {t : Instant} {x : Call}
    {reply : Option x.Reply} (called : Event.called t n ⟨x, reply⟩ ∈ v.log)
    (escalates : x = .lock c.subject ∨
      ∃ value ttl, x = .insert (l.key c.tokenId) value ttl) :
    ∃ earlier t later, v.log = earlier ++ .begun t n (.refresh c) :: later ∧
      ∃ f, Attempted l c.tokenId earlier f := by
  obtain ⟨m, _⟩ := h.run.reaches.moment_of_mem h.new called
  obtain ⟨rest, log⟩ := m.log_split
  have g := (h.upTo m).run.guarded_last
  obtain ⟨own, ttl, stage⟩ := (h.upTo m).retrying_last.stage g.sound m.coming
  have overused : Exchange.Overused (l.key c.tokenId) (callsOf n m.before.log) := by
    cases stage with
    | lock overused | invalidate overused => exact overused
    | fetch | record | version | locked | claim =>
        obtain same | ⟨value, ttl, same⟩ := escalates
        · cases same
        · cases same
  obtain ⟨earlier, t, later, before, attempt⟩ :=
    (h.upTo m).retrying_last.attempted_before (h.upTo m).turns_last g.sound m.coming overused
  refine ⟨earlier, t, later ++ .called m.before.now n ⟨x, reply⟩ :: rest, ?_, attempt⟩
  rw [log, before, List.append_assoc, List.cons_append]

end RetryRun

/-- Among presentations of one token that come one after the other, the medium failing or not and
the process stopping or not, none locks the account or is denied as a replay, unless before it
began one was granted, or one has failed at the increment by which it was to claim the token. -/
theorem replay_after_grant_or_failed_claim (l : Ledger) (c : Claims) {now : Instant}
    {s : DurableStore} {d : Disk} (directory : Directory) (placed : s.Placed d)
    (early : now < c.expiresAt)
    (unclaimed : (Store.durable s d).Holds fun es =>
      ∀ e, es.get? (l.key c.tokenId) = some e → e.value = 1) :
    ∀ v, Reaches l (Retried c) (start now ⟨.durable s d, directory⟩) v → ∀ n,
      ((∃ t reply, Event.called t n ⟨.lock c.subject, reply⟩ ∈ v.log) ∨
        v.Answered n (.refresh c) (.ok (.denied .replay))) →
      ∃ earlier t later, v.log = earlier ++ .begun t n (.refresh c) :: later ∧
        ((∃ k, Claimed l c.tokenId earlier k ∧ v.Answered k (.refresh c) (.ok .granted)) ∨
          ∃ k, ClaimFailed l c.tokenId earlier k) := by
  intro v reaches n escalated
  have h : RetryRun l c (start now ⟨.durable s d, directory⟩) v := by
    refine ⟨⟨reaches, fun _ _ => Retried.regular, guarded_start early placed⟩, rfl, ?_,
      inTurn_start _ _⟩
    refine ⟨fun t m o begun => (nomatch begun), unclaimed.imp ?_,
      fun t m made called => (nomatch called)⟩
    intro es one e got
    rw [one e got]
    exact ⟨Int.zero_lt_one, fun high => absurd high (Int.lt_irrefl 1)⟩
  have attempted : ∃ earlier t later, v.log = earlier ++ .begun t n (.refresh c) :: later ∧
      ∃ f, Attempted l c.tokenId earlier f := by
    obtain ⟨t, reply, called⟩ | replay := escalated
    · exact h.attempted_before_call called (.inl rfl)
    · obtain ⟨t, value, ttl, called⟩ := h.run.guarded_last.sound.revoked_of_replay replay
      exact h.attempted_before_call called (.inr ⟨value, ttl, rfl⟩)
  obtain ⟨earlier, t, later, log, k, claimed | failed⟩ := attempted
  · have claimed' : Claimed l c.tokenId v.log k :=
      claimed.mono (log ▸ List.subset_append_left _ _)
    exact ⟨earlier, t, later, log, .inl ⟨k, claimed, h.granted_of_claimed claimed'⟩⟩
  · exact ⟨earlier, t, later, log, .inr ⟨k, failed⟩⟩

def afterRetry : Traffic :=
  atCrash.acts .standard
    [.begin 1 (.refresh sampleClaims), .proceed 1 none, .proceed 1 none, .proceed 1 none,
      .proceed 1 none]

theorem afterRetry_reached : Reaches .standard (Retried sampleClaims) beforeCrash afterRetry := by
  have first : Reaches .standard (Retried sampleClaims) beforeCrash atCrash := by
    refine reaches_acts (.refl _) ⟨⟨rfl, ?_⟩, trivial, trivial, trivial, trivial, trivial, trivial,
      trivial⟩
    intro n f got
    cases got
  refine reaches_acts first ⟨⟨rfl, ?_⟩, trivial, trivial, trivial, trivial, trivial⟩
  intro n f got
  match n with
  | 0 =>
      cases got
      rfl
  | n + 1 => cases got

theorem afterRetry_replay :
    afterRetry.Answered 1 (.refresh sampleClaims) (.ok (.denied .replay)) :=
  show afterRetry.flights.get? 1 = _ from rfl

/-- The second presentation is denied as a replay, and the account locked, but nobody was
granted. -/
theorem locked_without_grant :
    Reaches .standard (Retried sampleClaims) beforeCrash afterRetry ∧
    afterRetry.Answered 1 (.refresh sampleClaims) (.ok (.denied .replay)) ∧
    afterRetry.services.directory.isLocked sampleClaims.subject = true ∧
    ∀ k, ¬ afterRetry.Answered k (.refresh sampleClaims) (.ok .granted) := by
  refine ⟨afterRetry_reached, afterRetry_replay, rfl, fun k granted => ?_⟩
  unfold Answered at granted
  match k with
  | 0 => cases granted
  | 1 => cases granted
  | k + 2 => cases granted

theorem replay_after_failed_claim :
    ∃ earlier t later, afterRetry.log = earlier ++ .begun t 1 (.refresh sampleClaims) :: later ∧
      ((∃ k, Claimed .standard sampleClaims.tokenId earlier k ∧
        afterRetry.Answered k (.refresh sampleClaims) (.ok .granted)) ∨
        ∃ k, ClaimFailed .standard sampleClaims.tokenId earlier k) := by
  have placed : blankStore.Placed (.empty "disk") := ⟨by decide, rfl⟩
  refine replay_after_grant_or_failed_claim .standard sampleClaims sampleDirectory placed
    (by decide) ⟨?_, .empty, rfl, ?_⟩ afterRetry afterRetry_reached 1 (.inr afterRetry_replay)
  · intro e got
    cases got
  · intro e got
    cases got

end Traffic

end RequestGuard
