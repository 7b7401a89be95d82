import RequestGuard.Proofs.Store.Counter
import RequestGuard.Proofs.Traffic.Calls
import RequestGuard.Proofs.Traffic.Sound

/-!
# Traffic while a token lives

The setting of the guarantees about one token: the clock does not go back and does not
reach the expiry of the token, and whoever presents the token or logs it out agrees on that
expiry. Nothing is assumed of other tokens, of the accounts, of the order of calls, or of
the medium of the store.

In this setting every call at the gate respects the counter of the token. So a counter that
was settled once in the store stays settled, and the calls after that moment show it.
-/

namespace RequestGuard

namespace Traffic

/-- What may happen while a token lives. -/
def Regular (id : TokenId) (expiry : Instant) (w : Traffic) : Action → Prop
  | .wait now => w.now ≤ now ∧ now < expiry
  | .begin _ o => o.tokenId = id → o.Presents expiry
  | .proceed _ _ | .change _ _ => True

/-- What holds at a gate as long as everything that happens is regular. -/
structure Guarded (l : Ledger) (id : TokenId) (expiry : Instant) (w : Traffic) : Prop where
  sound : Sound l w
  early : w.now < expiry
  placed : w.services.store.Placed
  begun : ∀ t n o, Event.begun t n o ∈ w.log → t ≤ w.now ∧ (o.tokenId = id → o.Presents expiry)

/-- The counter of a token is at least `n` up to its expiry, also after a restart. -/
def Settled (l : Ledger) (id : TokenId) (expiry : Instant) (n : Int) (w : Traffic) : Prop :=
  w.services.store.Holds (Entries.Counts (l.key id) expiry n)

variable {l : Ledger} {id : TokenId} {expiry : Instant} {allowed : Traffic → Action → Prop}
  {w v : Traffic}

theorem guarded_start {now : Instant} {services : Services} (early : now < expiry)
    (placed : services.store.Placed) : Guarded l id expiry (start now services) where
  sound := sound_start now services
  early := early
  placed := placed
  begun := by
    intro t n o h
    cases h

namespace Guarded

/-- A call that a flight has come to respects the counter of the token. -/
theorem respects (g : Guarded l id expiry w) {n : Nat} {o : Operation} {c : Call}
    {next : c.Answer → Program o.Answer}
    (coming : w.flights.get? n = some ⟨o, some (.call c next)⟩) :
    c.Respects (l.key id) expiry w.now := by
  obtain ⟨t, begun, leads⟩ := g.sound.history n _ coming
  obtain ⟨before, presents⟩ := g.begun t n o begun
  by_cases own : o.tokenId = id
  · subst own
    exact Operation.call_respects leads (presents rfl) before
  · refine Call.respects_of_key? fun about => own ?_
    exact (l.key_injective (Operation.call_key leads about)).symm

/-- What has begun has begun before the expiry. -/
theorem begun_early (g : Guarded l id expiry w) {t : Instant} {n : Nat} {o : Operation}
    (begun : Event.begun t n o ∈ w.log) : t < expiry :=
  Instant.lt_of_le_of_lt (g.begun t n o begun).1 g.early

/-- A presentation of a living token is not denied as expired, but checked. -/
theorem checked {c : Claims} (g : Guarded l c.tokenId c.expiresAt w) {n : Nat}
    {rest : Option (Program Decision)} (flight : w.flights.get? n = some ⟨.refresh c, rest⟩) :
    ∃ ttl, Program.Leads (some (Exchange.check l c ttl)) (callsOf n w.log) rest := by
  obtain ⟨t, begun, leads⟩ := g.sound.history n _ flight
  rcases Operation.decide_cases leads with ⟨late, _⟩ | ⟨_, leads⟩
  · exact absurd (g.begun_early begun) (Instant.not_lt.mpr late)
  · exact ⟨_, leads⟩

/-- The call of a flight goes in one of the known ways. -/
theorem turn (g : Guarded l id expiry w) (n : Nat) (fault : Option WriteFault) (o : Operation)
    (c : Call) (next : c.Answer → Program o.Answer) :
    w.services.store.Turn w.now c (w.services.perform w.now fault c).1
      (w.call n fault o c next).services.store :=
  (Services.perform_turn g.placed c).1

theorem step {a : Action} (g : Guarded l id expiry w) (regular : Regular id expiry w a)
    (step : Step l w a v) : Guarded l id expiry v := by
  have sound := g.sound.step step
  cases step with
  | nothing => exact g
  | wait now =>
      refine ⟨sound, regular.2, g.placed, fun t n o begun => ?_⟩
      obtain ⟨before, presents⟩ := g.begun t n o begun
      exact ⟨Int.le_trans before regular.1, presents⟩
  | changed account change =>
      exact ⟨sound, g.early, g.placed, fun t n o begun => g.begun t n o (by simpa using begun)⟩
  | begun o new =>
      refine ⟨sound, g.early, g.placed, fun t n o' begun => ?_⟩
      rcases List.mem_append.mp begun with old | now
      · exact g.begun t n o' old
      · cases List.mem_singleton.mp now
        exact ⟨Int.le_refl _, regular⟩
  | called coming =>
      refine ⟨sound, g.early, (Services.perform_turn g.placed _).2, fun t n o begun => ?_⟩
      exact g.begun t n o (by simpa [call] using begun)

theorem restart {s s' : DurableStore} {d d' : Disk} (g : Guarded l id expiry w)
    (directory : Directory) (held : w.services.store = .durable s d)
    (opened : DurableStore.load s.location w.now d = (.ok s', d')) :
    Guarded l id expiry (w.restart ⟨.durable s' d', directory⟩) := by
  have placed := g.placed
  rw [held] at placed
  obtain ⟨location, placed'⟩ := DurableStore.placed_of_load placed.apart opened
  exact ⟨g.sound.restart _, g.early, placed', g.begun⟩

theorem reaches (g : Guarded l id expiry w) (r : Reaches l allowed w v)
    (regular : ∀ u a, allowed u a → Regular id expiry u a) : Guarded l id expiry v := by
  induction r with
  | refl => exact g
  | act _ ok ih => exact ih.step (regular _ _ ok) (act_step _)
  | restart directory _ held opened ih => exact ih.restart directory held opened

end Guarded

/-- What a store holds through every regular call and every restart, the traffic keeps. -/
theorem holds_reaches {P : Entries → Prop} (r : Reaches l allowed w v)
    (regular : ∀ u a, allowed u a → Regular id expiry u a) (g : Guarded l id expiry w)
    (swept : ∀ now es base, now < expiry → Entries.Swept now es base → P es → P base)
    (turn : ∀ {now} {s s' : Store} {c : Call} {reply : Option c.Reply}, s.Turn now c reply s' →
      c.Respects (l.key id) expiry now → now < expiry → s.Holds P → s'.Holds P)
    (h : w.services.store.Holds P) : v.services.store.Holds P := by
  induction r with
  | refl => exact h
  | @act u a before ok ih =>
      have g' := g.reaches before regular
      have step := act_step (l := l) (w := u) a
      revert step
      generalize u.act l a = u'
      intro step
      cases step with
      | wait | begun | changed | nothing => exact ih
      | called coming => exact turn (g'.turn _ _ _ _ _) (g'.respects coming) g'.early ih
  | @restart u s s' d d' directory before held opened ih =>
      have g' := g.reaches before regular
      have placed := g'.placed
      rw [held] at placed ih
      exact (Store.holds_load placed opened (fun es base => swept _ es base g'.early) ih).1

/-- A settled counter stays settled. -/
theorem Settled.reaches {n : Int} (h : Settled l id expiry n w) (g : Guarded l id expiry w)
    (low : n ≤ blacklistFloor.toInt) (r : Reaches l allowed w v)
    (regular : ∀ u a, allowed u a → Regular id expiry u a) : Settled l id expiry n v :=
  holds_reaches r regular g (fun _ _ _ early swept => swept.counts early)
    (fun turn respects early => turn.counts respects early low) h

theorem outlives_reaches (r : Reaches l allowed w v)
    (regular : ∀ u a, allowed u a → Regular id expiry u a) (g : Guarded l id expiry w)
    (h : w.services.store.Holds (Entries.Outlives (l.key id) expiry)) :
    v.services.store.Holds (Entries.Outlives (l.key id) expiry) :=
  holds_reaches r regular g (fun _ _ _ _ swept => swept.outlives)
    (fun turn respects _ => turn.outlives respects) h

end Traffic

end RequestGuard
