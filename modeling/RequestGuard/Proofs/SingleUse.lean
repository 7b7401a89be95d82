import RequestGuard.Proofs.Traffic.Unclaimed

/-!
# Single use in memory

Over a store in memory that starts empty, a token is granted at most once while it lives,
however its presentations and logouts interleave with each other and with all else that
goes on at the gate. Left undisturbed, it is claimed exactly once by the time one of its
presentations has come to an answer.
-/

namespace RequestGuard

namespace Traffic

variable {l : Ledger} {id : TokenId} {expiry : Instant} {allowed : Traffic → Action → Prop}
  {c : Claims} {w v : Traffic} {n : Nat}

/-- All flights are operations that were allowed to begin. -/
theorem Reaches.begun_of {Q : Operation → Prop} (r : Reaches l allowed w v)
    (ok : ∀ u n o, allowed u (.begin n o) → Q o)
    (old : ∀ t n o, Event.begun t n o ∈ w.log → Q o) :
    ∀ t n o, Event.begun t n o ∈ v.log → Q o := by
  induction r with
  | refl => exact old
  | restart _ _ _ _ ih => exact ih
  | @act u a _ allowed ih =>
      have step := act_step (l := l) (w := u) a
      revert step
      generalize u.act l a = u'
      intro step t n o begun
      cases step with
      | wait | nothing => exact ih t n o begun
      | changed => exact ih t n o (by simpa using begun)
      | called => exact ih t n o (by simpa [call_log] using begun)
      | begun o' new =>
          rcases List.mem_append.mp begun with earlier | now
          · exact ih t n o earlier
          · cases List.mem_singleton.mp now
            exact ok u n o allowed

/-- Every operation that has begun is still there. -/
def Flying (w : Traffic) : Prop :=
  ∀ t n o, Event.begun t n o ∈ w.log → ∃ f, w.flights.get? n = some f

theorem Flying.step {a : Action} (h : Flying w) (step : Step l w a v) : Flying v := by
  have kept : ∀ {n m : Nat} {f : Flight}, (∃ f', w.flights.get? n = some f') →
      ∃ f', (w.flights.insert m f).get? n = some f' := by
    rintro n m f ⟨f', flight⟩
    rw [Table.get?_insert]
    split
    · exact ⟨_, rfl⟩
    · exact ⟨f', flight⟩
  intro t n o begun
  cases step with
  | wait | nothing => exact h t n o begun
  | changed => exact h t n o (by simpa using begun)
  | called => exact kept (h t n o (by simpa [call_log] using begun))
  | begun o' new =>
      rcases List.mem_append.mp begun with earlier | now
      · exact kept (h t n o earlier)
      · cases List.mem_singleton.mp now
        exact ⟨_, by rw [Table.get?_insert, if_pos rfl]⟩

/-- Without a restart no flight is lost. -/
theorem Reaches.flying (r : Reaches l allowed w v) (volatile : w.services.store.isDurable = false)
    (h : Flying w) : v.services.store.isDurable = false ∧ Flying v := by
  refine ⟨r.volatile volatile, r.induct_volatile volatile h ?_⟩
  intro u a _ _ flying
  exact flying.step (act_step a)

/-- Left undisturbed, a token is unclaimed or has been claimed. -/
theorem Reaches.unclaimed_or (r : Reaches l (Undisturbed c) w v)
    (g : Guarded l c.tokenId c.expiresAt w)
    (lives : w.services.store.Holds (Entries.Outlives (l.key c.tokenId) c.expiresAt))
    (own : ∀ t n o, Event.begun t n o ∈ w.log → o.tokenId = c.tokenId → o = .refresh c)
    (u : Unclaimed l c w) : Unclaimed l c v ∨ ∃ n, Claimed l c.tokenId v.log n := by
  have regular := fun (u : Traffic) (a : Action) => Undisturbed.regular (c := c) (w := u) (a := a)
  induction r with
  | refl => exact .inl u
  | restart directory before held opened ih =>
      rcases ih with still | claimed
      · have volatile := still.volatile
        rw [held] at volatile
        cases volatile
      · exact .inr claimed
  | @act v a before ok ih =>
      rcases ih with still | ⟨n, t, value, called, two⟩
      · exact still.step (g.reaches before regular) (outlives_reaches before regular g lives)
          (before.begun_of (fun _ _ _ ok => ok) own) ok (act_step a)
      · obtain ⟨later, same⟩ := (act_step (l := l) (w := v) a).log_grows
        exact .inr ⟨n, t, value, same ▸ List.mem_append_left _ called, two⟩

/-- As long as a token is unclaimed, no presentation of it has come to an answer. -/
theorem Unclaimed.not_answered (u : Unclaimed l c v) (g : Guarded l c.tokenId c.expiresAt v)
    {r : Except Failure Decision} : ¬ v.Answered n (.refresh c) r := by
  intro h
  obtain ⟨ttl, leads⟩ := g.checked h
  rcases Exchange.goes_on (Exchange.trail_check leads) (u.harmless n _ h) with
    ends | ⟨x, next, same, _⟩
  · cases ends
  · cases r with
    | ok d => cases same
    | error f => cases same

/-- A store in memory that starts empty, while a token lives. -/
private theorem run_in_memory {now : Instant} {directory : Directory} (early : now < expiry)
    (r : Reaches l allowed (start now ⟨.volatile .empty, directory⟩) v)
    (regular : ∀ u a, allowed u a → Regular id expiry u a) :
    Run l id expiry allowed (start now ⟨.volatile .empty, directory⟩) v ∧
      Store.Holds (Entries.Outlives (l.key id) expiry) (.volatile .empty) :=
  ⟨⟨r, regular, guarded_start early trivial⟩, .empty, _, rfl, .empty⟩

theorem unclaimed_start {now : Instant} {directory : Directory}
    (version : directory.currentVersion c.subject = some c.version)
    (unlocked : directory.isLocked c.subject = false) :
    Unclaimed l c (start now ⟨.volatile .empty, directory⟩) where
  volatile := rfl
  one := by
    intro e got
    cases got
  version := version
  unlocked := unlocked
  harmless := by
    intro n rest flight
    cases flight
  recorded := by
    rintro n (⟨v, heard⟩ | ⟨ttl, written, heard⟩)
    · cases heard
    · cases heard

/-- Of the presentations of a token at most one is granted. If the token is left
undisturbed and its account is in order, exactly one of them has claimed it, and is granted,
by the time any of them has come to an answer. -/
theorem granted_once_in_memory (l : Ledger) (c : Claims) (now : Instant) (directory : Directory)
    (early : now < c.expiresAt) :
    (∀ v, Reaches l (Regular c.tokenId c.expiresAt) (start now ⟨.volatile .empty, directory⟩) v →
      ∀ m n, v.Answered m (.refresh c) (.ok .granted) → v.Answered n (.refresh c) (.ok .granted) →
        m = n) ∧
    (directory.currentVersion c.subject = some c.version → directory.isLocked c.subject = false →
      ∀ v, Reaches l (Undisturbed c) (start now ⟨.volatile .empty, directory⟩) v →
        ∀ m r, v.Answered m (.refresh c) r →
          ∃ n, Claimed l c.tokenId v.log n ∧ v.Answered n (.refresh c) (.ok .granted) ∧
            ∀ k, Claimed l c.tokenId v.log k → k = n) := by
  constructor
  · intro v reaches m n first second
    obtain ⟨r, lives⟩ := run_in_memory early reaches fun _ _ ok => ok
    have sound := r.guarded_last.sound
    exact r.claimed_unique (List.nil_append _).symm lives (sound.claimed_of_granted first)
      (sound.claimed_of_granted second)
  · intro version unlocked v reaches m result answered
    obtain ⟨r, lives⟩ := run_in_memory early reaches fun _ _ => Undisturbed.regular
    have g := r.guarded_last
    have own := reaches.begun_of (Q := fun o => o.tokenId = c.tokenId → o = .refresh c)
      (fun _ _ _ ok => ok) nofun
    rcases reaches.unclaimed_or r.guarded lives nofun (unclaimed_start version unlocked) with
      still | ⟨n, claimed⟩
    · exact absurd answered (still.not_answered g)
    · refine ⟨n, claimed, ?_, fun k other =>
        r.claimed_unique (List.nil_append _).symm lives other claimed⟩
      obtain ⟨t, value, called, _⟩ := id claimed
      obtain ⟨t', o, begun⟩ := hasBegun_iff.mp (g.sound.known _ _ _ called)
      obtain ⟨⟨o', rest⟩, flight⟩ := (reaches.flying rfl nofun).2 _ _ _ begun
      obtain ⟨t'', begun', leads⟩ := g.sound.history n _ flight
      have key := Operation.made_key leads (mem_callsOf.mpr ⟨t, called⟩) rfl
      cases own _ _ _ begun' (l.key_injective key).symm
      exact g.sound.granted_of_claimed flight claimed

/-- Two presentations of the sample token that race for its claim. The second one finds it
claimed, and escalates. -/
def race : List Action :=
  [.begin 0 (.refresh sampleClaims), .begin 1 (.refresh sampleClaims),
    .proceed 0 none, .proceed 0 none, .proceed 0 none, .proceed 0 none, .proceed 0 none,
    .proceed 1 none, .proceed 1 none, .proceed 1 none, .proceed 1 none,
    .proceed 0 none, .proceed 1 none, .proceed 1 none, .proceed 1 none]

def beforeRace : Traffic := start (.ofSeconds 0) ⟨.volatile .empty, sampleDirectory⟩

def afterRace : Traffic := beforeRace.acts .standard race

theorem race_undisturbed : Reaches .standard (Undisturbed sampleClaims) beforeRace afterRace := by
  refine reaches_acts (.refl _) ⟨fun _ => rfl, fun _ => rfl, ?_, ?_, ?_, ?_, ?_, ?_, ?_, ?_, ?_,
    ?_, ?_, ?_, ?_, trivial⟩
  all_goals
    intro o next flight
    cases flight
  rfl

theorem race_granted : afterRace.Answered 0 (.refresh sampleClaims) (.ok .granted) :=
  show afterRace.flights.get? 0 = _ from rfl

theorem race_granted_once :
    afterRace.Answered 1 (.refresh sampleClaims) (.ok (.denied .replay)) ∧
      (∀ n, afterRace.Answered n (.refresh sampleClaims) (.ok .granted) → n = 0) ∧
      ∃ n, ∀ k, Claimed .standard sampleClaims.tokenId afterRace.log k → k = n := by
  obtain ⟨unique, claimed⟩ := granted_once_in_memory .standard sampleClaims (.ofSeconds 0)
    sampleDirectory (by decide)
  refine ⟨show afterRace.flights.get? 1 = _ from rfl, fun n other => ?_, ?_⟩
  · have reaches := race_undisturbed.mono fun _ _ => Undisturbed.regular
    exact unique afterRace reaches n 0 other race_granted
  · obtain ⟨n, _, _, only⟩ := claimed rfl rfl afterRace race_undisturbed 0 _ race_granted
    exact ⟨n, only⟩

end Traffic

end RequestGuard
