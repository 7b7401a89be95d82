import RequestGuard.Proofs.Traffic.Origin

/-!
# Claims around the expiry

A presentation is timed once, when it begins. Its calls may come later, also when the token
has expired. If it then records the first use of the token, the record lives beyond the
expiry by as much as the clock has moved since the presentation began, and until then the
token can be claimed. A record made earlier is gone by that time, and what it knew of a
claim with it.

So a token can be claimed twice, but not twice before its expiry. If each presentation makes
its record without delay, no claim comes at the expiry or later.
-/

namespace RequestGuard

namespace Traffic

variable {l : Ledger} {id : TokenId} {expiry : Instant} {w v : Traffic} {log : List Event}

/-- A flight claims a token at some time. -/
def ClaimedAt (l : Ledger) (id : TokenId) (log : List Event) (f : Nat) (t : Instant) : Prop :=
  ∃ value, Event.called t f ⟨.increment (l.key id), some (.ok (some value))⟩ ∈ log ∧
    value.toInt = 2

theorem FirstUse.mono {log' : List Event} {k : Nat} {start time : Instant}
    (h : FirstUse l id expiry log k start time) (all : log ⊆ log') :
    FirstUse l id expiry log' k start time := by
  obtain ⟨⟨c, begun, own⟩, called⟩ := h
  exact ⟨⟨c, all begun, own⟩, all called⟩

theorem claimed_iff {f : Nat} : Claimed l id log f ↔ ∃ t, ClaimedAt l id log f t := Iff.rfl

/-- The clock does not go back. -/
theorem Agreed.now_le {a : Action} (agreed : Agreed id expiry w a) : w.now ≤ (w.act l a).now := by
  have step := act_step (l := l) (w := w) a
  revert step
  generalize w.act l a = w'
  intro step
  cases step with
  | wait => exact agreed
  | begun | called | changed | nothing => exact Int.le_refl _

/-- Before the expiry the clock has only shown times before the expiry. -/
theorem Reaches.regular_of_early (r : Reaches l (Agreed id expiry) w v) (early : v.now < expiry) :
    Reaches l (Regular id expiry) w v ∧ w.now ≤ v.now := by
  induction r with
  | refl => exact ⟨.refl _, Int.le_refl _⟩
  | restart directory _ held opened ih =>
      obtain ⟨regular, onward⟩ := ih early
      exact ⟨.restart directory regular held opened, onward⟩
  | @act u a _ agreed ih =>
      have onward : u.now ≤ (u.act l a).now := agreed.now_le
      obtain ⟨regular, before⟩ := ih (Instant.lt_of_le_of_lt onward early)
      refine ⟨.act regular ?_, Int.le_trans before onward⟩
      cases a with
      | wait now => exact ⟨agreed, early⟩
      | begin n o => exact agreed
      | proceed | change => trivial

/-- A run up to the expiry: it has made all the calls that came before the expiry. -/
theorem Reaches.until_expiry (r : Reaches l (Agreed id expiry) w v) :
    ∃ u, Reaches l (Regular id expiry) w u ∧
      ∀ t n made, Event.called t n made ∈ v.log → t < expiry → Event.called t n made ∈ u.log := by
  induction r with
  | refl => exact ⟨_, .refl _, fun _ _ _ called _ => called⟩
  | restart _ _ _ _ ih => exact ih
  | @act v a before ok ih =>
      obtain ⟨u, regular, all⟩ := ih
      have reached : v.now < expiry → Regular id expiry v a →
          Reaches l (Regular id expiry) w (v.act l a) :=
        fun early ok => .act (before.regular_of_early early).1 ok
      have step := act_step (l := l) (w := v) a
      revert step reached
      generalize v.act l a = v'
      intro reached step
      cases step with
      | wait | nothing => exact ⟨u, regular, all⟩
      | begun | changed =>
          exact ⟨u, regular, fun t n made called => all t n made (by simpa using called)⟩
      | called coming =>
          by_cases early : v.now < expiry
          · exact ⟨_, reached early trivial, fun _ _ _ called _ => called⟩
          · refine ⟨u, regular, fun t n made called sooner => ?_⟩
            rcases List.mem_append.mp called with old | new
            · exact all t n made old sooner
            · cases List.mem_singleton.mp new
              exact absurd sooner early

/-- A claim finds a record of the token that is still alive. -/
theorem Dated.firstUse_of_claimed {f : Nat} {t : Instant} (d : Dated l id expiry w)
    (r : Reaches l (Agreed id expiry) w v) (new : w.log = []) (claimed : ClaimedAt l id v.log f t) :
    ∃ k start time, FirstUse l id expiry v.log k start time ∧ start < expiry ∧ start ≤ time ∧
      time ≤ t ∧ t.nanos < expiry.nanos + (time.nanos - start.nanos) := by
  obtain ⟨value, called, two⟩ := claimed
  obtain ⟨m, rfl⟩ := r.moment_of_mem new called
  have dated : Dated l id expiry m.before := d.reaches m.reached fun _ _ ok => ok
  have turn := dated.turn m.fault (.increment (l.key id))
  rw [← m.reply] at turn
  cases turn with
  | @increment _ e _ _ live next _ =>
      obtain ⟨got, alive⟩ := Entries.live?_eq_some_iff.mp live
      obtain ⟨origin⟩ := dated.origin e got
      have floor := Exchange.toInt_blacklistFloor
      have one := SignedWord.toInt_of_succ? next
      have firstUse := origin.firstUse (by omega)
      have past : origin.time ≤ m.before.now := dated.past _ firstUse.called
      rw [Instant.lt_iff, origin.expires] at alive
      exact ⟨_, _, _, firstUse.mono m.log_subset, origin.early, origin.ordered, past, alive⟩

/-- A token may be claimed at or after its expiry only while a record lives that a slow
presentation made: one before whose record the clock moved on. Before the expiry a token is
claimed at most once. So if no presentation is slow, no claim comes at the expiry or later,
and at most one presentation is granted. -/
theorem claimed_while_record_lives (l : Ledger) (c : Claims) (now : Instant)
    (directory : Directory) :
    ∀ v, Reaches l (Agreed c.tokenId c.expiresAt) (start now ⟨.volatile .empty, directory⟩) v →
      (∀ m n t u, ClaimedAt l c.tokenId v.log m t → ClaimedAt l c.tokenId v.log n u →
        t < c.expiresAt → u < c.expiresAt → m = n) ∧
      (∀ n t, ClaimedAt l c.tokenId v.log n t →
        ∃ k start time, FirstUse l c.tokenId c.expiresAt v.log k start time ∧
          start < c.expiresAt ∧ start ≤ time ∧ time ≤ t ∧
          t.nanos < c.expiresAt.nanos + (time.nanos - start.nanos)) ∧
      ((∀ k start time, FirstUse l c.tokenId c.expiresAt v.log k start time → time = start) →
        (∀ n t, ClaimedAt l c.tokenId v.log n t → t < c.expiresAt) ∧
        ∀ m n, v.Answered m (.refresh c) (.ok .granted) →
          v.Answered n (.refresh c) (.ok .granted) → m = n) := by
  intro v reaches
  have dated : Dated l c.tokenId c.expiresAt (start now ⟨.volatile .empty, directory⟩) :=
    dated_start now directory
  have record : ∀ n t, ClaimedAt l c.tokenId v.log n t → _ :=
    fun n t => dated.firstUse_of_claimed reaches rfl
  have once : ∀ m n t u, ClaimedAt l c.tokenId v.log m t → ClaimedAt l c.tokenId v.log n u →
      t < c.expiresAt → u < c.expiresAt → m = n := by
    intro m n t u first second early early'
    obtain ⟨value, called, two⟩ := first
    obtain ⟨value', called', two'⟩ := second
    obtain ⟨w, regular, all⟩ := reaches.until_expiry
    have soon : now < c.expiresAt := by
      obtain ⟨m, rfl⟩ := reaches.moment_of_mem rfl called
      exact Instant.lt_of_le_of_lt (m.reached.regular_of_early early).2 early
    have r : Run l c.tokenId c.expiresAt _ (start now ⟨.volatile .empty, directory⟩) w :=
      ⟨regular, fun _ _ ok => ok, guarded_start soon trivial⟩
    have lives : Store.Holds (Entries.Outlives (l.key c.tokenId) c.expiresAt)
      (.volatile .empty) := ⟨.empty, _, rfl, .empty⟩
    exact r.claimed_unique (List.nil_append _).symm lives ⟨t, value, all _ _ _ called early, two⟩
      ⟨u, value', all _ _ _ called' early', two'⟩
  refine ⟨once, record, fun prompt => ?_⟩
  have early : ∀ n t, ClaimedAt l c.tokenId v.log n t → t < c.expiresAt := by
    intro n t claimed
    obtain ⟨k, start, time, firstUse, _, _, _, alive⟩ := record n t claimed
    rw [prompt k start time firstUse] at alive
    rw [Instant.lt_iff]
    omega
  refine ⟨early, fun m n first second => ?_⟩
  have sound : Sound l v := reaches.sound (sound_start _ _)
  obtain ⟨t, claimed⟩ := claimed_iff.mp (sound.claimed_of_granted first)
  obtain ⟨u, claimed'⟩ := claimed_iff.mp (sound.claimed_of_granted second)
  exact once m n t u claimed claimed' (early m t claimed) (early n u claimed')

/-- The sample token is granted at once. Another presentation begins a second before the
expiry, but makes its calls only after that second. -/
def regranted : Traffic :=
  (start (.ofSeconds 0) ⟨.volatile .empty, sampleDirectory⟩).acts .standard
    [.begin 0 (.refresh sampleClaims), .proceed 0 none, .proceed 0 none, .proceed 0 none,
      .proceed 0 none, .proceed 0 none, .proceed 0 none, .wait (.ofSeconds 59),
      .begin 1 (.refresh sampleClaims), .wait (.ofSeconds 60), .proceed 1 none, .proceed 1 none,
      .proceed 1 none, .proceed 1 none, .proceed 1 none, .proceed 1 none]

theorem regranted_reached : Reaches .standard (Agreed sampleClaims.tokenId sampleClaims.expiresAt)
    (start (.ofSeconds 0) ⟨.volatile .empty, sampleDirectory⟩) regranted :=
  reaches_acts (.refl _) ⟨fun _ => rfl, trivial, trivial, trivial, trivial, trivial, trivial,
    (by decide : Instant.ofSeconds 0 ≤ .ofSeconds 59), fun _ => rfl,
    (by decide : Instant.ofSeconds 59 ≤ .ofSeconds 60), trivial, trivial, trivial, trivial,
    trivial, trivial, trivial⟩

theorem regranted_claimed :
    ClaimedAt .standard sampleClaims.tokenId regranted.log 1 sampleClaims.expiresAt :=
  ⟨2, List.mem_of_getLast? rfl, rfl⟩

/-- The token is granted twice, the second time at its expiry. -/
theorem granted_again_at_expiry :
    Reaches .standard (Agreed sampleClaims.tokenId sampleClaims.expiresAt)
      (start (.ofSeconds 0) ⟨.volatile .empty, sampleDirectory⟩) regranted ∧
    regranted.Answered 0 (.refresh sampleClaims) (.ok .granted) ∧
    regranted.Answered 1 (.refresh sampleClaims) (.ok .granted) ∧
    ClaimedAt .standard sampleClaims.tokenId regranted.log 1 sampleClaims.expiresAt :=
  ⟨regranted_reached, show regranted.flights.get? 0 = _ from rfl,
    show regranted.flights.get? 1 = _ from rfl, regranted_claimed⟩

/-- All calls of a presentation in the last second before the expiry. -/
def inTime : Traffic :=
  (start (.ofSeconds 59) ⟨.volatile .empty, sampleDirectory⟩).acts .standard
    [.begin 0 (.refresh sampleClaims), .proceed 0 none, .proceed 0 none, .proceed 0 none,
      .proceed 0 none, .proceed 0 none, .proceed 0 none, .wait (.ofSeconds 60)]

theorem late_claim_of_slow_record :
    (∃ k start time, FirstUse .standard sampleClaims.tokenId sampleClaims.expiresAt regranted.log
      k start time ∧ start < sampleClaims.expiresAt ∧ start < time) ∧
    inTime.Answered 0 (.refresh sampleClaims) (.ok .granted) ∧
    ∀ n, inTime.Answered n (.refresh sampleClaims) (.ok .granted) → n = 0 := by
  obtain ⟨_, late, _⟩ := claimed_while_record_lives .standard sampleClaims (.ofSeconds 0)
    sampleDirectory regranted regranted_reached
  obtain ⟨k, start, time, firstUse, early, _, _, alive⟩ := late 1 _ regranted_claimed
  refine ⟨⟨k, start, time, firstUse, early, ?_⟩, ?_⟩
  · rw [Instant.lt_iff]
    omega
  have granted : inTime.Answered 0 (.refresh sampleClaims) (.ok .granted) :=
    show inTime.flights.get? 0 = _ from rfl
  obtain ⟨_, _, prompt⟩ := claimed_while_record_lives .standard sampleClaims (.ofSeconds 59)
    sampleDirectory inTime (reaches_acts (.refl _) ⟨fun _ => rfl, trivial, trivial, trivial,
      trivial, trivial, trivial, (by decide : Instant.ofSeconds 59 ≤ .ofSeconds 60), trivial⟩)
  refine ⟨granted, fun n other => (prompt ?_).2 n 0 other granted⟩
  intro k start time firstUse
  obtain ⟨⟨c, begun, _⟩, called⟩ := firstUse
  have still : ∀ event ∈ inTime.log, event.time = .ofSeconds 59 := by
    intro event member
    have all : inTime.log.all (fun event => event.time = .ofSeconds 59) = true := rfl
    exact of_decide_eq_true (List.all_eq_true.mp all event member)
  exact (still _ called).trans (still _ begun).symm

end Traffic

end RequestGuard
