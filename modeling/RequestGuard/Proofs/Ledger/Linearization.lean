import RequestGuard.Proofs.Ledger.Order
import RequestGuard.Proofs.Traffic.Sequential

/-!
# The ledger as one that works step by step

However the calls of a ledger's operations interleave, the answers are those of operations that
happen one at a time. `Linear` is the invariant: the order so far leads to lives for which the
entries of the store stand, and every flight is at some stage. Each action keeps the order or
advances it.
-/

namespace RequestGuard

namespace Traffic

variable {l : Ledger} {w v : Traffic} {n : Nat} {id : TokenId} {step : Scenario.LedgerStep}
  {lives lives' : Lives} {order order' : List Point}

/-- An order of operations that explains a run from `w` to `v`: every answer is the result that
its operation has in the order, and an operation that was answered before another began comes
before it. -/
structure Linearizes (l : Ledger) (w v : Traffic) (order : List Point) : Prop where
  fits : ∃ lives, Fits l order lives v.log
  completed : ∀ n id step r, v.Answered n (.ledger id step) r → Took order n id step r
  realTime : ∀ u, Reaches l (ByLedger l) w u → Reaches l (ByLedger l) u v →
    ∀ p ∈ order, ∀ q ∈ order, ∀ o r, u.Answered p.flight o r → u.hasBegun q.flight = false →
      [p, q].Sublist order

/-- What the run so far comes to: an order of operations, lives of tokens to which it leads, and
entries in the store that stand for them. -/
structure Linear (l : Ledger) (order : List Point) (lives : Lives) (w : Traffic) : Prop where
  fits : Fits l order lives w.log
  memory : w.services.store.isDurable = false
  stands : ∀ id, w.services.store.entries.get? (l.key id) = (lives id).map Life.entry
  within : ∀ id p ends, lives id = some (p, ends) → p.Within (marks l id w.log)
  past : ∀ t n made, Event.called t n made ∈ w.log → t ≤ w.now
  stage : ∀ n f, w.flights.get? n = some f → Stage l order lives w.log n f.operation f.rest

theorem linear_start (now : Instant) (d : Directory) :
    Linear l [] (fun _ => none) (start now ⟨.volatile .empty, d⟩) where
  fits := ⟨.nil, List.nodup_nil, (fun p member => by cases member), .slnil⟩
  memory := rfl
  stands := fun _ => rfl
  within := by
    intro id p ends seen
    cases seen
  past := by
    intro t n made called
    cases called
  stage := by
    intro n f flight
    cases flight

namespace Linear

/-- A name that was never used has no place in the order. -/
theorem ahead_of_new (lin : Linear l order lives w) (new : w.hasBegun n = false) :
    Ahead order n := by
  rintro p member rfl
  obtain ⟨t, begun⟩ := lin.fits.begun p member
  rw [hasBegun_iff.mpr ⟨t, _, begun⟩] at new
  cases new

theorem wait (lin : Linear l order lives w) {t : Instant} (later : w.now ≤ t) :
    Linear l order lives { w with now := t } :=
  { lin with past := fun u n made called => Int.le_trans (lin.past u n made called) later }

/-- What is noted without a call changes nothing about the order. -/
theorem noted (lin : Linear l order lives w) {e : Event} (silent : ∀ n, e.callBy n = none)
    {directory : Directory} {flights : Table Nat Flight}
    (stage : ∀ n f, flights.get? n = some f →
      Stage l order lives (w.log ++ [e]) n f.operation f.rest) :
    Linear l order lives ⟨w.now, { w.services with directory := directory }, flights,
      w.log ++ [e]⟩ where
  fits := lin.fits.append [e]
  memory := lin.memory
  stands := lin.stands
  within := fun id p ends seen =>
    (lin.within id p ends seen).mono (marks_le_append l id w.log [e])
  past := by
    intro t n made called
    obtain old | new := List.mem_append.mp called
    · exact lin.past t n made old
    · have call := callBy_eq_some_iff.mpr ⟨t, (List.mem_singleton.mp new).symm⟩
      rw [silent n] at call
      cases call
  stage := stage

theorem stage_append (lin : Linear l order lives w) (e : Event) {f : Flight}
    (flight : w.flights.get? n = some f) :
    Stage l order lives (w.log ++ [e]) n f.operation f.rest :=
  (lin.stage n f flight).mono (List.Subset.refl order) (fun _ member _ => member)
    (List.subset_append_left _ _) fun _ _ _ _ lasts => lasts

theorem begin (lin : Linear l order lives w) (new : w.hasBegun n = false) (id : TokenId)
    (step : Scenario.LedgerStep) : Linear l order lives (w.begin l n (.ledger id step)) := by
  rw [begin_of_new new]
  refine lin.noted (fun _ => rfl) fun m f flight => ?_
  rw [Table.get?_insert] at flight
  split at flight
  · rename_i same
    subst same
    cases flight
    exact .fresh id step w.now (lin.ahead_of_new new)
  · exact lin.stage_append _ flight

theorem change (lin : Linear l order lives w) (account : AccountId) (change : AccountChange) :
    Linear l order lives (w.act l (.change account change)) :=
  lin.noted (fun _ => rfl) fun _ _ flight => lin.stage_append _ flight

/-- A call about the token of its flight advances the order. -/
theorem call (lin : Linear l order lives w) (s : Sound l w) {fault : Option WriteFault} {c : Call}
    {next : c.Answer → Program (Operation.ledger id step).Answer}
    (coming : w.flights.get? n = some ⟨.ledger id step, some (.call c next)⟩)
    (about : c.key? = some (l.key id))
    (advance : Advance l n id step w.now ⟨c, (w.services.perform w.now fault c).1⟩ order lives
      order' lives')
    (after : (w.services.perform w.now fault c).2.store.entries.get? (l.key id) =
      (lives' id).map Life.entry)
    (stage : Stage l order' lives' (w.call n fault (.ledger id step) c next).log n
      (.ledger id step) (Program.resume next (w.services.perform w.now fault c).1)) :
    Linear l order' lives' (w.call n fault (.ledger id step) c next) where
  fits := by
    obtain ⟨t, began, _⟩ := s.history n _ coming
    exact advance.fits lin.fits ⟨t, began⟩
  memory := (Services.isDurable_perform c).trans lin.memory
  stands := by
    intro i
    by_cases same : i = id
    · rw [same]
      exact after
    · have elsewhere : c.Elsewhere (l.key i) :=
        ⟨l.key id, about, fun equal => same (l.key_injective equal).symm⟩
      rw [advance.lives_of_ne same, ← lin.stands i]
      exact Services.get?_of_elsewhere lin.memory w.now fault elsewhere
  within := by
    intro i p ends seen
    by_cases same : i = id
    · subst same
      exact advance.within (lin.within i) seen
    · rw [advance.lives_of_ne same] at seen
      exact (lin.within i p ends seen).mono (marks_le_append l i w.log _)
  past := by
    intro t m made called
    obtain old | new := List.mem_append.mp called
    · exact lin.past t m made old
    · cases List.mem_singleton.mp new
      exact Int.le_refl _
  stage := by
    intro m f flight
    simp only [Traffic.call, Table.get?_insert] at flight
    split at flight
    · rename_i same
      subst same
      cases flight
      exact stage
    · rename_i other
      refine (lin.stage m f flight).mono advance.subset ?_ (List.subset_append_left _ _) ?_
      · intro p member same
        exact advance.own member fun equal => other (equal.symm.trans same)
      · intro i t made called
        exact advance.lasts (lin.past t m made called)

/-- A call that replies at once and writes nothing is passed over. -/
theorem passed (lin : Linear l order lives w) (s : Sound l w) {fault : Option WriteFault}
    {c : Call} {next : c.Answer → Program (Operation.ledger id step).Answer}
    (coming : w.flights.get? n = some ⟨.ledger id step, some (.call c next)⟩)
    (about : c.key? = some (l.key id)) {reply : Option c.Reply}
    (course : Services.course false w.now w.services.store.entries w.services.directory c =
      .settled reply w.services.store.entries w.services.directory)
    (stage : Stage l order lives (w.log ++ [.called w.now n ⟨c, reply⟩]) n (.ledger id step)
      (Program.resume next reply)) :
    Linear l order lives (w.call n fault (.ledger id step) c next) := by
  have replied : (w.services.perform w.now fault c).1 = reply := by
    rw [Services.reply_of_memory lin.memory, course]
    rfl
  refine lin.call s coming about .pass ?_ ?_
  · rw [Services.entries_of_memory lin.memory, course]
    exact lin.stands id
  · rw [call_log, replied]
    exact stage

/-- A call that settles its operation makes it take effect, or loses it. -/
theorem settled (lin : Linear l order lives w) (s : Sound l w) {fault : Option WriteFault}
    {c : Call} {next : c.Answer → Program (Operation.ledger id step).Answer}
    (coming : w.flights.get? n = some ⟨.ledger id step, some (.call c next)⟩)
    (about : c.key? = some (l.key id)) (ahead : Ahead order n)
    (counted : step = .markUsed → c = .increment (l.key id))
    (settles : Life.Settles l id w.now (lives id) step
      (Services.course false w.now w.services.store.entries w.services.directory c) next) :
    ∃ order' lives', Linear l order' lives' (w.call n fault (.ledger id step) c next) := by
  have reply := Services.reply_of_memory lin.memory w.now fault c
  have entries := Services.entries_of_memory lin.memory w.now fault c
  obtain ⟨lost, kept⟩ | ⟨answered, after⟩ := settles
  · refine ⟨order, lives, lin.call s coming about .pass ?_ ?_⟩
    · rw [entries]
      exact kept
    · rw [reply, lost]
      exact .lost _
  · refine ⟨_, _, lin.call s coming about (.take ahead counted) ?_ ?_⟩
    · rw [entries, Lives.set_self]
      exact after
    · rw [reply, answered]
      exact .ended id step _ (took_append order _)

/-- A check that finds its token unseen goes on, or takes effect if it will be refused. -/
theorem called_unseen (lin : Linear l order lives w) (s : Sound l w) {fault : Option WriteFault}
    {ttl : Span} {next : Option SignedWord → Program UseCount}
    (coming : w.flights.get? n =
      some ⟨.ledger id (.checkUseCount ttl), some (.call (.fetch (l.key id)) next)⟩)
    (onward : next none = l.recordUse id ttl) (ahead : Ahead order n)
    (unseen : (lives id).seen w.now = none) : ∃ order' lives', Linear l order' lives'
      (w.call n fault (.ledger id (.checkUseCount ttl)) (.fetch (l.key id)) next) := by
  have course : Services.course false w.now w.services.store.entries w.services.directory
      (.fetch (l.key id)) = .settled (some (.ok none)) w.services.store.entries
        w.services.directory := by
    rw [Life.course_fetch (lin.stands id), unseen]
    rfl
  have rest : Program.resume (c := .fetch (l.key id)) next (some (.ok none)) =
      some (l.recordUse id ttl) := congrArg some onward
  by_cases positive : ttl.Positive
  · refine ⟨order, lives, lin.passed s coming rfl course ?_⟩
    exact rest ▸ .unseen id ttl positive ahead
  · have refuses : (lives id).apply l id w.now (.checkUseCount ttl) =
        (.error (.storage (Entries.refuse (l.key id))), lives id) := by
      simp only [Life.apply, unseen, if_neg positive]
    refine ⟨_, _, lin.call s coming rfl (.take ahead fun same => by cases same) ?_ ?_⟩
    · rw [Lives.set_self, refuses]
      exact lin.stands id
    · rw [Services.reply_of_memory lin.memory, course, refuses]
      exact rest ▸ .refused id ttl positive (took_append order _)

/-- The first call of an operation. -/
theorem called_fresh (lin : Linear l order lives w) (s : Sound l w)
    (few : ∀ id, marks l id w.log < 0xfffffffe) {fault : Option WriteFault} {c : Call}
    {next : c.Answer → Program (Operation.ledger id step).Answer} {t : Instant}
    (program : (Operation.ledger id step).program l t = .call c next)
    (coming : w.flights.get? n = some ⟨.ledger id step, some (.call c next)⟩)
    (ahead : Ahead order n) :
    ∃ order' lives', Linear l order' lives' (w.call n fault (.ledger id step) c next) := by
  have about : c.key? = some (l.key id) := by
    have uses := Operation.uses_ledger (l := l) (t := t) id step
    rw [program] at uses
    exact uses.1
  by_cases looks : ∃ ttl, step = .checkUseCount ttl ∧ (lives id).seen w.now = none
  · obtain ⟨ttl, rfl, unseen⟩ := looks
    replace program : l.checkUseCount id ttl = .call c next := program
    rw [Ledger.checkUseCount_eq] at program
    cases program
    exact lin.called_unseen s coming rfl ahead unseen
  · refine lin.settled s coming about ahead ?_ ?_
    · rintro rfl
      cases program
      rfl
    · exact Life.settles_first (lin.stands id) (lin.within id) (few id) program
        fun ttl same unseen => looks ⟨ttl, same, unseen⟩

/-- A check that has found its token unseen records it, unless another operation was faster. -/
theorem called_recordUse (lin : Linear l order lives w) (s : Sound l w)
    {fault : Option WriteFault} {ttl : Span} {next : Bool → Program UseCount}
    (program : Program.call (.insertIfAbsent (l.key id) 1 ttl) next = l.recordUse id ttl)
    (coming : w.flights.get? n = some ⟨.ledger id (.checkUseCount ttl),
      some (.call (.insertIfAbsent (l.key id) 1 ttl) next)⟩)
    (positive : ttl.Positive) (ahead : Ahead order n) :
    ∃ order' lives', Linear l order' lives' (w.call n fault (.ledger id (.checkUseCount ttl))
      (.insertIfAbsent (l.key id) 1 ttl) next) := by
  cases program
  cases seen : (lives id).seen w.now with
  | none =>
      exact lin.settled s coming rfl ahead (fun same => by cases same)
        (Life.settles_recordUse (lin.stands id) seen positive)
  | some p =>
      refine ⟨order, lives, lin.passed s coming rfl
        (Life.course_record_seen (lin.stands id) seen positive) ?_⟩
      exact .beaten id ttl ahead (List.mem_append_right _ (List.mem_singleton_self _))
        (Life.lasts_of_seen seen)

/-- A check that was beaten finds the token seen still, as nothing has run out since. -/
theorem called_judgeAgain (lin : Linear l order lives w) (s : Sound l w) (steady : w.Steady l n)
    (few : ∀ id, marks l id w.log < 0xfffffffe) {fault : Option WriteFault} {ttl : Span}
    {next : Option SignedWord → Program UseCount}
    (judges : ∀ value, next (some value) = .ofStore (Ledger.judge (l.key id) value))
    (coming : w.flights.get? n =
      some ⟨.ledger id (.checkUseCount ttl), some (.call (.fetch (l.key id)) next)⟩)
    (ahead : Ahead order n) {t : Instant} {made : Made} (called : Event.called t n made ∈ w.log)
    (lasts : (lives id).Lasts t) : ∃ order' lives', Linear l order' lives'
      (w.call n fault (.ledger id (.checkUseCount ttl)) (.fetch (l.key id)) next) := by
  obtain ⟨p, ends, same, later⟩ := lasts
  have early : w.now < ends := by
    refine Instant.not_le.mp fun out => ?_
    have entry : w.services.store.entries.get? (l.key id) = some (Life.entry (p, ends)) := by
      rw [lin.stands id, same]
      rfl
    exact Instant.not_le.mpr later (steady _ _ _ _ coming called entry out)
  have seen : (lives id).seen w.now = some p := Life.seen_eq_some_iff.mpr ⟨ends, same, early⟩
  exact lin.settled s coming rfl ahead (fun same => by cases same)
    (Life.settles_judge (lin.stands id) (lin.within id) (few id) seen judges)

/-- Any call of a flight leads from one order to another. -/
theorem called (lin : Linear l order lives w) (s : Sound l w) (steady : w.Steady l n)
    (few : ∀ id, marks l id w.log < 0xfffffffe) {fault : Option WriteFault} {o : Operation}
    {c : Call} {next : c.Answer → Program o.Answer}
    (coming : w.flights.get? n = some ⟨o, some (.call c next)⟩) :
    ∃ order' lives', Linear l order' lives' (w.call n fault o c next) := by
  have stage : Stage l order lives w.log n o (some (.call c next)) := lin.stage n _ coming
  generalize left : some (Program.call c next) = q at stage
  cases stage with
  | lost => cases left
  | ended => exact absurd (Option.some.inj left).symm Program.ended_ne_call
  | fresh id step t ahead =>
      exact lin.called_fresh s few (Option.some.inj left).symm coming ahead
  | unseen id ttl positive ahead =>
      cases left
      exact lin.called_recordUse s rfl coming positive ahead
  | refused id ttl refuses took =>
      cases left
      refine ⟨order, lives, lin.passed s coming rfl (Life.course_record_refused _ _ _ _ refuses) ?_⟩
      exact .ended id (.checkUseCount ttl) (.error (.storage (Entries.refuse (l.key id)))) took
  | beaten id ttl ahead called lasts =>
      cases left
      exact lin.called_judgeAgain s steady few (fun _ => rfl) coming ahead called lasts

/-- Every action keeps the order or advances it. -/
theorem act (lin : Linear l order lives w) (s : Sound l w) {a : Action} (ok : ByLedger l w a)
    (few : ∀ id, marks l id w.log < 0xfffffffe) :
    ∃ order' lives', Linear l order' lives' (w.act l a) := by
  cases a with
  | wait t => exact ⟨_, _, lin.wait ok⟩
  | change account change => exact ⟨_, _, lin.change account change⟩
  | begin n o =>
      obtain ⟨id, step, rfl⟩ := ok
      cases began : w.hasBegun n with
      | false => exact ⟨_, _, lin.begin began id step⟩
      | true =>
          refine ⟨order, lives, ?_⟩
          simpa only [Traffic.act, Traffic.begin, began, if_true] using lin
  | proceed n fault =>
      by_cases coming : ∃ o c next, w.flights.get? n = some ⟨o, some (.call c next)⟩
      · obtain ⟨o, c, next, coming⟩ := coming
        rw [act_proceed coming]
        exact lin.called s ok few coming
      · rw [act_proceed_still fun o c next flight => coming ⟨o, c, next, flight⟩]
        exact ⟨order, lives, lin⟩

/-- So a run in which no token is marked too often has an order. -/
theorem reaches {now : Instant} {d : Directory}
    (r : Reaches l (ByLedger l) (start now ⟨.volatile .empty, d⟩) v)
    (few : ∀ id, marks l id v.log < 0xfffffffe) : ∃ order lives, Linear l order lives v := by
  refine r.induct_volatile (P := fun u => (∀ id, marks l id u.log < 0xfffffffe) →
    ∃ order lives, Linear l order lives u) rfl (fun _ => ⟨_, _, linear_start now d⟩) ?_ few
  intro u a before ok ih few
  obtain ⟨later, log⟩ := (act_step (l := l) (w := u) a).log_grows
  have fewer : ∀ id, marks l id u.log < 0xfffffffe := by
    intro id
    refine Nat.lt_of_le_of_lt ?_ (few id)
    rw [log]
    exact marks_le_append l id u.log later
  obtain ⟨order, lives, lin⟩ := ih fewer
  exact lin.act (before.sound (sound_start _ _)) ok fewer

/-- An operation that was answered before another began comes before it. -/
theorem before_of_answered (lin : Linear l order lives v) {u : Traffic} (s : Sound l u)
    (r : Reaches l (ByLedger l) u v) {p q : Point} (member : p ∈ order) (member' : q ∈ order)
    {o : Operation} {result : Except Failure o.Answer} (answered : u.Answered p.flight o result)
    (new : u.hasBegun q.flight = false) : [p, q].Sublist order := by
  obtain ⟨later, log⟩ := r.log_grows
  have effective := lin.fits.effective
  rw [log, List.sublist_append_iff] at effective
  obtain ⟨before, after, parts, old, recent⟩ := effective
  obtain ⟨first, rest, rfl, rfl, rfl⟩ := List.map_eq_append_iff.mp parts
  have early : p ∈ first := by
    refine (List.mem_append.mp member).resolve_right fun late => ?_
    exact answered.not_called s r log p.time p.made (recent.subset (List.mem_map_of_mem late))
  have late : q ∈ rest := by
    refine (List.mem_append.mp member').resolve_left fun early => ?_
    have began := s.known _ _ _ (old.subset (List.mem_map_of_mem early))
    rw [new] at began
    cases began
  exact (List.singleton_sublist.mpr early).append (List.singleton_sublist.mpr late)

end Linear

/-- The ledger is linearizable. Over a store in memory that only the ledger writes to, any
interleaving of its operations, call by call, has an order in which they could have happened one
at a time: from the lives of tokens that were never seen, every operation has the result in the
order that it has in the run, and the order keeps to the real time. The clock is not set back, no
counter of a token runs out between two calls of one operation on it, and no token is marked so
often that its counter would reach the floor. -/
theorem linearizable (l : Ledger) (now : Instant) (d : Directory) (v : Traffic)
    (run : Reaches l (ByLedger l) (start now ⟨.volatile .empty, d⟩) v)
    (few : ∀ id, marks l id v.log < 0xfffffffe) :
    ∃ order, Linearizes l (start now ⟨.volatile .empty, d⟩) v order := by
  obtain ⟨order, lives, lin⟩ := Linear.reaches run few
  refine ⟨order, ⟨lives, lin.fits⟩, ?_, ?_⟩
  · intro n id step r answered
    exact (lin.stage n _ answered).took
  · intro u before after p member q member' o r answered new
    exact lin.before_of_answered (before.sound (sound_start _ _)) after member member' answered new

/-- A flight that has made no call is not affected by anything that runs out. -/
theorem steady_of_silent (silent : callsOf n w.log = []) : w.Steady l n := by
  intro f t made e flight called
  have member := mem_callsOf.mpr ⟨t, called⟩
  rw [silent] at member
  cases member

/-- Neither is one whose token has no counter that has run out. -/
theorem steady_of_live {f : Flight} (flight : w.flights.get? n = some f)
    (live : ((w.services.store.entries.get? (l.key f.operation.tokenId)).all fun e =>
      e.isLive w.now) = true) : w.Steady l n := by
  intro f' t made e flight' called got out
  cases flight.symm.trans flight'
  rw [got] at live
  exact absurd out (Instant.not_le.mpr ((e.isLive_iff w.now).mp live))

/-- Two checks of one token race. Another operation marks it before the slower one has judged it,
and then it is blacklisted and marked once more. When its lifetime is over it is unseen. -/
def crowd : List Action :=
  let check := Operation.ledger sampleClaims.tokenId (.checkUseCount (.ofSeconds 60))
  let mark := Operation.ledger sampleClaims.tokenId .markUsed
  [.begin 0 check, .begin 1 check, .proceed 0 none, .proceed 1 none, .proceed 0 none,
    .proceed 1 none, .begin 2 mark, .proceed 2 none, .proceed 1 none,
    .begin 3 (.ledger sampleClaims.tokenId (.invalidate (.ofSeconds 60))), .proceed 3 none,
    .begin 4 mark, .proceed 4 none, .wait (.ofSeconds 60),
    .begin 5 (.ledger sampleClaims.tokenId .state), .proceed 5 none]

def beforeCrowd : Traffic := start (.ofSeconds 0) ⟨.volatile .empty, .empty⟩

def afterCrowd : Traffic := beforeCrowd.acts .standard crowd

theorem crowd_by_ledger : Reaches .standard (ByLedger .standard) beforeCrowd afterCrowd := by
  refine reaches_acts (.refl _) ?_
  exact ⟨⟨_, _, rfl⟩, ⟨_, _, rfl⟩, steady_of_silent rfl,
    steady_of_silent rfl, steady_of_live rfl rfl, steady_of_live rfl rfl, ⟨_, _, rfl⟩,
    steady_of_silent rfl, steady_of_live rfl rfl, ⟨_, _, rfl⟩, steady_of_silent rfl, ⟨_, _, rfl⟩,
    steady_of_silent rfl, show Instant.ofSeconds 0 ≤ .ofSeconds 60 by decide, ⟨_, _, rfl⟩,
    steady_of_silent rfl, trivial⟩

/-- The slower check hears of the mark, which has come before it, and the token is forgotten when
it has run out. All this is explained by an order. -/
theorem crowd_linearizes :
    afterCrowd.Answered 0 (.ledger sampleClaims.tokenId (.checkUseCount (.ofSeconds 60)))
        (.ok .fresh) ∧
      afterCrowd.Answered 1 (.ledger sampleClaims.tokenId (.checkUseCount (.ofSeconds 60)))
        (.ok (.tooManyUses 2)) ∧
      afterCrowd.Answered 4 (.ledger sampleClaims.tokenId .markUsed) (.ok .blacklisted) ∧
      afterCrowd.Answered 5 (.ledger sampleClaims.tokenId .state) (.ok .unseen) ∧
      (∀ id, marks .standard id afterCrowd.log < 0xfffffffe) ∧
      ∃ order, Linearizes .standard beforeCrowd afterCrowd order := by
  have few : ∀ id, marks .standard id afterCrowd.log < 0xfffffffe := by
    intro id
    exact Nat.lt_of_le_of_lt List.countP_le_length
      (show afterCrowd.log.length < 0xfffffffe by decide)
  exact ⟨show Table.get? _ 0 = _ from rfl, show Table.get? _ 1 = _ from rfl,
    show Table.get? _ 4 = _ from rfl, show Table.get? _ 5 = _ from rfl, few,
    linearizable .standard (.ofSeconds 0) .empty afterCrowd crowd_by_ledger few⟩

end Traffic

end RequestGuard
