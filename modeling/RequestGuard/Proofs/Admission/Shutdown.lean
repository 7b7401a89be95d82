import Mathlib.Data.String.Basic
import RequestGuard.Proofs.Admission.Limiter
import RequestGuard.Proofs.Text.ByteOrder
import RequestGuard.Scenario.Admission

/-!
# A controller that shuts down

Once a controller was asked to stop, nothing that follows changes a quota: requests are denied
before they look for one, and a renewal that runs looks for the stop before it looks for a tick. So
what is left to every client stays as it is, in whatever stage its renewal was when the stop came.
`Frozen` says so of two receptions, and every move leads to a frozen one.

A request that was under way at the stop has passed the sign to stop, and goes on as before. What it
may still change is one permit, one quota, one renewal and one answer. `Fading` says so of two
receptions: what has come about in between was before the requests under way.

The first shutdown waits for the renewals. It ends as soon as all of them have ended, or at its
deadline, where it cuts off and reports those that have not. It may find out at any later moment
that it can end. A shutdown that comes later ends at once. What a host does to shut a controller
down is one way for all this to happen. In a `Closing`, each request that comes is answered before
anything else happens, and the requests that were under way before go no further.
-/

namespace RequestGuard

namespace Quota

variable {q q' : Quota} {window now : Nat} {reports : List Report}

/-- A renewal that finds a stop gives no permit back, and comes to its end. -/
theorem Ran.of_cancelled (ran : q.Ran window now true q' reports) :
    q'.used = q.used ∧ q'.renewal.isLive = false ∧ .renewed ∉ reports := by
  cases ran with
  | stillborn | stopped => exact ⟨rfl, rfl, by decide⟩
  | idle ended => exact ⟨rfl, ended, List.not_mem_nil⟩

end Quota

namespace Controller

variable {c : Controller} {key : String}

/-- A renewal is pending as long as it may still run. -/
theorem mem_pending : key ∈ c.pending ↔
    ∃ q, c.quotas.get? key = some q ∧ q.renewal.isLive = true := by
  rw [pending, List.mem_mergeSort, Table.mem_keys, Table.get?_filter, Option.isSome_iff_exists]
  simp only [Option.filter_eq_some_iff]

/-- The permits that a client has taken, also if it was never seen. -/
def taken (c : Controller) (key : String) : Nat := ((c.quotas.get? key).map Quota.used).getD 0

theorem taken_tracked {q : Quota} (tracked : c.quotas.get? key = some q) :
    c.taken key = q.used := by
  rw [taken, tracked]
  rfl

theorem taken_of_insert {c' : Controller} {q : Quota}
    (quotas : c'.quotas = c.quotas.insert key q) (k : String) :
    c'.taken k = if key = k then q.used else c.taken k := by
  rw [taken, quotas, Table.get?_insert]
  split
  · rfl
  · rfl

theorem taken_meet (untracked : c.quotas.get? key = none) (k : String) :
    (c.meet key).taken k = c.taken k := by
  rw [taken_of_insert rfl]
  split
  · rename_i same
    rw [taken, ← same, untracked]
    rfl
  · rfl

theorem taken_startRenewal {q : Quota} (tracked : c.quotas.get? key = some q) (k : String) :
    (c.startRenewal key q).taken k = c.taken k := by
  rw [taken_of_insert rfl, Quota.used_withRenewal]
  split
  · rename_i same
    rw [← same, taken_tracked tracked]
  · rfl

theorem taken_give {q : Quota} (tracked : c.quotas.get? key = some q) (k : String) :
    (c.give key q).taken k = c.taken k + if key = k then 1 else 0 := by
  rw [taken_of_insert rfl]
  split
  · rename_i same
    rw [← same, taken_tracked tracked]
  · rfl

/-- What is pending is in the strict order of the bytes of its clients. -/
theorem pending_ascending (c : Controller) :
    c.pending.Pairwise fun a b => Glyph.encode a.toList < Glyph.encode b.toList := by
  have sorted : c.pending.Pairwise fun a b : String => decide (a ≤ b) = true := by
    apply List.pairwise_mergeSort
    · simp only [decide_eq_true_eq]
      exact fun _ _ _ => le_trans
    · simp only [Bool.or_eq_true, decide_eq_true_eq]
      exact le_total
  have distinct : c.pending.Pairwise (· ≠ ·) := by
    have keys : (c.quotas.filter fun _ q => q.renewal.isLive).keys.Nodup := Table.distinct _
    exact (List.mergeSort_perm _ _).nodup_iff.mpr keys
  refine (sorted.and distinct).imp ?_
  rintro a b ⟨le, ne⟩
  exact Glyph.encode_lt_of_lt (lt_of_le_of_ne (of_decide_eq_true le) ne)

end Controller

namespace Reception

open Journal

/-- From one reception to a later one, nothing has happened to a controller that was asked to stop
but that some requests were denied. -/
structure Frozen (denials : Nat) (r r' : Reception) : Prop where
  stopped : r'.controller.cancelled = true
  policy : r'.controller.policy = r.controller.policy
  tracked : r'.controller.quotas.size = r.controller.quotas.size
  permits : ∀ key, (r'.controller.quotas.get? key).map Quota.used =
    (r.controller.quotas.get? key).map Quota.used
  metrics : r'.controller.metrics =
    { r.controller.metrics with denied := r.controller.metrics.denied + denials }
  answers : answers r'.log = answers r.log ++ List.replicate denials .denied
  renewed : ∀ key, times key .renewed r'.log = times key .renewed r.log

variable {r r' r'' : Reception} {m n : Nat}

namespace Frozen

theorem refl (stopped : r.controller.cancelled = true) : Frozen 0 r r where
  stopped := stopped
  policy := rfl
  tracked := rfl
  permits := fun _ => rfl
  metrics := rfl
  answers := (List.append_nil _).symm
  renewed := fun _ => rfl

theorem trans (first : Frozen m r r') (second : Frozen n r' r'') : Frozen (m + n) r r'' where
  stopped := second.stopped
  policy := second.policy.trans first.policy
  tracked := second.tracked.trans first.tracked
  permits := fun key => (second.permits key).trans (first.permits key)
  metrics := by
    rw [second.metrics, first.metrics, Nat.add_assoc]
  answers := by
    rw [second.answers, first.answers, List.append_assoc, List.replicate_append_replicate]
  renewed := fun key => (second.renewed key).trans (first.renewed key)

/-- What is left to a client stays as it is, also if the client was never seen. -/
theorem remaining? (frozen : Frozen n r r') (key : String) :
    r'.controller.remaining? key = r.controller.remaining? key := by
  have left : ∀ c : Controller, c.remaining? key =
      ((c.quotas.get? key).map Quota.used).map (c.policy.capacity - ·) := by
    intro c
    rw [Controller.remaining?, Option.map_map]
    rfl
  rw [left, left, frozen.permits, frozen.policy]

end Frozen

theorem request_of_stopped (stopped : r.controller.cancelled = true) (key : String) :
    r.request key = { r with controller := (r.controller.tally .denied).publish .denied }.note key
      [.answered .denied] := by
  rw [request, Controller.request, if_pos stopped]

theorem frozen_request (stopped : r.controller.cancelled = true) (key : String) :
    Frozen 1 r (r.request key) := by
  rw [request_of_stopped stopped]
  refine ⟨stopped, rfl, rfl, fun _ => rfl, rfl, answers_note _ _ _, fun k => ?_⟩
  exact times_append_silent (.inr (by simp))

theorem frozen_run (stopped : r.controller.cancelled = true) (key : String) :
    Frozen 0 r (r.run key) := by
  match tracked : r.controller.quotas.get? key with
  | none =>
      have idle : r.run key = r := by rw [run, tracked]
      rw [idle]
      exact .refl stopped
  | some q =>
      have runs : r.run key = { r with controller := r.controller.poll r.now key }.note key
          (q.reports true r.now) := by rw [run, tracked, stopped]
      obtain ⟨events, polled⟩ := Controller.poll_eq r.now tracked
      obtain ⟨used, -, silent⟩ := (q.ran r.controller.policy.window r.now true).of_cancelled
      rw [runs, polled, stopped]
      refine ⟨rfl, rfl, ?_, fun k => ?_, rfl, ?_, fun k => ?_⟩
      · show (r.controller.quotas.insert key _).size = _
        rw [Table.size_insert, tracked]
        rfl
      · show ((r.controller.quotas.insert key _).get? k).map Quota.used = _
        rw [Table.get?_insert]
        by_cases same : key = k
        · rw [if_pos same, ← same, tracked, Option.map_some, Option.map_some, used]
        · rw [if_neg same]
      · rw [answers_note, Quota.filterMap_answer?_reports]
        rfl
      · exact times_append_silent (.inr silent)

/-- A renewal that has run after the stop is no longer pending. -/
theorem mem_pending_run (stopped : r.controller.cancelled = true) (key k : String) :
    key ∈ (r.run k).controller.pending ↔ key ∈ r.controller.pending ∧ k ≠ key := by
  match tracked : r.controller.quotas.get? k with
  | none =>
      have idle : r.run k = r := by rw [run, tracked]
      rw [idle]
      refine ⟨fun waits => ⟨waits, ?_⟩, And.left⟩
      rintro rfl
      obtain ⟨q, present, -⟩ := Controller.mem_pending.mp waits
      rw [tracked] at present
      cases present
  | some q =>
      have ran : (r.run k).controller.quotas = r.controller.quotas.insert k
          (q.poll r.controller.policy.window true r.now).1 := by
        rw [run, tracked, ← stopped]
        exact Controller.poll_tracked _ tracked
      rw [Controller.mem_pending, Controller.mem_pending, ran, Table.get?_insert]
      by_cases same : k = key
      · rw [if_pos same]
        constructor
        · rintro ⟨_, ⟨⟩, live⟩
          have ended := (q.ran r.controller.policy.window r.now true).of_cancelled.2.1
          exact absurd live (ended ▸ Bool.false_ne_true)
        · exact fun both => absurd same both.2
      · rw [if_neg same]
        exact (and_iff_left same).symm

theorem frozen_wait (stopped : r.controller.cancelled = true) (now : Nat) :
    Frozen 0 r { r with now := now } :=
  ⟨stopped, rfl, rfl, fun _ => rfl, rfl, (List.append_nil _).symm, fun _ => rfl⟩

/-- The stop itself changes no quota. -/
theorem frozen_stop (r : Reception) :
    Frozen 0 r { r with controller := r.controller.requestShutdown } :=
  ⟨rfl, rfl, rfl, fun _ => rfl, rfl, (List.append_nil _).symm, fun _ => rfl⟩

theorem frozen_giveUp (stopped : r.controller.cancelled = true) :
    Frozen 0 r { r with controller := r.controller.giveUp.2 } := by
  refine ⟨stopped, rfl, Table.size_mapValues _ _, fun key => ?_, rfl, (List.append_nil _).symm,
    fun _ => rfl⟩
  show ((r.controller.quotas.mapValues fun _ q => q.abort).get? key).map Quota.used = _
  rw [Table.get?_mapValues, Option.map_map]
  exact congrArg (fun f => (r.controller.quotas.get? key).map f) (funext fun q => Quota.used_abort)

/-! ## Requests in flight at the stop -/

/-- Whether a request may still take a permit of a client. -/
def Request.mayTake (key : String) (x : Request) : Bool := x.key = key && x.stage.isOpen

/-- Whether a request may still be counted as allowed. -/
def Request.mayCount (x : Request) : Bool := x.stage.isOpen || x.stage = .answered .allowed

/-- Whether a request may still make a quota. -/
def Request.mayMeet (x : Request) : Bool := x.stage = .entered

/-- Whether a request may still start a renewal. -/
def Request.mayStart (x : Request) : Bool := x.stage = .entered || x.stage = .found

/-- From `n` to `n'` nothing is taken back, and what is added was pending before and no longer
is. -/
def Draws (n pending n' pending' : Nat) : Prop := n ≤ n' ∧ n' + pending' ≤ n + pending

theorem Draws.refl (n pending : Nat) : Draws n pending n pending :=
  ⟨Nat.le_refl _, Nat.le_refl _⟩

theorem Draws.trans {n n' n'' k k' k'' : Nat} (first : Draws n k n' k')
    (second : Draws n' k' n'' k'') : Draws n k n'' k'' :=
  ⟨first.1.trans second.1, second.2.trans first.2⟩

/-- What one request draws, all requests together draw. -/
theorem Draws.among {n n' k k' x y : Nat} (moved : k' + x = k + y) (own : Draws n x n' y) :
    Draws n k n' k' := by
  obtain ⟨more, drawn⟩ := own
  exact ⟨more, by omega⟩

/-- From one reception to a later one, of a controller that was asked to stop, no renewal has given
anything back, and what has come about was before the requests under way: a permit, a quota, a
renewal and an answer each, at most. -/
structure Fading (r r' : Reception) : Prop where
  stopped : r'.controller.cancelled = true
  renewed : ∀ key, times key .renewed r'.log = times key .renewed r.log
  permits : ∀ key, Draws (r.controller.taken key) (r.underway.countP (·.mayTake key))
    (r'.controller.taken key) (r'.underway.countP (·.mayTake key))
  allowed : Draws r.controller.metrics.allowed (r.underway.countP Request.mayCount)
    r'.controller.metrics.allowed (r'.underway.countP Request.mayCount)
  tracked : Draws r.controller.trackedKeys (r.underway.countP Request.mayMeet)
    r'.controller.trackedKeys (r'.underway.countP Request.mayMeet)
  renewals : Draws r.controller.metrics.renewalsStarted (r.underway.countP Request.mayStart)
    r'.controller.metrics.renewalsStarted (r'.underway.countP Request.mayStart)

namespace Fading

variable {key : String} {q : Quota}

theorem refl (stopped : r.controller.cancelled = true) : Fading r r where
  stopped := stopped
  renewed := fun _ => rfl
  permits := fun _ => .refl _ _
  allowed := .refl _ _
  tracked := .refl _ _
  renewals := .refl _ _

theorem trans (first : Fading r r') (second : Fading r' r'') : Fading r r'' where
  stopped := second.stopped
  renewed := fun key => (second.renewed key).trans (first.renewed key)
  permits := fun key => (first.permits key).trans (second.permits key)
  allowed := first.allowed.trans second.allowed
  tracked := first.tracked.trans second.tracked
  renewals := first.renewals.trans second.renewals

/-- Where no request goes on, what is frozen fades. -/
theorem of_frozen {denials : Nat} (frozen : Frozen denials r r')
    (underway : r'.underway = r.underway) : Fading r r' := by
  have taken : ∀ key, r'.controller.taken key = r.controller.taken key := fun key =>
    congrArg (Option.getD · 0) (frozen.permits key)
  have tracked : r'.controller.trackedKeys = r.controller.trackedKeys := frozen.tracked
  refine ⟨frozen.stopped, frozen.renewed, fun key => ?_, ?_, ?_, ?_⟩
  · rw [taken, underway]
    exact .refl _ _
  · rw [frozen.metrics, underway]
    exact .refl _ _
  · rw [tracked, underway]
    exact .refl _ _
  · rw [frozen.metrics, underway]
    exact .refl _ _

/-- One request goes on, from `x` to `y`, and draws on what was before it. -/
theorem of_onward {x y : Option Request} (stopped : r'.controller.cancelled = true)
    (renewed : ∀ key, times key .renewed r'.log = times key .renewed r.log)
    (moved : ∀ p, r'.underway.countP p + (if x.any p then 1 else 0) =
      r.underway.countP p + if y.any p then 1 else 0)
    (permits : ∀ key, Draws (r.controller.taken key) (if x.any (·.mayTake key) then 1 else 0)
      (r'.controller.taken key) (if y.any (·.mayTake key) then 1 else 0))
    (allowed : Draws r.controller.metrics.allowed (if x.any Request.mayCount then 1 else 0)
      r'.controller.metrics.allowed (if y.any Request.mayCount then 1 else 0))
    (tracked : Draws r.controller.trackedKeys (if x.any Request.mayMeet then 1 else 0)
      r'.controller.trackedKeys (if y.any Request.mayMeet then 1 else 0))
    (renewals : Draws r.controller.metrics.renewalsStarted
      (if x.any Request.mayStart then 1 else 0)
      r'.controller.metrics.renewalsStarted (if y.any Request.mayStart then 1 else 0)) :
    Fading r r' :=
  ⟨stopped, renewed, fun key => (permits key).among (moved _), allowed.among (moved _),
    tracked.among (moved _), renewals.among (moved _)⟩

/-- A request that passes a stage has no more before it than it had. -/
theorem passed {x : Request} {stage : Stage} (stopped : r.controller.cancelled = true)
    (there : x ∈ r.underway)
    (take : ∀ key, (⟨x.key, stage⟩ : Request).mayTake key = true → x.mayTake key = true)
    (count : (⟨x.key, stage⟩ : Request).mayCount = true → x.mayCount = true)
    (meet : (⟨x.key, stage⟩ : Request).mayMeet = true → x.mayMeet = true)
    (start : (⟨x.key, stage⟩ : Request).mayStart = true → x.mayStart = true) :
    Fading r (r.reach x r.controller stage) := by
  have le : ∀ {p p' : Bool}, (p = true → p' = true) →
      (if p then 1 else 0) ≤ if p' then 1 else 0 := by decide
  exact of_onward (x := some x) (y := some ⟨x.key, stage⟩) stopped (fun _ => rfl)
    (countP_reach _ _ there) (fun key => ⟨Nat.le_refl _, Nat.add_le_add_left (le (take key)) _⟩)
    ⟨Nat.le_refl _, Nat.add_le_add_left (le count) _⟩
    ⟨Nat.le_refl _, Nat.add_le_add_left (le meet) _⟩
    ⟨Nat.le_refl _, Nat.add_le_add_left (le start) _⟩

theorem refuse (stopped : r.controller.cancelled = true) (key : String) :
    Fading r ({ r with underway := ⟨key, .answered .denied⟩ :: r.underway }.note key
      [.answered .denied]) := by
  refine of_onward (x := none) (y := some ⟨key, .answered .denied⟩) stopped (fun k => ?_)
    (fun p => ?_) (fun k => ?_) ?_ ?_ ?_
  · exact times_append_silent (.inr (by simp))
  · simp [note, List.countP_cons]
  · simp [Draws, note, Request.mayTake, Stage.isOpen]
  · simp [Draws, note, Request.mayCount, Stage.isOpen]
  · simp [Draws, note, Request.mayMeet, Controller.trackedKeys]
  · simp [Draws, note, Request.mayStart]

theorem meet (stopped : r.controller.cancelled = true) (there : ⟨key, .entered⟩ ∈ r.underway)
    (untracked : r.controller.quotas.get? key = none) :
    Fading r (r.reach ⟨key, .entered⟩ (r.controller.meet key) .found) := by
  refine of_onward (x := some ⟨key, .entered⟩) (y := some ⟨key, .found⟩) stopped
    (fun _ => rfl) (countP_reach _ _ there) (fun k => ?_) ?_ ?_ ?_
  · simp [Draws, reach, Controller.taken_meet untracked, Request.mayTake, Stage.isOpen]
  · simp [Draws, reach, Controller.meet, Request.mayCount, Stage.isOpen]
  · simp [Draws, reach, Controller.meet, Request.mayMeet, Controller.trackedKeys,
      Table.size_insert, untracked]
  · simp [Draws, reach, Controller.meet, Request.mayStart]

theorem startRenewal (stopped : r.controller.cancelled = true)
    (there : ⟨key, .found⟩ ∈ r.underway) (tracked : r.controller.quotas.get? key = some q) :
    Fading r (r.reach ⟨key, .found⟩ (r.controller.startRenewal key q) .ready) := by
  refine of_onward (x := some ⟨key, .found⟩) (y := some ⟨key, .ready⟩) stopped
    (fun _ => rfl) (countP_reach _ _ there) (fun k => ?_) ?_ ?_ ?_
  · simp [Draws, reach, Controller.taken_startRenewal tracked, Request.mayTake, Stage.isOpen]
  · simp [Draws, reach, Controller.startRenewal, Request.mayCount, Stage.isOpen]
  · simp [Draws, reach, Controller.startRenewal, Request.mayMeet, Controller.trackedKeys,
      Table.size_insert, tracked]
  · simp [Draws, reach, Controller.startRenewal, Request.mayStart]

/-- A request comes to its answer, which takes a permit of its own client at most. -/
theorem answer {c : Controller} (stopped : c.cancelled = true)
    (there : ⟨key, .ready⟩ ∈ r.underway)
    (taken : ∀ k, Draws (r.controller.taken k) (if key = k then 1 else 0) (c.taken k) 0)
    (metrics : c.metrics = r.controller.metrics)
    (tracked : c.trackedKeys = r.controller.trackedKeys) (a : Admission) :
    Fading r (r.answered ⟨key, .ready⟩ c a) := by
  refine of_onward (x := some ⟨key, .ready⟩) (y := some ⟨key, .answered a⟩) stopped
    (fun _ => times_append_silent (.inr (by simp))) (countP_reach c _ there) (fun k => ?_) ?_ ?_ ?_
  · simpa [answered, note, reach, Request.mayTake, Stage.isOpen] using taken k
  · cases a with
    | allowed | denied =>
        simp [Draws, answered, note, reach, metrics, Request.mayCount, Stage.isOpen]
  · simp [Draws, answered, note, reach, tracked, Request.mayMeet]
  · simp [Draws, answered, note, reach, metrics, Request.mayStart]

theorem tally {a : Admission} (stopped : r.controller.cancelled = true)
    (there : ⟨key, .answered a⟩ ∈ r.underway) :
    Fading r (r.reach ⟨key, .answered a⟩ (r.controller.tally a) (.counted a)) := by
  refine of_onward (x := some ⟨key, .answered a⟩) (y := some ⟨key, .counted a⟩)
    ((Controller.cancelled_tally a).trans stopped) (fun _ => rfl) (countP_reach _ _ there)
    (fun k => ?_) ?_ ?_ ?_
  · simp [Draws, reach, Controller.taken, Controller.quotas_tally, Request.mayTake, Stage.isOpen]
  · cases a with
    | allowed | denied =>
        simp [Draws, reach, Controller.tally, Request.mayCount, Stage.isOpen]
  · simp [Draws, reach, Request.mayMeet, Controller.trackedKeys, Controller.quotas_tally]
  · simp [Draws, reach, Request.mayStart, Controller.renewalsStarted_tally]

theorem publish {a : Admission} (stopped : r.controller.cancelled = true)
    (there : ⟨key, .counted a⟩ ∈ r.underway) :
    Fading r { r with
      controller := r.controller.publish a
      underway := r.underway.erase ⟨key, .counted a⟩ } := by
  refine of_onward (x := some ⟨key, .counted a⟩) (y := none) stopped (fun _ => rfl)
    (countP_erase there) (fun k => ?_) ?_ ?_ ?_
  · simp [Draws, Controller.taken, Controller.publish, Request.mayTake, Stage.isOpen]
  · simp [Draws, Controller.publish, Request.mayCount, Stage.isOpen]
  · simp [Draws, Controller.publish, Request.mayMeet, Controller.trackedKeys]
  · simp [Draws, Controller.publish, Request.mayStart]

theorem step (stopped : r.controller.cancelled = true) {m : Move} (step : Step r m r') :
    Fading r r' := by
  cases step with
  | refused key => exact refuse stopped key
  | entered key running => exact absurd (stopped.symm.trans running) Bool.noConfusion
  | known there | renewing there =>
      exact passed stopped there (by simp [Request.mayTake, Stage.isOpen])
        (by simp [Request.mayCount, Stage.isOpen]) (by simp [Request.mayMeet])
        (by simp [Request.mayStart])
  | met there untracked => exact meet stopped there untracked
  | begun there tracked => exact startRenewal stopped there tracked
  | @allowed key q there tracked =>
      refine answer (c := r.controller.give key q) stopped there (fun k => ?_) rfl ?_ .allowed
      · rw [Controller.taken_give tracked]
        exact ⟨Nat.le_add_right _ _, Nat.le_refl _⟩
      · rw [Controller.trackedKeys, Controller.give, Table.size_insert, tracked]
        rfl
  | exhausted there =>
      exact answer stopped there (fun _ => ⟨Nat.le_refl _, Nat.le_add_right _ _⟩) rfl rfl .denied
  | tallied there => exact tally stopped there
  | published there => exact publish stopped there
  | @ran key q tracked =>
      have runs : r.run key = { r with controller := r.controller.poll r.now key }.note key
          (q.reports r.controller.cancelled r.now) := by rw [run, tracked]
      rw [← runs]
      refine of_frozen (frozen_run stopped key) ?_
      rw [runs]
      rfl
  | waited now => exact of_frozen (frozen_wait stopped now) rfl
  | stopped => exact of_frozen (frozen_stop r) rfl
  | cutOff => exact of_frozen (frozen_giveUp stopped) rfl
  | unasked | unknown | tooEarly => exact .refl stopped

theorem acts (stopped : r.controller.cancelled = true) (ms : List Move) :
    Fading r (r.acts ms) := by
  induction ms generalizing r with
  | nil => exact .refl stopped
  | cons m ms ih =>
      have first := step stopped (act_step r m)
      exact first.trans (ih first.stopped)

end Fading

/-- What can still come about after the stop was before the requests under way. Whatever follows,
each of them takes one permit at most, is counted as allowed once at most, and makes one quota and
starts one renewal at most. No renewal gives anything back. -/
theorem bounded_after_stop (stopped : r.controller.cancelled = true) (ms : List Move)
    (key : String) :
    let r' := r.acts ms
    times key .renewed r'.log = times key .renewed r.log ∧
    r.controller.taken key ≤ r'.controller.taken key ∧
    r'.controller.taken key ≤ r.controller.taken key + r.underway.countP (·.mayTake key) ∧
    r'.controller.metrics.allowed ≤
      r.controller.metrics.allowed + r.underway.countP Request.mayCount ∧
    r'.controller.trackedKeys ≤ r.controller.trackedKeys + r.underway.countP Request.mayMeet ∧
    r'.controller.metrics.renewalsStarted ≤
      r.controller.metrics.renewalsStarted + r.underway.countP Request.mayStart := by
  have fading := Fading.acts stopped ms
  exact ⟨fading.renewed key, (fading.permits key).1, Nat.le_of_add_right_le (fading.permits key).2,
    Nat.le_of_add_right_le fading.allowed.2, Nat.le_of_add_right_le fading.tracked.2,
    Nat.le_of_add_right_le fading.renewals.2⟩

end Reception

/-- A controller that shuts down, with the deadline of the shutdown that waits for the renewals,
what that shutdown came to, and what the shutdowns after it came to. -/
structure Closing where
  reception : Reception
  deadline : Option Nat
  first : Option (Except Failure Unit)
  further : List (Except Failure Unit)

namespace Closing

open Reception Journal

/-- What may happen next. -/
inductive Move where
  /-- A request comes and is answered. -/
  | request (key : String)
  /-- The renewal of a client runs. -/
  | run (key : String)
  /-- The clock comes to show a time. -/
  | wait (now : Nat)
  /-- The controller is asked to stop, by one who waits so many milliseconds at most. -/
  | shutdown (wait : Nat)
  /-- The shutdown that waits sees whether it can end. -/
  | look

namespace Move

def isRequest : Move → Bool
  | .request _ => true
  | .run _ | .wait _ | .shutdown _ | .look => false

def isShutdown : Move → Bool
  | .shutdown _ => true
  | .request _ | .run _ | .wait _ | .look => false

end Move

def ofReception (r : Reception) : Closing := ⟨r, none, none, []⟩

/-- The controller is asked to stop. Only the first who asks waits. -/
def shutdown (c : Closing) (wait : Nat) : Closing :=
  if c.reception.controller.cancelled then { c with further := c.further ++ [.ok ()] }
  else { c with
    reception := c.reception.act .stop
    deadline := some (c.reception.now + wait) }

/-- Whether the shutdown that waits can end: the deadline has come, or no renewal may still run. -/
def Ends (c : Closing) (due : Nat) : Prop :=
  due ≤ c.reception.now ∨ c.reception.controller.pending = []

instance (c : Closing) (due : Nat) : Decidable (c.Ends due) :=
  inferInstanceAs (Decidable (due ≤ c.reception.now ∨ c.reception.controller.pending = []))

def ended (c : Closing) : Closing :=
  { c with
    reception := { c.reception with controller := c.reception.controller.giveUp.2 }
    deadline := none
    first := some c.reception.controller.giveUp.1 }

def look (c : Closing) : Closing :=
  match c.deadline with
  | none => c
  | some due => if c.Ends due then c.ended else c

/-- What a move makes of the closing. -/
def act (c : Closing) : Move → Closing
  | .request key => { c with reception := c.reception.request key }
  | .run key => { c with reception := c.reception.run key }
  | .wait now => { c with reception := c.reception.act (.wait now) }
  | .shutdown wait => c.shutdown wait
  | .look => c.look

def acts (c : Closing) (ms : List Move) : Closing := ms.foldl act c

variable {c : Closing} {r : Reception} {wait : Nat} {later : List Move} {m : Move}

theorem look_of_ends {due : Nat} (waits : c.deadline = some due) (ends : c.Ends due) :
    c.look = c.ended := by
  simp only [look, waits, if_pos ends]

/-- The shutdown that waits ends with the look that follows the moves after which it can end. -/
theorem acts_look {due : Nat} {ms : List Move} (waits : (c.acts ms).deadline = some due)
    (ends : (c.acts ms).Ends due) : c.acts (ms ++ [.look]) = (c.acts ms).ended := by
  rw [acts, List.foldl_append]
  exact look_of_ends waits ends

/-- A look ends the shutdown that waits, or changes nothing. -/
theorem look_cases (c : Closing) :
    c.look = c ∨ ∃ due, c.deadline = some due ∧ c.Ends due ∧ c.look = c.ended := by
  match waits : c.deadline with
  | none => exact .inl (by rw [look, waits])
  | some due =>
      by_cases ends : c.Ends due
      · exact .inr ⟨due, rfl, ends, look_of_ends waits ends⟩
      · exact .inl (by simp only [look, waits, if_neg ends])

/-- After every move the controller is still frozen, and who asks again is done at once. -/
theorem frozen_act (stopped : c.reception.controller.cancelled = true) (m : Move) :
    Frozen (if m.isRequest then 1 else 0) c.reception (c.act m).reception ∧
      (c.act m).further = c.further ++ if m.isShutdown then [.ok ()] else [] := by
  match m with
  | .request key => exact ⟨frozen_request stopped key, (List.append_nil _).symm⟩
  | .run key => exact ⟨frozen_run stopped key, (List.append_nil _).symm⟩
  | .wait now => exact ⟨frozen_wait stopped now, (List.append_nil _).symm⟩
  | .shutdown wait =>
      rw [act, shutdown, if_pos stopped]
      exact ⟨.refl stopped, rfl⟩
  | .look =>
      obtain same | ⟨due, -, -, ends⟩ := c.look_cases
      · rw [act, same]
        exact ⟨.refl stopped, (List.append_nil _).symm⟩
      · rw [act, ends]
        exact ⟨frozen_giveUp stopped, (List.append_nil _).symm⟩

theorem frozen_acts (stopped : c.reception.controller.cancelled = true) (ms : List Move) :
    Frozen (ms.countP Move.isRequest) c.reception (c.acts ms).reception ∧
      (c.acts ms).further = c.further ++ List.replicate (ms.countP Move.isShutdown) (.ok ()) := by
  induction ms generalizing c with
  | nil => exact ⟨.refl stopped, (List.append_nil _).symm⟩
  | cons m ms ih =>
      obtain ⟨frozen, further⟩ := frozen_act stopped m
      obtain ⟨frozen', further'⟩ := ih frozen.stopped
      refine ⟨?_, ?_⟩
      · rw [List.countP_cons, Nat.add_comm]
        exact frozen.trans frozen'
      · show ((c.act m).acts ms).further = _
        rw [further', further, List.append_assoc, List.countP_cons]
        by_cases again : m.isShutdown = true
        · simp only [again, if_true, List.replicate_succ, List.singleton_append]
        · simp only [again, Bool.false_eq_true, if_false, List.nil_append, Nat.add_zero]

/-- Only a look can end the shutdown that waits, and no other move changes its deadline. -/
theorem waits_act (stopped : c.reception.controller.cancelled = true) :
    (c.act m).first = c.first ∧ (c.act m).deadline = c.deadline ∨
      m = .look ∧ ∃ due, c.deadline = some due ∧ c.Ends due ∧ c.act m = c.ended := by
  match m with
  | .request _ | .run _ | .wait _ => exact .inl ⟨rfl, rfl⟩
  | .shutdown wait =>
      rw [act, shutdown, if_pos stopped]
      exact .inl ⟨rfl, rfl⟩
  | .look =>
      rw [act]
      obtain same | ⟨due, waits, ends, ended⟩ := c.look_cases
      · exact .inl ⟨congrArg first same, congrArg deadline same⟩
      · exact .inr ⟨rfl, due, waits, ends, ended⟩

/-- A shutdown that has ended stays so. -/
theorem first_acts_of_ended (stopped : c.reception.controller.cancelled = true)
    (ended : c.deadline = none) (ms : List Move) : (c.acts ms).first = c.first := by
  induction ms generalizing c with
  | nil => rfl
  | cons m ms ih =>
      obtain ⟨first, deadline⟩ | ⟨-, due, waits, -⟩ := waits_act (m := m) stopped
      · exact (ih (frozen_act stopped m).1.stopped (deadline.trans ended)).trans first
      · rw [ended] at waits
        cases waits

/-- While a shutdown waits, a renewal stays pending until it runs. -/
theorem mem_pending_acts (stopped : c.reception.controller.cancelled = true) {ms : List Move}
    (waits : (c.acts ms).first = none) (key : String) :
    key ∈ (c.acts ms).reception.controller.pending ↔
      key ∈ c.reception.controller.pending ∧ .run key ∉ ms := by
  induction ms generalizing c with
  | nil => exact (and_iff_left List.not_mem_nil).symm
  | cons m ms ih =>
      have stopped' := (frozen_act stopped m).1.stopped
      have moved : key ∈ (c.act m).reception.controller.pending ↔
          key ∈ c.reception.controller.pending ∧ .run key ≠ m := by
        match m with
        | .request k => simp [act, request_of_stopped stopped, note, Controller.tally,
            Controller.publish, Controller.pending]
        | .run k => simp [act, mem_pending_run stopped, eq_comm]
        | .wait now => simp [act, Reception.act]
        | .shutdown wait => simp [act, shutdown, stopped]
        | .look =>
            obtain same | ⟨due, -, -, ended⟩ := c.look_cases
            · simp [act, same]
            · have settled : (c.acts (.look :: ms)).first = c.ended.first :=
                ended ▸ first_acts_of_ended stopped' (congrArg deadline ended) ms
              cases waits.symm.trans settled
      rw [show c.acts (m :: ms) = (c.act m).acts ms from rfl, ih stopped' waits, moved,
        List.mem_cons, not_or, and_assoc]

/-- What the shutdown that waits comes to, it comes to where it ends. -/
theorem first_acts (stopped : c.reception.controller.cancelled = true) {due : Nat}
    (waits : c.deadline = some due) (none : c.first = none) {ms : List Move}
    {result : Except Failure Unit} (ended : (c.acts ms).first = some result) :
    ∃ early rest, ms = early ++ .look :: rest ∧ (c.acts early).Ends due ∧
      result = (c.acts early).reception.controller.giveUp.1 := by
  induction ms generalizing c with
  | nil =>
      rw [show (c.acts []).first = c.first from rfl, none] at ended
      cases ended
  | cons m ms ih =>
      have stopped' := (frozen_act stopped m).1.stopped
      obtain ⟨first, deadline⟩ | ⟨rfl, due', waits', ends, same⟩ := waits_act (m := m) stopped
      · obtain ⟨early, rest, rfl, found⟩ :=
          ih stopped' (deadline.trans waits) (first.trans none) ended
        exact ⟨m :: early, rest, rfl, found⟩
      · obtain rfl : due = due' := Option.some.inj (waits.symm.trans waits')
        refine ⟨[], ms, rfl, ends, ?_⟩
        have settled : ((c.act .look).acts ms).first = (c.act .look).first :=
          first_acts_of_ended stopped' (by rw [same]; rfl) ms
        rw [same] at settled
        exact (Option.some.inj (settled.symm.trans (same ▸ ended))).symm

/-- Whoever asks for the stop changes no quota. Who comes first to ask for it waits, and who comes
second is done. -/
theorem frozen_shutdown (r : Reception) (wait : Nat) :
    Frozen 0 r ((ofReception r).shutdown wait).reception ∧
      ((ofReception r).shutdown wait).first = none ∧
      ((ofReception r).shutdown wait).deadline =
        (if r.controller.cancelled then none else some (r.now + wait)) ∧
      ((ofReception r).shutdown wait).further =
        List.replicate (if r.controller.cancelled then 1 else 0) (.ok ()) := by
  by_cases stopped : r.controller.cancelled = true
  · have again : (ofReception r).shutdown wait = ⟨r, none, none, [.ok ()]⟩ := if_pos stopped
    rw [again, if_pos stopped, if_pos stopped]
    exact ⟨.refl stopped, rfl, rfl, rfl⟩
  · have waits : (ofReception r).shutdown wait =
        ⟨r.act .stop, some (r.now + wait), none, []⟩ := if_neg stopped
    rw [waits, if_neg stopped, if_neg stopped]
    exact ⟨frozen_stop r, rfl, rfl, rfl⟩

/-- A shutdown that ends by giving up reports exactly the renewals that may still run. -/
theorem giveUp_reports (c : Controller) :
    c.giveUp.1 = if c.pending = [] then .ok () else .error (.shutdown c.pending) := by
  rw [Controller.giveUp]
  simp only [List.isEmpty_iff]

/-- A shutdown freezes the controller. Whoever asks it to stop, with whatever wait, and whatever
comes later:

Every request is denied, which one counter shows, and no other counter moves. No client becomes
known, and what is left to each client stays as it is, also where a tick and the stop come to be
seen by one run of its renewal. Everybody who asks again to stop is done at once. The first who asks
comes to an end where no renewal may still run, or at the deadline. In the latter case the clients
are reported whose renewals may still run, each once and in the order of bytes. -/
theorem shutdown_freezes (r : Reception) (wait : Nat) (later : List Move) :
    let c := ((ofReception r).shutdown wait).acts later
    c.reception.controller.cancelled = true ∧
    c.reception.controller.trackedKeys = r.controller.trackedKeys ∧
    (∀ key, c.reception.controller.remaining? key = r.controller.remaining? key ∧
      times key .renewed c.reception.log = times key .renewed r.log) ∧
    c.reception.controller.metrics = { r.controller.metrics with
      denied := r.controller.metrics.denied + later.countP Move.isRequest } ∧
    answers c.reception.log =
      answers r.log ++ List.replicate (later.countP Move.isRequest) .denied ∧
    c.further = List.replicate
      (later.countP Move.isShutdown + if r.controller.cancelled then 1 else 0) (.ok ()) ∧
    ∀ result, c.first = some result → ∃ early rest pending, later = early ++ .look :: rest ∧
      pending.Pairwise (fun a b : String => Glyph.encode a.toList < Glyph.encode b.toList) ∧
      (∀ key, key ∈ pending ↔ ∃ q, (((ofReception r).shutdown wait).acts
        early).reception.controller.quotas.get? key = some q ∧ q.renewal.isLive = true) ∧
      (pending = [] ∧ result = .ok () ∨
        pending ≠ [] ∧ result = .error (.shutdown pending) ∧
        r.now + wait ≤ (((ofReception r).shutdown wait).acts early).reception.now) := by
  intro c
  obtain ⟨asked, unanswered, deadline, already⟩ := frozen_shutdown r wait
  obtain ⟨frozen, further⟩ := frozen_acts asked.stopped later
  have whole := asked.trans frozen
  rw [Nat.zero_add] at whole
  refine ⟨whole.stopped, whole.tracked, fun key => ⟨whole.remaining? key, whole.renewed key⟩,
    whole.metrics, whole.answers, ?_, fun result ended => ?_⟩
  · rw [further, already, List.replicate_append_replicate, Nat.add_comm]
  · by_cases stopped : r.controller.cancelled = true
    · rw [if_pos stopped] at deadline
      have same := first_acts_of_ended asked.stopped deadline later
      rw [ended, unanswered] at same
      cases same
    · rw [if_neg stopped] at deadline
      obtain ⟨early, rest, split, ends, rfl⟩ := first_acts asked.stopped deadline unanswered ended
      refine ⟨early, rest, _, split, Controller.pending_ascending _,
        fun key => Controller.mem_pending, ?_⟩
      rw [giveUp_reports]
      by_cases settled :
          (((ofReception r).shutdown wait).acts early).reception.controller.pending = []
      · exact .inl ⟨settled, if_pos settled⟩
      · exact .inr ⟨settled, if_neg settled, ends.resolve_right settled⟩

/-- The renewals of two out of three clients have begun. One of the two has spent its quota, and its
tick is due. -/
def threeClients : Reception :=
  (start samplePolicy 0).acts
    ([.enter "c"] ++ onward "c" [.entered, .found] ++ [.run "c", .enter "b"] ++
      onward "b" [.entered, .found] ++ [.enter "a"] ++ onward "a" [.entered, .found, .ready] ++
      [.run "a", .wait 10])

/-- Only the renewal of `c` runs before the deadline, so the two others are reported. The quota of
`a` stays spent, although a tick was due, and none is made for `d`. -/
theorem two_stuck_renewals_reported :
    let c := ((ofReception threeClients).shutdown 50).acts
      [.request "a", .request "d", .run "c", .wait 60, .look, .run "a", .shutdown 5]
    c.first = some (.error (.shutdown ["a", "b"])) ∧ c.further = [.ok ()] ∧
      c.reception.controller.remaining? "a" = some 0 ∧
      c.reception.controller.remaining? "d" = none := by
  intro c
  obtain ⟨-, -, left, -, -, further, -⟩ := shutdown_freezes threeClients 50
    [.request "a", .request "d", .run "c", .wait 60, .look, .run "a", .shutdown 5]
  have sorted : (["b", "a"].mergeSort fun a b => a ≤ b) = ["a", "b"] := by simp [List.mergeSort]
  have first : c.first = some (
      if (["b", "a"].mergeSort fun a b => a ≤ b).isEmpty then .ok ()
      else .error (.shutdown (["b", "a"].mergeSort fun a b => a ≤ b))) := rfl
  rw [sorted] at first
  refine ⟨first, further.trans (by decide), (left "a").1.trans (by decide),
    (left "d").1.trans (by decide)⟩

/-- The report of the first shutdown names the clients whose renewals could run when it began, and
have not run before it ended. -/
theorem reported_unless_run {early : List Move}
    (waits : (((ofReception r).shutdown wait).acts early).first = none) (key : String) :
    key ∈ (((ofReception r).shutdown wait).acts early).reception.controller.pending ↔
      key ∈ r.controller.pending ∧ .run key ∉ early := by
  have asked : ((ofReception r).shutdown wait).reception.controller.pending =
      r.controller.pending := by
    rw [shutdown]
    split
    · rfl
    · rfl
  rw [mem_pending_acts (frozen_shutdown r wait).1.stopped waits, asked]

theorem acts_runs (c : Closing) (keys : List String) :
    c.acts (keys.map .run) = { c with reception := c.reception.runs keys } := by
  induction keys generalizing c with
  | nil => rfl
  | cons key keys ih => exact ih (c.act (.run key))

/-- Once every renewal has run after the stop, none is pending. -/
theorem pending_runs_keys (stopped : r.controller.cancelled = true) :
    (r.runs r.controller.quotas.keys).controller.pending = [] := by
  have waits := acts_runs (ofReception r) r.controller.quotas.keys
  refine List.eq_nil_iff_forall_not_mem.mpr fun key pending => ?_
  have left := mem_pending_acts (c := ofReception r) stopped (by rw [waits]; rfl) key
  rw [waits] at left
  obtain ⟨before, idle⟩ := left.mp pending
  obtain ⟨q, tracked, -⟩ := Controller.mem_pending.mp before
  have known : key ∈ r.controller.quotas.keys :=
    Table.mem_keys.mpr (Option.isSome_iff_exists.mpr ⟨q, tracked⟩)
  exact idle (List.mem_map_of_mem known)

/-- What a host shows of the end of a shutdown. -/
def shown : Except Failure Unit → Scenario.AdmissionResult
  | .ok () => .done
  | .error f => .failure f

def atEnd (h : Scenario.AdmissionRun) (wait : Nat) : Controller :=
  if h.host = .driven ∧ wait ≠ 0 then h.controller.requestShutdown.pollAll h.now
  else h.controller.requestShutdown

theorem shutdown_of_running {h : Scenario.AdmissionRun} (running : h.controller.cancelled = false)
    (wait : Nat) : h.shutdown wait =
      (shown (atEnd h wait).giveUp.1, h.withController (atEnd h wait).giveUp.2) := by
  have reached : (if wait = 0 then h.withController h.controller.requestShutdown
      else (h.withController h.controller.requestShutdown).runAll) =
      h.withController (atEnd h wait) := by
    rw [atEnd]
    by_cases none : wait = 0
    · rw [if_pos none, if_neg fun both => both.2 none]
    · rw [if_neg none]
      cases host : h.host with
      | driven =>
          rw [if_pos ⟨rfl, none⟩]
          simp only [Scenario.AdmissionRun.runAll, Scenario.AdmissionRun.withController, host]
      | idle =>
          rw [if_neg fun both => by cases both.1]
          simp only [Scenario.AdmissionRun.runAll, Scenario.AdmissionRun.withController, host]
  simp only [Scenario.AdmissionRun.shutdown, running, Bool.false_eq_true, if_false, reached]
  split
  · rename_i c gaveUp
    have same : (atEnd h wait).giveUp = (.ok (), c) := gaveUp
    rw [same]
    rfl
  · rename_i f c gaveUp
    have same : (atEnd h wait).giveUp = (.error f, c) := gaveUp
    rw [same]
    rfl

/-- A host that shuts its controller down takes it through a closing. A driven host with time to
wait runs every renewal, and any other lets the deadline come. -/
theorem host_shutdown {h : Scenario.AdmissionRun} (running : h.controller.cancelled = false)
    (wait : Nat) (underway : List Request) (log : List Note) :
    ∃ later result,
      let c := ((ofReception ⟨h.now, h.controller, underway, log⟩).shutdown wait).acts later
      c.first = some result ∧ (h.shutdown wait).1 = shown result ∧
        (h.shutdown wait).2.controller = c.reception.controller ∧
        ∀ m ∈ later, m.isRequest = false ∧ m.isShutdown = false := by
  let s : Reception := ⟨h.now, h.controller.requestShutdown, underway, log⟩
  let c : Closing := ⟨s, some (h.now + wait), none, []⟩
  have begun : (ofReception ⟨h.now, h.controller, underway, log⟩).shutdown wait = c :=
    if_neg (by rw [ofReception, running]; exact Bool.false_ne_true)
  rw [begun, shutdown_of_running running, atEnd]
  by_cases runs : h.host = .driven ∧ wait ≠ 0
  · have ran := acts_runs c s.controller.quotas.keys
    obtain ⟨polled, -, -⟩ := s.runs_eq s.controller.quotas.keys
    rw [← Controller.pollAll_eq] at polled
    have settled : (s.runs s.controller.quotas.keys).controller.pending = [] :=
      pending_runs_keys rfl
    have waits : (c.acts (s.controller.quotas.keys.map .run)).deadline = some (h.now + wait) := by
      rw [ran]
    refine ⟨s.controller.quotas.keys.map .run ++ [.look],
      (s.runs s.controller.quotas.keys).controller.giveUp.1, ?_⟩
    rw [acts_look waits (by rw [ran]; exact .inr settled), ran, if_pos runs]
    refine ⟨rfl, ?_, ?_, ?_⟩
    · rw [polled]
    · rw [ended, polled]
      rfl
    · refine List.forall_mem_append.mpr ⟨?_, by decide⟩
      exact List.forall_mem_map.mpr fun _ _ => ⟨rfl, rfl⟩
  · have ended : c.acts ([.wait (h.now + wait)] ++ [.look]) =
        (c.act (.wait (h.now + wait))).ended := acts_look rfl (.inl (Nat.le_refl _))
    refine ⟨[.wait (h.now + wait)] ++ [.look], h.controller.requestShutdown.giveUp.1, ?_⟩
    rw [ended, if_neg runs]
    refine ⟨rfl, rfl, rfl, ?_⟩
    simp [Move.isRequest, Move.isShutdown]

end Closing

end RequestGuard
