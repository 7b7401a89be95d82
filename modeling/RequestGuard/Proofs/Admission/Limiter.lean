import RequestGuard.Proofs.Admission.Reception

/-!
# Fixed windows

A controller on a prompt runtime is a limiter with fixed windows. Each client has windows of its
own, which begin when its renewal first runs, and in each of them it is allowed one quota.

The invariant is `Orderly`. For each client it ties the quota that the controller keeps to what the
journal says of the client (`Standing`): what was spent since the last renewal, and the tick that
the renewal waits for. Each move keeps it, and every answer is then as the quota permits.
-/

namespace RequestGuard

/-- The first `n` ticks of a renewal that started at `f`. -/
def ticks (window f n : Nat) : List Nat := (List.range n).map fun i => f + (i + 1) * window

theorem ticks_succ (window f n : Nat) :
    ticks window f (n + 1) = ticks window f n ++ [f + (n + 1) * window] := by
  simp [ticks, List.range_succ]

theorem spaced_ticks (window f n : Nat) :
    (ticks window f n).Pairwise fun s t => s + window ≤ t := by
  refine List.pairwise_map.mpr (List.pairwise_lt_range.imp fun {i j} before => ?_)
  have further : (i + 1 + 1) * window ≤ (j + 1) * window := Nat.mul_le_mul_right _ (by omega)
  rw [Nat.add_mul (i + 1)] at further
  omega

/-- Where a renewal stands after it has started and ticked at the given times. It comes to its end
only if the controller was asked to stop. -/
def Renewal.Keeps (window now : Nat) (cancelled : Bool) (starts renewals : List Nat) :
    Renewal → Prop
  | .absent | .fresh => starts = [] ∧ renewals = []
  | .waiting due => ∃ f n, starts = [f] ∧ renewals = ticks window f n ∧
      due = f + (n + 1) * window ∧ now ≤ due
  | .stopped | .aborted => cancelled = true ∧ (starts = [] ∧ renewals = [] ∨
      ∃ f n, starts = [f] ∧ renewals = ticks window f n)

namespace Renewal.Keeps

variable {window now now' : Nat} {cancelled : Bool} {starts renewals : List Nat}
  {renewal : Renewal} {q : Quota}

/-- A renewal has ticked in time with its start, or has not even started. -/
theorem paced (keeps : renewal.Keeps window now cancelled starts renewals) :
    starts = [] ∧ renewals = [] ∨ ∃ f n, starts = [f] ∧ renewals = ticks window f n := by
  match renewal with
  | .absent => exact .inl keeps
  | .fresh => exact .inl keeps
  | .waiting due =>
      obtain ⟨f, n, started, ticked, -⟩ := keeps
      exact .inr ⟨f, n, started, ticked⟩
  | .stopped => exact keeps.2
  | .aborted => exact keeps.2

/-- To start the renewal is not to run it. -/
theorem withRenewal (keeps : q.renewal.Keeps window now cancelled starts renewals) :
    q.withRenewal.renewal.Keeps window now cancelled starts renewals := by
  rw [Quota.withRenewal]
  split
  · rename_i absent
    rw [absent] at keeps
    exact keeps
  · exact keeps

theorem later (keeps : renewal.Keeps window now cancelled starts renewals)
    (prompt : renewal.permits now' = true) :
    renewal.Keeps window now' cancelled starts renewals := by
  match renewal with
  | .absent => exact keeps
  | .fresh => exact keeps
  | .waiting due =>
      obtain ⟨f, n, started, ticked, next, -⟩ := keeps
      exact ⟨f, n, started, ticked, next, of_decide_eq_true prompt⟩
  | .stopped => exact keeps
  | .aborted => exact keeps

theorem stop (keeps : renewal.Keeps window now cancelled starts renewals) :
    renewal.Keeps window now true starts renewals := by
  match renewal with
  | .absent => exact keeps
  | .fresh => exact keeps
  | .waiting due => exact keeps
  | .stopped => exact ⟨rfl, keeps.2⟩
  | .aborted => exact ⟨rfl, keeps.2⟩

/-- A run of the renewal serves the tick that is due, and sets the next one a window later. -/
theorem poll (keeps : q.renewal.Keeps window now cancelled starts renewals) :
    (q.poll window cancelled now).1.used =
      (q.reports cancelled now).foldl Journal.spends q.used ∧
    (q.poll window cancelled now).1.renewal.Keeps window now cancelled
      (starts ++ List.replicate ((q.reports cancelled now).count .started) now)
      (renewals ++ List.replicate ((q.reports cancelled now).count .renewed) now) := by
  obtain ⟨used, renewal⟩ := q
  match renewal, cancelled with
  | .absent, _ => exact ⟨rfl, by simpa [Quota.poll, Quota.reports] using keeps⟩
  | .fresh, true =>
      obtain ⟨rfl, rfl⟩ := keeps
      exact ⟨rfl, rfl, .inr ⟨now, 0, rfl, rfl⟩⟩
  | .fresh, false =>
      obtain ⟨rfl, rfl⟩ := keeps
      exact ⟨rfl, now, 0, rfl, rfl, by simp, by simp⟩
  | .waiting due, true =>
      obtain ⟨f, n, rfl, rfl, -⟩ := keeps
      exact ⟨rfl, rfl, .inr ⟨f, n, rfl, List.append_nil _⟩⟩
  | .waiting due, false =>
      obtain ⟨f, n, rfl, rfl, next, ahead⟩ := keeps
      by_cases served : due ≤ now
      · obtain rfl : due = now := by omega
        have intime : ¬ due + timerTolerance < due := by omega
        simp only [Quota.poll, Quota.reports, Bool.false_eq_true, if_false, Nat.le_refl,
          if_true, nextDue, if_neg intime]
        refine ⟨rfl, f, n + 1, rfl, ?_, ?_, Nat.le_add_right _ _⟩
        · rw [ticks_succ, ← next]
          rfl
        · rw [Nat.add_mul (n + 1)]
          omega
      · simp only [Quota.poll, Quota.reports, Bool.false_eq_true, if_false, if_neg served]
        exact ⟨rfl, f, n, rfl, List.append_nil _, next, ahead⟩
  | .stopped, _ => exact ⟨rfl, by simpa [Quota.poll, Quota.reports] using keeps⟩
  | .aborted, _ => exact ⟨rfl, by simpa [Quota.poll, Quota.reports] using keeps⟩

theorem abort (keeps : q.renewal.Keeps window now true starts renewals) :
    q.abort.used = q.used ∧ q.abort.renewal.Keeps window now true starts renewals := by
  rw [Quota.abort]
  split
  · exact ⟨rfl, rfl, keeps.paced⟩
  · exact ⟨rfl, keeps⟩

end Renewal.Keeps

namespace Reception

open Journal

/-- Whether a request of a client has found its quota, and has no answer yet. -/
def Asks (r : Reception) (key : String) : Prop :=
  ⟨key, .found⟩ ∈ r.underway ∨ ⟨key, .ready⟩ ∈ r.underway

/-- The quota of a client is as the journal says. -/
structure Standing (r : Reception) (key : String) : Prop where
  untracked : r.controller.quotas.get? key = none → ¬ r.Asks key ∧ spent key r.log = 0 ∧
    times key .started r.log = [] ∧ times key .renewed r.log = []
  tracked : ∀ q, r.controller.quotas.get? key = some q → q.used = spent key r.log ∧
    q.renewal.Keeps r.controller.policy.window r.now r.controller.cancelled
      (times key .started r.log) (times key .renewed r.log)

/-- The journal is in order, the quotas are as it says, and before a stop every answer in it is as
the quota permits. -/
structure Orderly (p : AdmissionPolicy) (r : Reception) : Prop where
  policy : r.controller.policy = p
  sorted : r.log.Pairwise fun m n => m.time ≤ n.time
  past : ∀ n ∈ r.log, n.time ≤ r.now
  limited : r.controller.cancelled = false → Limited p.capacity r.log
  standing : ∀ key, Standing r key

section Standing

variable {r r' : Reception} {key k : String} {reports : List Report} {p : AdmissionPolicy}
  {q : Quota} {m : Move}

/-- A request that goes on asks a quota only if it did so before, or has just found one. -/
theorem asks_reach {x : Request} {c : Controller} {stage : Stage} (there : x ∈ r.underway)
    (asks : (r.reach x c stage).Asks key)
    (goes : x.key ≠ key ∨ (stage ≠ .found ∧ (stage = .ready → x.stage = .found))) :
    r.Asks key := by
  simp only [Asks, reach, List.mem_cons, Request.mk.injEq] at asks ⊢
  obtain (⟨rfl, rfl⟩ | old) | ⟨rfl, rfl⟩ | old := asks
  · simp at goes
  · exact .inl (List.mem_of_mem_erase old)
  · obtain ⟨client, stage⟩ := x
    simp only [ne_eq, not_true_eq_false, false_or, true_implies] at goes
    exact .inl (goes.2 ▸ there)
  · exact .inr (List.mem_of_mem_erase old)

/-- Where a client stands rests on its own quota, notes and requests only. -/
theorem Standing.congr (standing : Standing r key)
    (quota : r'.controller.quotas.get? key = r.controller.quotas.get? key)
    (policy : r'.controller.policy = r.controller.policy)
    (cancelled : r'.controller.cancelled = r.controller.cancelled) (now : r'.now = r.now)
    (asks : r'.Asks key → r.Asks key) (spends : spent key r'.log = spent key r.log)
    (starts : times key .started r'.log = times key .started r.log)
    (renewals : times key .renewed r'.log = times key .renewed r.log) : Standing r' key := by
  constructor
  · rw [quota, spends, starts, renewals]
    intro none
    obtain ⟨absent, rest⟩ := standing.untracked none
    exact ⟨fun asked => absent (asks asked), rest⟩
  · rw [quota, spends, starts, renewals, policy, cancelled, now]
    exact standing.tracked

theorem Standing.of_tracked (tracked : r.controller.quotas.get? key = some q)
    (used : q.used = spent key r.log)
    (keeps : q.renewal.Keeps r.controller.policy.window r.now r.controller.cancelled
      (times key .started r.log) (times key .renewed r.log)) : Standing r key := by
  constructor
  · intro none
    rw [tracked] at none
    cases none
  · intro q' tracked'
    cases tracked.symm.trans tracked'
    exact ⟨used, keeps⟩

/-- A note about another client, or about a denial, changes nothing for a client. -/
theorem Standing.note (standing : Standing r key)
    (silent : k ≠ key ∨ reports = [.answered .denied]) : Standing (r.note k reports) key := by
  have unnoted : ∀ report ≠ .answered .denied, k ≠ key ∨ report ∉ reports := by
    intro report other
    obtain other | rfl := silent
    · exact .inl other
    · exact .inr fun member => other (List.mem_singleton.mp member)
  refine standing.congr rfl rfl rfl rfl id ?_ (times_append_silent (unnoted _ nofun))
    (times_append_silent (unnoted _ nofun))
  rw [Reception.note, spent_append_reports]
  obtain other | rfl := silent
  · rw [if_neg other]
  · exact ite_self _

/-- A request that enters asks no quota yet. -/
theorem Standing.enter {stage : Stage} (standing : Standing r key) (k : String)
    (early : stage ≠ .found ∧ stage ≠ .ready) :
    Standing { r with underway := ⟨k, stage⟩ :: r.underway } key := by
  refine standing.congr rfl rfl rfl rfl ?_ rfl rfl rfl
  simp [Asks, early.1.symm, early.2.symm]

/-- A request that goes on changes no quota but that of its client. -/
theorem Standing.reach {x : Request} {c : Controller} {stage : Stage} (standing : Standing r key)
    (there : x ∈ r.underway) (quota : c.quotas.get? key = r.controller.quotas.get? key)
    (policy : c.policy = r.controller.policy) (cancelled : c.cancelled = r.controller.cancelled)
    (goes : x.key ≠ key ∨ (stage ≠ .found ∧ (stage = .ready → x.stage = .found))) :
    Standing (r.reach x c stage) key :=
  standing.congr quota policy cancelled rfl (fun asks => asks_reach there asks goes) rfl rfl rfl

theorem Standing.run (standing : Standing r key)
    (tracked : r.controller.quotas.get? k = some q) :
    Standing ({ r with controller := r.controller.poll r.now k }.note k
      (q.reports r.controller.cancelled r.now)) key := by
  have polled := Controller.poll_tracked r.now tracked
  by_cases own : k = key
  · subst own
    obtain ⟨used, keeps⟩ := standing.tracked q tracked
    obtain ⟨used', keeps'⟩ := keeps.poll
    refine .of_tracked ?_ (used'.trans ?_) ?_
    · exact (congrArg (Table.get? · k) polled).trans
        ((Table.get?_insert _ _ _ _).trans (if_pos rfl))
    · rw [Reception.note, spent_append_reports, if_pos rfl, used]
    · rw [Reception.note, times_append_reports, times_append_reports, if_pos rfl, if_pos rfl]
      show Renewal.Keeps (r.controller.poll r.now k).policy.window r.now
        (r.controller.poll r.now k).cancelled _ _ _
      rw [Controller.policy_poll, Controller.cancelled_poll]
      exact keeps'
  · refine Standing.note (standing.congr ?_ Controller.policy_poll Controller.cancelled_poll rfl
      id rfl rfl rfl) (.inl own)
    exact (congrArg (Table.get? · key) polled).trans
      ((Table.get?_insert _ _ _ _).trans (if_neg own))

theorem Standing.giveUp (standing : Standing r key) (stopped : r.controller.cancelled = true) :
    Standing { r with controller := r.controller.giveUp.2 } key := by
  have quota : r.controller.giveUp.2.quotas.get? key =
      (r.controller.quotas.get? key).map Quota.abort := Table.get?_mapValues _ _ _
  refine ⟨fun none => ?_, fun q tracked => ?_⟩
  · rw [quota, Option.map_eq_none_iff] at none
    exact standing.untracked none
  · rw [quota] at tracked
    obtain ⟨q', before, rfl⟩ := Option.map_eq_some_iff.mp tracked
    obtain ⟨used, keeps⟩ := standing.tracked q' before
    rw [stopped] at keeps
    obtain ⟨same, aborted⟩ := keeps.abort
    rw [← stopped] at aborted
    exact ⟨same.trans used, aborted⟩

/-- Each prompt step leaves a client standing. -/
theorem Standing.step (standing : Standing r key) (step : Step r m r') (prompt : r.Prompt m) :
    Standing r' key := by
  cases step with
  | refused k stopped => exact .note (standing.enter k (by simp)) (.inr rfl)
  | entered k running => exact standing.enter k (by simp)
  | @known k q there tracked =>
      by_cases own : k = key
      · subst own
        obtain ⟨used, keeps⟩ := standing.tracked q tracked
        exact .of_tracked tracked used keeps
      · exact standing.reach there rfl rfl rfl (.inl own)
  | @met k there untracked =>
      by_cases own : k = key
      · subst own
        obtain ⟨-, unspent, unstarted, unrenewed⟩ := standing.untracked untracked
        exact .of_tracked ((Table.get?_insert _ _ _ _).trans (if_pos rfl)) unspent.symm
          ⟨unstarted, unrenewed⟩
      · refine standing.reach there ?_ rfl rfl (.inl own)
        exact (Table.get?_insert _ _ _ _).trans (if_neg own)
  | renewing there => exact standing.reach there rfl rfl rfl (.inr ⟨nofun, fun _ => rfl⟩)
  | @begun k q there tracked absent =>
      by_cases own : k = key
      · subst own
        obtain ⟨used, keeps⟩ := standing.tracked q tracked
        refine .of_tracked ((Table.get?_insert _ _ _ _).trans (if_pos rfl)) ?_ keeps.withRenewal
        exact Quota.used_withRenewal.trans used
      · refine standing.reach there ?_ rfl rfl (.inl own)
        exact (Table.get?_insert _ _ _ _).trans (if_neg own)
  | @allowed k q there tracked left =>
      by_cases own : k = key
      · subst own
        obtain ⟨used, keeps⟩ := standing.tracked q tracked
        refine .of_tracked ((Table.get?_insert _ _ _ _).trans (if_pos rfl)) ?_ ?_
        · rw [answered, Reception.note, Reception.reach, spent_append_reports, if_pos rfl, ← used]
          rfl
        · rw [answered, Reception.note, times_append_silent (.inr (by decide)),
            times_append_silent (.inr (by decide))]
          exact keeps
      · refine .note (standing.reach there ?_ rfl rfl (.inl own)) (.inl own)
        exact (Table.get?_insert _ _ _ _).trans (if_neg own)
  | exhausted there => exact .note (standing.reach there rfl rfl rfl (.inr (by simp))) (.inr rfl)
  | tallied there =>
      refine standing.reach there ?_ (Controller.policy_tally _) (Controller.cancelled_tally _)
        (.inr (by simp))
      rw [Controller.quotas_tally]
  | published there =>
      refine standing.congr rfl rfl rfl rfl ?_ rfl rfl rfl
      exact Or.imp List.mem_of_mem_erase List.mem_of_mem_erase
  | ran tracked => exact standing.run tracked
  | waited now =>
      refine ⟨standing.untracked, fun q tracked => ?_⟩
      obtain ⟨used, keeps⟩ := standing.tracked q tracked
      exact ⟨used, keeps.later (prompt.2 (key, q) (Table.mem_of_get? tracked))⟩
  | stopped =>
      refine ⟨standing.untracked, fun q tracked => ?_⟩
      obtain ⟨used, keeps⟩ := standing.tracked q tracked
      exact ⟨used, keeps.stop⟩
  | cutOff stopped => exact standing.giveUp stopped
  | unasked | unknown | tooEarly => exact standing

end Standing

namespace Orderly

variable {r r' : Reception} {p : AdmissionPolicy} {m : Move}

theorem start (p : AdmissionPolicy) (now : Nat) : Orderly p (start p now) where
  policy := rfl
  sorted := .nil
  past := nofun
  limited := fun _ => .nil
  standing := fun _ => ⟨fun _ => ⟨nofun, rfl, rfl, rfl⟩, nofun⟩

/-- Before a stop, a request is allowed exactly if its client has a permit left. -/
theorem limited_step (orderly : Orderly p r) (step : Step r m r')
    (running : r'.controller.cancelled = false) : Limited p.capacity r'.log := by
  have limited : r.controller.cancelled = false → Limited p.capacity r.log := orderly.limited
  cases step with
  | refused key stopped => exact absurd (stopped.symm.trans running) Bool.noConfusion
  | allowed there tracked left =>
      refine (limited running).append_singleton ?_
      rintro _ ⟨⟩
      have used := ((orderly.standing _).tracked _ tracked).1
      exact ⟨fun _ => used ▸ orderly.policy ▸ left, fun _ => rfl⟩
  | @exhausted key there spent =>
      refine (limited running).append_singleton ?_
      rintro _ ⟨⟩
      refine ⟨nofun, fun left => ?_⟩
      match tracked : r.controller.quotas.get? key with
      | none => exact absurd (.inr there) ((orderly.standing key).untracked tracked).1
      | some q =>
          have used := ((orderly.standing key).tracked q tracked).1
          have all := orderly.policy ▸ spent q tracked
          exact absurd left (Nat.not_lt.mpr (used ▸ all))
  | ran tracked =>
      refine (limited (Controller.cancelled_poll.symm.trans running)).append_silent ?_
      intro n member a answer
      obtain ⟨report, reported, rfl⟩ := List.mem_map.mp member
      obtain rfl : report = .answered a := answer
      exact Quota.answered_not_mem_reports reported
  | tallied => exact limited ((Controller.cancelled_tally _).symm.trans running)
  | stopped => cases running
  | cutOff stopped => exact absurd (stopped.symm.trans running) Bool.noConfusion
  | entered | known | met | renewing | begun | published | waited | unasked | unknown | tooEarly =>
      exact limited running

/-- Each prompt step keeps the order. -/
theorem step (orderly : Orderly p r) (step : Step r m r') (prompt : r.Prompt m) : Orderly p r' := by
  obtain ⟨policy, -, ⟨key, reports, log⟩, -⟩ := step.follows
  have later := prompt.le step.follows
  have noted : ∀ n ∈ reports.map fun report => (⟨r.now, key, report⟩ : Note), n.time = r.now := by
    intro n member
    obtain ⟨report, _, rfl⟩ := List.mem_map.mp member
    rfl
  refine ⟨policy.trans orderly.policy, ?_, ?_, orderly.limited_step step, fun key =>
    (orderly.standing key).step step prompt⟩
  · rw [log]
    refine List.pairwise_append.mpr ⟨orderly.sorted, ?_, fun m before n after => ?_⟩
    · refine List.pairwise_of_forall_mem_list fun m first n second => ?_
      exact Nat.le_of_eq ((noted m first).trans (noted n second).symm)
    · rw [noted n after]
      exact orderly.past m before
  · rw [log]
    intro n member
    refine Nat.le_trans ?_ later
    obtain before | after := List.mem_append.mp member
    · exact orderly.past n before
    · exact Nat.le_of_eq (noted n after)

/-- The journal of a controller on a prompt runtime is in order. -/
theorem of_reaches {now : Nat} (reaches : Reaches Prompt (.start p now) r) : Orderly p r := by
  induction reaches with
  | refl => exact start p now
  | @act _ m before prompt ih => exact ih.step (act_step _ m) prompt

/-- The renewals of a client come a window apart, the first of them a window after the start. As
long as the controller was not asked to stop, none is left out. -/
theorem renewals (orderly : Orderly p r)
    (running : r.controller.cancelled = false) (key : String) :
    times key .started r.log = [] ∧ times key .renewed r.log = [] ∨
      ∃ f n, times key .started r.log = [f] ∧ times key .renewed r.log = ticks p.window f n ∧
        r.now ≤ f + (n + 1) * p.window := by
  match tracked : r.controller.quotas.get? key with
  | none =>
      obtain ⟨_, _, unstarted, unrenewed⟩ := (orderly.standing key).untracked tracked
      exact .inl ⟨unstarted, unrenewed⟩
  | some ⟨used, renewal⟩ =>
      obtain ⟨_, keeps⟩ := (orderly.standing key).tracked _ tracked
      rw [orderly.policy, running] at keeps
      match renewal with
      | .absent => exact .inl keeps
      | .fresh => exact .inl keeps
      | .waiting due =>
          obtain ⟨f, n, started, renewed, rfl, ahead⟩ := keeps
          exact .inr ⟨f, n, started, renewed, ahead⟩
      | .stopped => exact absurd keeps.1 Bool.false_ne_true
      | .aborted => exact absurd keeps.1 Bool.false_ne_true

theorem spaced (orderly : Orderly p r)
    (running : r.controller.cancelled = false) (key : String) :
    (times key .renewed r.log).Pairwise fun s t => s + p.window ≤ t := by
  obtain ⟨-, none⟩ | ⟨f, n, -, renewed, -⟩ := orderly.renewals running key
  · rw [none]
    exact .nil
  · rw [renewed]
    exact spaced_ticks p.window f n

end Orderly

/-- A controller limits each client by fixed windows. Whatever the requests of all clients, and
however they overlap, as long as the controller was not asked to stop and its runtime is prompt:

A request is allowed exactly if its client has had fewer than a quota of requests allowed since its
last renewal, or since it was first seen. The renewals of a client follow its start at whole
windows, without a gap. And so no half-open span of time of at most a window allows a client more
than two quotas. -/
theorem limits_by_fixed_windows (p : AdmissionPolicy) (begun : Nat) {r : Reception}
    (reaches : Reaches Prompt (.start p begun) r) (running : r.controller.cancelled = false)
    (key : String) :
    (∀ before time a after, r.log = before ++ ⟨time, key, .answered a⟩ :: after →
      (a = .allowed ↔ spent key before < p.capacity)) ∧
    (times key .started r.log = [] ∧ times key .renewed r.log = [] ∨
      ∃ f n, times key .started r.log = [f] ∧
        times key .renewed r.log = (List.range n).map (fun i => f + (i + 1) * p.window) ∧
        r.now ≤ f + (n + 1) * p.window) ∧
    ∀ a b, b ≤ a + p.window →
      ((times key (.answered .allowed) r.log).filter fun t => a ≤ t ∧ t < b).length ≤
        2 * p.capacity ∧
      ((times key (.answered .allowed) r.log).filter fun t => a < t ∧ t ≤ b).length ≤
        2 * p.capacity := by
  have orderly := Orderly.of_reaches reaches
  have limited := orderly.limited running
  have spaced := orderly.spaced running key
  refine ⟨fun before time a after split => ?_, orderly.renewals running key, fun a b narrow => ?_⟩
  · exact limited before _ after a split rfl
  · refine ⟨limited.window_le orderly.sorted spaced narrow, ?_⟩
    have shifted := limited.window_le orderly.sorted spaced
      (show b + 1 ≤ a + 1 + p.window by omega)
    simp only [Nat.succ_le_iff, Nat.lt_succ_iff] at shifted
    exact shifted

def samplePolicy : AdmissionPolicy := ⟨1, 10, by decide, by decide⟩

/-- A client is allowed a request in the last millisecond of its first window, in which another one
has its own first request, and a second one right after the renewal. -/
def twoQuotas : Reception := acts (.start samplePolicy 0)
  ([.enter "a"] ++ onward "a" [.entered, .found] ++ [.run "a", .wait 9, .enter "b"] ++
    onward "b" [.entered] ++ onward "a" [.ready] ++ onward "b" [.found, .ready] ++
    [.enter "a"] ++ onward "a" [.entered, .found, .ready] ++
    [.run "b", .wait 10, .run "a", .enter "a"] ++ onward "a" [.entered, .found, .ready] ++
    [.wait 19])

/-- It is denied a request in between, and has two quotas within a window. -/
theorem two_quotas_in_a_window :
    Reaches Prompt (.start samplePolicy 0) twoQuotas ∧
    times "a" .renewed twoQuotas.log = [10] ∧
    times "a" (.answered .denied) twoQuotas.log = [9] ∧
    ((times "a" (.answered .allowed) twoQuotas.log).filter fun t => 9 ≤ t ∧ t < 19).length =
      2 * samplePolicy.capacity := by
  have reached : Reaches Prompt (.start samplePolicy 0) twoQuotas :=
    Reaches.acts (.refl _) (by decide)
  obtain ⟨-, -, bound⟩ := limits_by_fixed_windows samplePolicy 0 reached (by decide) "a"
  refine ⟨reached, by decide, by decide, Nat.le_antisymm (bound 9 19 (by decide)).1 (by decide)⟩

end Reception

end RequestGuard
