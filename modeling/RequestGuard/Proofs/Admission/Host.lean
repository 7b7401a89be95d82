import RequestGuard.Proofs.Admission.Reception
import RequestGuard.Scenario.Admission

/-!
# A driven host is prompt

A driven host runs the renewal of a client right after its requests, and lets time pass as if every
tick on the way were served when it is due. So as long as only requests come and time passes, its
controller is one that a prompt runtime leads to, millisecond by millisecond, and the answers that
it gives are those in the journal.
-/

namespace RequestGuard

namespace Quota

variable {q : Quota} {window due now : Nat}

/-- The renewal waits for a tick that is still ahead. -/
def Served (now : Nat) (q : Quota) : Prop := ∃ due, q.renewal = .waiting due ∧ now < due

theorem Served.permits (served : q.Served now) : q.renewal.permits (now + 1) = true := by
  obtain ⟨due, waits, ahead⟩ := served
  rw [waits]
  exact decide_eq_true ahead

/-- The tick that follows `now` is the only one in the window after it. -/
theorem dueAfter_eq (n : Nat) (past : due + n * window ≤ now)
    (ahead : now < due + (n + 1) * window) :
    dueAfter window due now = due + (n + 1) * window := by
  have whole : (now - due) / window = n := by
    refine Nat.div_eq_of_lt_le ?_ ?_
    · omega
    · omega
  rw [dueAfter, whole]

theorem dueAfter_self : dueAfter window now now = now + window := by
  rw [dueAfter, Nat.sub_self, Nat.zero_div, Nat.zero_add, Nat.one_mul]

/-- A millisecond later the next tick is the same, or it was due and is the one after it. -/
theorem dueAfter_succ (hw : 0 < window) (past : due ≤ now) : dueAfter window due (now + 1) =
    if dueAfter window due now ≤ now + 1 then dueAfter window due now + window
    else dueAfter window due now := by
  obtain ⟨ahead, -⟩ := dueAfter_gt hw past
  obtain ⟨n, next⟩ : ∃ n, n = (now - due) / window := ⟨_, rfl⟩
  have last : due + n * window ≤ now := by
    have := Nat.div_mul_le_self (now - due) window
    rw [← next] at this
    omega
  have tick : dueAfter window due now = due + (n + 1) * window := by rw [dueAfter, next]
  have after : due + (n + 1 + 1) * window = due + (n + 1) * window + window := by
    rw [Nat.add_mul (n + 1), Nat.one_mul, Nat.add_assoc]
  rw [tick] at ahead ⊢
  split
  · rename_i arrived
    rw [dueAfter_eq (n + 1) arrived (by omega), after]
  · rename_i coming
    exact dueAfter_eq n (by omega) (Nat.not_le.mp coming)

/-- A renewal that slept up to a moment sleeps on as if it had slept all the time. -/
theorem sleepUntil_succ (q : Quota) (hw : 0 < window) (now : Nat) :
    (q.sleepUntil window now).sleepUntil window (now + 1) = q.sleepUntil window (now + 1) := by
  obtain ⟨used, renewal⟩ := q
  match renewal with
  | .absent | .fresh | .stopped | .aborted => rfl
  | .waiting due =>
      by_cases past : due ≤ now
      · obtain ⟨ahead, -⟩ := dueAfter_gt hw past
        simp only [sleepUntil, if_pos past, if_pos (Nat.le_succ_of_le past), dueAfter_succ hw past]
        split
        · rename_i arrived
          have same : dueAfter window due now = now + 1 := by omega
          rw [same, dueAfter_self]
        · rfl
      · simp only [sleepUntil, if_neg past]

theorem Served.sleepUntil_self (served : q.Served now) : q.sleepUntil window now = q := by
  obtain ⟨due, waits, ahead⟩ := served
  rw [sleepUntil, waits]
  exact if_neg (by omega)

/-- Sleeping for a millisecond is running the renewal after it. -/
theorem Served.poll_succ (served : q.Served now) :
    q.poll window false (now + 1) = (q.sleepUntil window (now + 1), []) := by
  obtain ⟨due, waits, ahead⟩ := served
  rw [poll, sleepUntil, waits]
  by_cases tick : due ≤ now + 1
  · obtain rfl : due = now + 1 := by omega
    have intime : ¬ now + 1 + timerTolerance < now + 1 := by omega
    simp only [Bool.false_eq_true, if_false, Nat.le_refl, if_true, nextDue, if_neg intime,
      dueAfter_self]
  · simp only [Bool.false_eq_true, if_false, if_neg tick]

theorem Served.sleepUntil_succ (served : q.Served now) (hw : 0 < window) :
    (q.sleepUntil window (now + 1)).Served (now + 1) := by
  obtain ⟨due, waits, ahead⟩ := served
  rw [sleepUntil, waits]
  by_cases tick : due ≤ now + 1
  · simp only [if_pos tick]
    exact ⟨_, rfl, (dueAfter_gt hw tick).1⟩
  · simp only [if_neg tick]
    exact ⟨due, waits, by omega⟩

/-- A renewal that runs for the first time, or has nothing to do, then waits for a tick ahead. -/
theorem served_poll (hw : 0 < window) (ready : q.Served now ∨ q.renewal = .fresh) :
    (q.poll window false now).1.Served now := by
  obtain ⟨due, waits, ahead⟩ | fresh := ready
  · rw [poll, waits]
    simp only [Bool.false_eq_true, if_false, if_neg (Nat.not_le.mpr ahead)]
    exact ⟨due, waits, ahead⟩
  · rw [poll, fresh]
    exact ⟨now + window, rfl, by omega⟩

end Quota

namespace Controller

variable {c : Controller} {key k : String} {q : Quota} {now : Nat}

/-- All renewals have been served, but for that of one client, which has not run yet. -/
def Ready (now : Nat) (key : String) (c : Controller) : Prop :=
  c.cancelled = false ∧
    ∀ k q, c.quotas.get? k = some q → q.Served now ∨ k = key ∧ q.renewal = .fresh

/-- The client gets another quota. -/
theorem Ready.insert {c' : Controller} (ready : c.Ready now key)
    (cancelled : c'.cancelled = c.cancelled) (quotas : c'.quotas = c.quotas.insert key q)
    (served : q.Served now ∨ q.renewal = .fresh) : c'.Ready now key := by
  refine ⟨cancelled.trans ready.1, fun k q' tracked => ?_⟩
  rw [quotas, Table.get?_insert] at tracked
  by_cases same : key = k
  · rw [if_pos same] at tracked
    cases tracked
    exact served.imp_right fun fresh => ⟨same.symm, fresh⟩
  · rw [if_neg same] at tracked
    exact ready.2 k q' tracked

/-- Whether its client is known or not, a request finds a quota with a renewal. -/
theorem Ready.track (ready : c.Ready now key) :
    ((c.find key).ensureRenewal key).Ready now key := by
  match tracked : c.quotas.get? key with
  | some q =>
      rw [find_known tracked]
      obtain ⟨q', tracked', absent, -⟩ | ⟨-, same⟩ := c.ensureRenewal_cases key
      · obtain ⟨due, waits, -⟩ | ⟨-, fresh⟩ := ready.2 key q' tracked'
        · cases absent.symm.trans waits
        · cases absent.symm.trans fresh
      · rw [same]
        exact ready
  | none =>
      have met : (c.meet key).quotas.get? key = some .new :=
        (Table.get?_insert _ _ _ _).trans (if_pos rfl)
      have begun : (c.meet key).ensureRenewal key = (c.meet key).startRenewal key .new := by
        rw [ensureRenewal, met]
        rfl
      rw [find_new tracked, begun]
      refine ⟨ready.1, fun k q tracked' => ?_⟩
      show q.Served now ∨ _
      rw [startRenewal, meet, Table.get?_insert, Table.get?_insert] at tracked'
      by_cases same : key = k
      · rw [if_pos same] at tracked'
        cases tracked'
        exact .inr ⟨same.symm, rfl⟩
      · rw [if_neg same, if_neg same] at tracked'
        exact ready.2 k q tracked'

theorem Ready.answer (ready : c.Ready now key) : (c.answer key).2.Ready now key := by
  obtain ⟨q, tracked, -, allowed⟩ | ⟨-, denied⟩ := c.answer_cases key
  · rw [allowed]
    exact ready.insert rfl rfl ((ready.2 key q tracked).imp_right And.right)
  · rw [denied]
    exact ready

theorem Ready.tally (ready : c.Ready now key) (a : Admission) : (c.tally a).Ready now key := by
  match a with
  | .allowed => exact ready
  | .denied => exact ready

/-- Requests of a client leave every renewal as it is, and make no other than that of the client. -/
theorem Ready.request (ready : c.Ready now key) : (c.request key).2.Ready now key := by
  rw [Controller.request, if_neg (by simp [ready.1])]
  exact ready.track.answer.tally _

theorem Ready.requestMany (ready : c.Ready now key) (n : Nat) :
    (c.requestMany key n).2.Ready now key := by
  induction n generalizing c with
  | zero => exact ready
  | succ n ih => exact ih ready.request

/-- Once the renewal of the client has run, every renewal has been served. -/
theorem Ready.poll (ready : c.Ready now key) {b : String × Quota}
    (bound : b ∈ (c.poll now key).quotas.bindings) : b.2.Served now := by
  obtain ⟨k, q⟩ := b
  have shown := Table.get?_of_mem bound
  have other : ∀ q, key ≠ k → c.quotas.get? k = some q → q.Served now := by
    intro q different tracked
    obtain served | ⟨same, -⟩ := ready.2 k q tracked
    · exact served
    · exact absurd same.symm different
  match tracked : c.quotas.get? key with
  | none =>
      rw [Controller.poll, runOne, tracked] at shown
      by_cases same : key = k
      · subst same
        cases tracked.symm.trans shown
      · exact other q same shown
  | some q' =>
      rw [poll_tracked now tracked, Table.get?_insert] at shown
      by_cases same : key = k
      · subst same
        rw [if_pos rfl, ready.1] at shown
        cases shown
        refine Quota.served_poll c.policy.window_pos ?_
        exact (ready.2 key q' tracked).imp id And.right
      · rw [if_neg same] at shown
        exact other q same shown

end Controller

/-- A step by which requests come or time passes. -/
inductive Scenario.ClockStep.Plain : Scenario.ClockStep → Prop
  | request (handle key : String) (times : Nat) : Plain (.on handle (.request key times))
  | sleep (time : Nat) : Plain (.sleep time)

/-- The answers that came of a step. -/
def Scenario.AdmissionResult.given : Scenario.AdmissionResult → List Admission
  | .answers l => l
  | _ => []

namespace Reception

variable {p : AdmissionPolicy} {s s' s'' : Reception} {key : String} {reports : List Report}
  {handles : List String}

theorem Reaches.trans {allowed : Reception → Move → Prop} (first : Reaches allowed s s')
    (second : Reaches allowed s' s'') : Reaches allowed s s'' := by
  induction second with
  | refl => exact first
  | act _ ok ih => exact .act ih ok

/-- Some requests of a client that are answered one after the other. -/
def requests (s : Reception) (key : String) (n : Nat) : Reception :=
  { s with controller := (s.controller.requestMany key n).2 }.note key
    ((s.controller.requestMany key n).1.map .answered)

theorem allPrompt_onward (s : Reception) (key : String) (l : List Stage) :
    AllPrompt s (onward key l) := by
  induction l generalizing s with
  | nil => trivial
  | cons stage l ih => exact ⟨trivial, ih _⟩

/-- A whole request takes no time. -/
theorem allPrompt_course (s : Reception) (key : String) : AllPrompt s (s.course key) :=
  ⟨trivial, allPrompt_onward _ key _⟩

theorem reaches_requests (s : Reception) (key : String) (n : Nat) :
    Reaches Prompt s (s.requests key n) := by
  induction n generalizing s with
  | zero =>
      rw [requests, note, Controller.requestMany, List.map_nil, List.map_nil, List.append_nil]
      exact .refl s
  | succ n ih =>
      have once : Reaches Prompt s (s.request key) := by
        rw [← acts_course]
        exact (Reaches.refl s).acts (s.allPrompt_course key)
      have rest := ih (s.request key)
      rw [request] at once rest
      refine once.trans ?_
      rw [requests, Controller.requestMany]
      simp only [requests, note, List.map_cons, List.map_nil, List.append_assoc,
        List.singleton_append] at rest
      exact rest

/-- Before a stop, every renewal has been served. -/
structure Calm (s : Reception) : Prop where
  running : s.controller.cancelled = false
  served : ∀ b ∈ s.controller.quotas.bindings, b.2.Served s.now

theorem Calm.start (p : AdmissionPolicy) (now : Nat) : Calm (start p now) := ⟨rfl, nofun⟩

theorem reaches_runs (s : Reception) (keys : List String) : Reaches Prompt s (s.runs keys) := by
  induction keys generalizing s with
  | nil => exact .refl s
  | cons key keys ih => exact Reaches.trans (.act (m := .run key) (.refl s) trivial) (ih _)

/-- After a millisecond, a run of all renewals is what sleeping for it comes to. -/
theorem Calm.pollAll_succ (calm : s.Calm) :
    s.controller.pollAll (s.now + 1) = s.controller.sleepUntil (s.now + 1) := by
  have served : ∀ b ∈ s.controller.quotas.bindings, s.controller.polling (s.now + 1) b.2 =
      (b.2.sleepUntil s.controller.policy.window (s.now + 1), []) := by
    intro b member
    rw [Controller.polling, calm.running]
    exact (calm.served b member).poll_succ
  have quotas : (s.controller.quotas.mapValues fun _ q => (s.controller.polling (s.now + 1) q).1) =
      s.controller.quotas.mapValues
        fun _ q => q.sleepUntil s.controller.policy.window (s.now + 1) := by
    refine Table.eq_of_bindings_eq (List.map_congr_left fun b member => ?_)
    simp only [served b member]
  have silent : (s.controller.quotas.bindings.flatMap fun b =>
      (s.controller.polling (s.now + 1) b.2).2.map fun change =>
        (⟨change, b.1⟩ : RenewalEvent)) = [] := by
    refine List.flatMap_eq_nil_iff.mpr fun b member => ?_
    rw [served b member]
    rfl
  rw [Controller.pollAll, Controller.runAll, quotas, silent, Telemetry.emit, List.append_nil]
  rfl

/-- A millisecond passes. -/
theorem Calm.tick (calm : s.Calm) : ∃ s', Reaches Prompt s s' ∧ s'.Calm ∧ s'.now = s.now + 1 ∧
    s'.controller = s.controller.sleepUntil (s.now + 1) ∧
    Journal.answers s'.log = Journal.answers s.log := by
  have waits : Reaches Prompt s { s with now := s.now + 1 } := by
    refine .act (m := .wait (s.now + 1)) (.refl s) ⟨Nat.le_succ _, fun b member => ?_⟩
    exact (calm.served b member).permits
  obtain ⟨controller, now, answers⟩ :=
    runs_eq { s with now := s.now + 1 } s.controller.quotas.keys
  rw [← Controller.pollAll_eq, calm.pollAll_succ] at controller
  refine ⟨_, waits.trans (reaches_runs _ s.controller.quotas.keys), ⟨?_, ?_⟩, now, controller,
    answers⟩
  · rw [controller]
    exact calm.running
  · rw [controller, now]
    intro b member
    obtain ⟨b', before, rfl⟩ := List.mem_map.mp member
    exact (calm.served b' before).sleepUntil_succ s.controller.policy.window_pos

/-- Time passes. -/
theorem Calm.sleep (calm : s.Calm) (time : Nat) : ∃ s', Reaches Prompt s s' ∧ s'.Calm ∧
    s'.now = s.now + time ∧ s'.controller = s.controller.sleepUntil (s.now + time) ∧
    Journal.answers s'.log = Journal.answers s.log := by
  induction time with
  | zero =>
      have same : s.controller.sleepUntil s.now = s.controller := by
        rw [Controller.sleepUntil, Table.mapValues_eq_self]
        intro b member
        exact (calm.served b member).sleepUntil_self
      exact ⟨s, .refl s, calm, rfl, same.symm, rfl⟩
  | succ time ih =>
      obtain ⟨s', reaches, calm', now, controller, answers⟩ := ih
      obtain ⟨s'', reaches', calm'', now', controller', answers'⟩ := calm'.tick
      refine ⟨s'', reaches.trans reaches', calm'', ?_, ?_, answers'.trans answers⟩
      · rw [now', now, Nat.add_assoc]
      · rw [controller', controller, now, Controller.sleepUntil]
        simp only [Controller.sleepUntil, Table.mapValues_mapValues,
          Quota.sleepUntil_succ _ s.controller.policy.window_pos]
        rfl

/-- Requests of a client are answered, and its renewal runs. -/
theorem Calm.requests (calm : s.Calm) (key : String) (n : Nat) :
    ∃ s', Reaches Prompt s s' ∧ s'.Calm ∧ s'.now = s.now ∧
      s'.controller = (s.controller.requestMany key n).2.poll s.now key ∧
      Journal.answers s'.log = Journal.answers s.log ++ (s.controller.requestMany key n).1 := by
  have ready : (s.controller.requestMany key n).2.Ready s.now key :=
    Controller.Ready.requestMany
      ⟨calm.running, fun k q tracked => .inl (calm.served _ (Table.mem_of_get? tracked))⟩ n
  obtain ⟨controller, now, answers⟩ := (s.requests key n).run_eq key
  refine ⟨(s.requests key n).run key, ?_, ⟨?_, fun b member => ?_⟩, now, controller, ?_⟩
  · exact .act (m := .run key) (reaches_requests s key n) trivial
  · rw [controller, Controller.cancelled_poll]
    exact ready.1
  · rw [now]
    rw [controller] at member
    exact ready.poll member
  · rw [answers, Reception.requests, answers_note, List.filterMap_map]
    refine congrArg _ ?_
    exact List.filterMap_some

def host (s : Reception) (handles : List String) : Scenario.AdmissionRun :=
  ⟨.driven, s.now, s.controller, handles⟩

/-- A step of a driven host is a stretch of a prompt run. -/
theorem Calm.take (calm : s.Calm) {step : Scenario.ClockStep} (plain : step.Plain)
    (held : handles ≠ []) : ∃ s', Reaches Prompt s s' ∧ s'.Calm ∧
      ((s.host handles).take step).2 = s'.host handles ∧
      Journal.answers s'.log = Journal.answers s.log ++ ((s.host handles).take step).1.given := by
  obtain ⟨handle, key, times⟩ | ⟨time⟩ := plain
  · simp only [Scenario.AdmissionRun.take]
    split
    · obtain ⟨s', reaches, calm', now, controller, answers⟩ := calm.requests key times
      refine ⟨s', reaches, calm', ?_, answers⟩
      rw [host, host, now, controller]
      rfl
    · exact ⟨s, .refl s, calm, rfl, (List.append_nil _).symm⟩
  · obtain ⟨s', reaches, calm', now, controller, answers⟩ := calm.sleep time
    refine ⟨s', reaches, calm', ?_, answers.trans (List.append_nil _).symm⟩
    have some_left : handles.isEmpty = false := List.isEmpty_eq_false_iff.mpr held
    simp only [Scenario.AdmissionRun.take, Scenario.AdmissionRun.moveTo, host, some_left, now,
      controller]
    rfl

theorem Calm.takeAll (calm : s.Calm) (handles : List String) (held : handles ≠ [])
    {steps : List Scenario.ClockStep} (plain : ∀ step ∈ steps, step.Plain) :
    ∃ s', Reaches Prompt s s' ∧ s'.Calm ∧ Journal.answers s'.log =
        Journal.answers s.log ++ ((s.host handles).takeAll steps).flatMap (·.given) := by
  induction steps generalizing s with
  | nil => exact ⟨s, .refl s, calm, (List.append_nil _).symm⟩
  | cons step steps ih =>
      obtain ⟨first, rest⟩ := List.forall_mem_cons.mp plain
      obtain ⟨s', reaches, calm', host, answers⟩ := calm.take first held
      obtain ⟨s'', reaches', calm'', answers'⟩ := ih calm' rest
      refine ⟨s'', reaches.trans reaches', calm'', ?_⟩
      rw [answers', answers, List.append_assoc, Scenario.AdmissionRun.takeAll, ← host]
      rfl

/-- Whatever requests come to a controller on a driven host, and however long the host sleeps in
between, the answers are those in the journal of a prompt run. -/
theorem driven_prompt (p : AdmissionPolicy) {steps : List Scenario.ClockStep}
    (plain : ∀ step ∈ steps, step.Plain) :
    ∃ s, Reaches Prompt (.start p 0) s ∧ s.controller.cancelled = false ∧
      Journal.answers s.log =
        ((Scenario.AdmissionRun.start .driven (.new p)).takeAll steps).flatMap (·.given) := by
  obtain ⟨s, reaches, calm, answers⟩ :=
    (Calm.start p 0).takeAll [Scenario.AdmissionRun.firstHandle] (List.cons_ne_nil _ _) plain
  exact ⟨s, reaches, calm.running, answers⟩

end Reception

end RequestGuard
