import Mathlib.Data.Finset.Card
import Mathlib.Data.Finset.Dedup
import RequestGuard.Proofs.Admission.Shutdown

/-!
# The accounts of a controller

A controller keeps its accounts in four places: the table of quotas with their renewals, the permits
taken of each, the counters of answers and renewals, and the counters that are exported. They are
written at different moments, and after a stop the first two are passed over. Still they agree with
each other and with what has happened, whatever the order of requests and runs.

While requests are under way, the accounts differ by what these have still to write. Three
invariants say by how much: of the answers (`Counted`), of the clients that came (`Known`), and of
each client by itself (`Kept`). Every request comes to its end, by five steps at most and whatever
the others do, and where none is under way the accounts are exact (`Settled`). So they are exact
at every point of a run of whole requests.
-/

namespace RequestGuard

def AdmissionMetrics.given (m : AdmissionMetrics) : Admission → Nat
  | .allowed => m.allowed
  | .denied => m.denied

/-- Every answer is one of the two. -/
theorem Admission.count_allowed_add_denied (l : List Admission) :
    l.count .allowed + l.count .denied = l.length := by
  induction l with
  | nil => rfl
  | cons a l ih =>
      match a with
      | .allowed => simp; omega
      | .denied => simp; omega

theorem Admission.outcome_injective {a b : Admission} (same : a.outcome = b.outcome) : a = b := by
  match a, b with
  | .allowed, .allowed | .denied, .denied => rfl

/-- Whether somebody has started the renewal. -/
def Renewal.present : Renewal → Bool
  | .absent => false
  | .fresh | .waiting _ | .stopped | .aborted => true

/-- Whether the renewal may still run for the first time. -/
def Renewal.isNew : Renewal → Bool
  | .absent | .fresh => true
  | .waiting _ | .stopped | .aborted => false

theorem Renewal.present_eq_false {x : Renewal} : x.present = false ↔ x = .absent := by
  cases x with
  | absent | fresh | waiting | stopped | aborted => simp [present]

namespace Quota

variable {q q' : Quota} {window now : Nat} {cancelled : Bool} {reports : List Report}

theorem present_withRenewal : q.withRenewal.renewal.present = true := by
  rw [withRenewal]
  split
  · rfl
  · rename_i started
    exact Bool.eq_true_of_not_eq_false (started ∘ Renewal.present_eq_false.mp)

theorem isNew_withRenewal : q.withRenewal.renewal.isNew = q.renewal.isNew := by
  rw [withRenewal]
  split
  · rename_i absent
    rw [absent]
    rfl
  · rfl

theorem present_abort : q.abort.renewal.present = q.renewal.present := by
  obtain ⟨used, renewal⟩ := q
  cases renewal with
  | absent | fresh | waiting | stopped | aborted => rfl

theorem isNew_abort (ran : q.renewal.isNew = false) : q.abort.renewal.isNew = false := by
  obtain ⟨used, renewal⟩ := q
  cases renewal with
  | absent | fresh => cases ran
  | waiting | stopped | aborted => rfl

/-- What a run leaves of the permits taken is what its reports leave of them. -/
theorem Ran.used_eq (ran : q.Ran window now cancelled q' reports) :
    q'.used = reports.foldl Journal.spends q.used := by
  cases ran with
  | begun | stillborn | stopped | ticked | early | idle => rfl

theorem Ran.used_le (ran : q.Ran window now cancelled q' reports) : q'.used ≤ q.used := by
  cases ran with
  | ticked => exact Nat.zero_le _
  | begun | stillborn | stopped | early | idle => exact Nat.le_refl _

/-- A renewal starts when it runs for the first time. -/
theorem Ran.count_started (ran : q.Ran window now cancelled q' reports) :
    reports.count .started = if q.renewal = .fresh then 1 else 0 := by
  cases ran with
  | begun fresh | stillborn fresh =>
      rw [if_pos fresh]
      rfl
  | stopped waits | ticked waits | early waits =>
      rw [waits]
      rfl
  | idle ended =>
      cases stage : q.renewal with
      | absent | stopped | aborted => rfl
      | fresh | waiting => simp [stage, Renewal.isLive] at ended

theorem Ran.present (ran : q.Ran window now cancelled q' reports) :
    q'.renewal.present = q.renewal.present := by
  cases ran with
  | begun stage | stillborn stage | stopped stage | ticked stage => simp [stage, Renewal.present]
  | early | idle => rfl

theorem Ran.isNew (ran : q.Ran window now cancelled q' reports)
    (begun : q.renewal = .fresh ∨ q.renewal.isNew = false) : q'.renewal.isNew = false := by
  cases ran with
  | begun | stillborn | stopped | ticked => rfl
  | early waits =>
      rw [waits]
      rfl
  | idle ended =>
      obtain fresh | ran := begun
      · simp [fresh, Renewal.isLive] at ended
      · exact ran

end Quota

namespace Controller

variable {c : Controller} {a b : Admission}

theorem given_tally : (c.tally a).metrics.given b =
    c.metrics.given b + if a = b then 1 else 0 := by
  match a, b with
  | .allowed, .allowed | .allowed, .denied | .denied, .allowed | .denied, .denied => rfl

theorem telemetry_tally : (c.tally a).telemetry = c.telemetry := by
  match a with
  | .allowed | .denied => rfl

theorem given_startRenewal {key : String} {q : Quota} :
    (c.startRenewal key q).metrics.given a = c.metrics.given a := by
  match a with
  | .allowed | .denied => rfl

/-- How often an answer was exported. -/
def exported (c : Controller) (a : Admission) : Nat := c.telemetry.count .admission a.outcome

theorem exported_publish : (c.publish a).exported b = c.exported b + if a = b then 1 else 0 := by
  show (c.telemetry.decide .admission a.outcome).count .admission b.outcome = _
  rw [Telemetry.count_decide]
  by_cases same : a = b
  · subst same
    simp [exported]
  · have other : a.outcome ≠ b.outcome := fun outcome => same (Admission.outcome_injective outcome)
    simp [same, other, exported]

theorem exported_startRenewal {key : String} {q : Quota} :
    (c.startRenewal key q).exported a = c.exported a := rfl

/-- How many clients have a renewal. -/
def renewals (c : Controller) : Nat := c.quotas.bindings.countP fun b => b.2.renewal.present

/-- Another quota with a renewal for one with a renewal leaves the renewals as many as they are. -/
theorem renewals_insert {c' : Controller} {key : String} {q q' : Quota}
    (tracked : c.quotas.get? key = some q) (quotas : c'.quotas = c.quotas.insert key q')
    (present : q'.renewal.present = q.renewal.present) : c'.renewals = c.renewals := by
  have count := c.quotas.countP_insert key q' fun b => b.2.renewal.present
  rw [tracked, Option.any_some, present] at count
  rw [renewals, quotas]
  exact Nat.add_right_cancel count

theorem renewals_meet {key : String} (untracked : c.quotas.get? key = none) :
    (c.meet key).renewals = c.renewals := by
  have count := c.quotas.countP_insert key .new fun b => b.2.renewal.present
  rw [untracked] at count
  exact count

theorem renewals_startRenewal {key : String} {q : Quota}
    (tracked : c.quotas.get? key = some q) (absent : q.renewal = .absent) :
    (c.startRenewal key q).renewals = c.renewals + 1 := by
  have count := c.quotas.countP_insert key q.withRenewal fun b => b.2.renewal.present
  rw [tracked, Option.any_some, Renewal.present_eq_false.mpr absent,
    Quota.present_withRenewal] at count
  exact count

theorem renewals_giveUp : c.giveUp.2.renewals = c.renewals := by
  show (c.quotas.bindings.map _).countP _ = _
  rw [List.countP_map]
  exact List.countP_congr fun b _ => by simp [Quota.present_abort]

end Controller

/-- The clients that come with the moves of a list before the first one that stops. -/
def clientsBefore {α : Type} (client? : α → Option String) (stops : α → Bool) (l : List α) :
    List String := (l.takeWhile fun m => !stops m).filterMap client?

theorem clientsBefore_cons {α : Type} (client? : α → Option String) (stops : α → Bool) (m : α)
    (l : List α) : clientsBefore client? stops (m :: l) =
      if stops m then [] else (client? m).toList ++ clientsBefore client? stops l := by
  by_cases stop : stops m = true
  · simp [clientsBefore, stop]
  · cases client : client? m with
    | none => simp [clientsBefore, stop, client]
    | some key => simp [clientsBefore, stop, client]

/-- The clients in time, once more have come that are too late after a stop. -/
def timely (stopped : Bool) (inTime more : List String) : List String :=
  if stopped then inTime else inTime ++ more

theorem timely_nil (stopped : Bool) (inTime : List String) : timely stopped inTime [] = inTime := by
  rw [timely, List.append_nil, ite_self]

/-- What stops brings no client, so the clients in time can be added one by one. -/
theorem timely_cons {α : Type} {client? : α → Option String} {stops : α → Bool} {m : α}
    (silent : stops m = true → client? m = none) (stopped : Bool) (inTime : List String)
    (l : List α) :
    timely (stopped || stops m) (timely stopped inTime (client? m).toList)
      (clientsBefore client? stops l) =
    timely stopped inTime (clientsBefore client? stops (m :: l)) := by
  rw [clientsBefore_cons]
  cases stopped with
  | true => rfl
  | false =>
      by_cases stop : stops m = true
      · simp [timely, stop, silent stop]
      · simp [timely, stop]

theorem length_filterMap_cons {α : Type} (client? : α → Option String) (m : α) (l : List α) :
    ((m :: l).filterMap client?).length =
      (client? m).toList.length + (l.filterMap client?).length := by
  cases client : client? m with
  | none => simp [client]
  | some key =>
      simp [client]
      omega

namespace Reception

open Journal

/-- The client of a request that comes. -/
def Move.client? : Move → Option String
  | .enter key => some key
  | .proceed _ | .run _ | .wait _ | .stop | .giveUp => none

def Move.stops : Move → Bool
  | .stop => true
  | .enter _ | .proceed _ | .run _ | .wait _ | .giveUp => false

/-- The clients of the requests that came, in their order. -/
def came (ms : List Move) : List String := ms.filterMap Move.client?

/-- The clients of the requests that came before the controller was asked to stop. -/
def cameInTime (ms : List Move) : List String := clientsBefore Move.client? Move.stops ms

/-- The answers add up. Each of the requests that came has its answer or will have it, each answer
is counted or will be, and each counted one is exported or will be. -/
structure Counted (requests : Nat) (r : Reception) : Prop where
  answered : (answers r.log).length + r.underway.countP (·.stage.isOpen) = requests
  given : ∀ a, r.controller.metrics.given a + r.underway.countP (·.stage = .answered a) =
    (answers r.log).count a
  exported : ∀ a, r.controller.exported a + r.underway.countP (·.stage = .counted a) =
    r.controller.metrics.given a

/-- The clients that are known are those that came in time, but for those whose request has still
to look for its quota. All of them have a renewal, but for those whose request has still to start
it. -/
structure Known (inTime : List String) (c : Controller) (underway : List Request) : Prop where
  clients : ∀ key, key ∈ inTime ↔
    (c.quotas.get? key).isSome = true ∨ ⟨key, .entered⟩ ∈ underway
  bare : ∀ key q, c.quotas.get? key = some q → q.renewal = .absent → ⟨key, .found⟩ ∈ underway
  renewals : c.metrics.renewalsStarted = c.renewals

/-- The quota of a client is what the journal leaves of it, and its renewal has started once at
most. -/
structure Kept (r : Reception) (key : String) : Prop where
  untracked : r.controller.quotas.get? key = none → spent key r.log = 0 ∧
    times key .started r.log = []
  used : ∀ q, r.controller.quotas.get? key = some q → q.used = spent key r.log ∧
    q.used ≤ r.controller.policy.capacity
  started : ∀ q, r.controller.quotas.get? key = some q →
    (times key .started r.log).length = 0 ∨
      q.renewal.isNew = false ∧ (times key .started r.log).length = 1

variable {r r' : Reception} {m : Move} {ms : List Move} {key : String} {a : Admission} {n : Nat}
  {x : Request} {c c' : Controller} {stage : Stage} {inTime : List String}
  {underway underway' : List Request}

namespace Counted

theorem start (p : AdmissionPolicy) (now : Nat) : Counted 0 (start p now) where
  answered := rfl
  given := fun a => by
    match a with
    | .allowed | .denied => rfl
  exported := fun a => by
    match a with
    | .allowed | .denied => rfl

/-- Where no request goes on, nothing is counted. -/
theorem silent (counted : Counted n r) (underway : r'.underway = r.underway)
    (answers' : answers r'.log = answers r.log)
    (metrics : r'.controller.metrics = r.controller.metrics)
    (exports : ∀ a, r'.controller.exported a = r.controller.exported a) : Counted n r' := by
  refine ⟨?_, fun a => ?_, fun a => ?_⟩
  · rw [answers', underway]
    exact counted.answered
  · rw [metrics, underway, answers']
    exact counted.given a
  · rw [exports, underway, metrics]
    exact counted.exported a

/-- A request goes on to a stage, and what it has written is what it had to write before. -/
theorem reach (counted : Counted n r) (c : Controller) (stage : Stage) (there : x ∈ r.underway)
    (underway : r'.underway = (r.reach x c stage).underway)
    (answered : (answers r'.log).length + (if stage.isOpen then 1 else 0) =
      (answers r.log).length + if x.stage.isOpen then 1 else 0)
    (given : ∀ a, r'.controller.metrics.given a + (if stage = .answered a then 1 else 0) +
        (answers r.log).count a =
      r.controller.metrics.given a + (if x.stage = .answered a then 1 else 0) +
        (answers r'.log).count a)
    (exported : ∀ a, r'.controller.exported a + (if stage = .counted a then 1 else 0) +
        r.controller.metrics.given a =
      r.controller.exported a + (if x.stage = .counted a then 1 else 0) +
        r'.controller.metrics.given a) : Counted n r' := by
  refine ⟨?_, fun a => ?_, fun a => ?_⟩
  · have moved := countP_reach c stage there (·.stage.isOpen)
    have before := counted.answered
    rw [underway]
    dsimp only at moved
    omega
  · have moved := countP_reach c stage there (·.stage = .answered a)
    have before := counted.given a
    have change := given a
    simp only [decide_eq_true_eq] at moved
    rw [underway]
    omega
  · have moved := countP_reach c stage there (·.stage = .counted a)
    have before := counted.exported a
    have change := exported a
    simp only [decide_eq_true_eq] at moved
    rw [underway]
    omega

/-- A request comes to its answer. -/
theorem answer (counted : Counted n r) (there : ⟨key, .ready⟩ ∈ r.underway)
    (metrics : c.metrics = r.controller.metrics)
    (telemetry : c.telemetry = r.controller.telemetry) (a : Admission) :
    Counted n (r.answered ⟨key, .ready⟩ c a) := by
  have noted : answers (r.answered ⟨key, .ready⟩ c a).log = answers r.log ++ [a] :=
    answers_note _ _ _
  refine counted.reach c (.answered a) there rfl ?_ (fun b => ?_) fun b => ?_
  · simp [noted, Stage.isOpen]
  · rw [noted]
    show c.metrics.given b + _ + _ = _
    rw [metrics]
    by_cases same : a = b
    · simp [same]
      omega
    · simp [same]
  · show c.telemetry.count .admission b.outcome + _ + _ = _ + _ + c.metrics.given b
    rw [metrics, telemetry]
    simp [Controller.exported]

/-- A request that comes after the stop has its answer at once. -/
theorem refused (counted : Counted n r) (key : String) :
    Counted (n + 1) ({ r with underway := ⟨key, .answered .denied⟩ :: r.underway }.note key
      [.answered .denied]) := by
  have noted := answers_note { r with underway := ⟨key, .answered .denied⟩ :: r.underway } key
    [.answered .denied]
  refine ⟨?_, fun a => ?_, fun a => ?_⟩
  · have before := counted.answered
    rw [noted]
    simp [note, Stage.isOpen, Report.answer?] at before ⊢
    omega
  · have before := counted.given a
    rw [noted]
    cases a with
    | allowed => simpa [note, Report.answer?] using before
    | denied =>
        simp [note, Report.answer?] at before ⊢
        omega
  · simpa [note] using counted.exported a

theorem enter (counted : Counted n r) (key : String) :
    Counted (n + 1) { r with underway := ⟨key, .entered⟩ :: r.underway } := by
  refine ⟨?_, fun a => ?_, fun a => ?_⟩
  · have before := counted.answered
    simp [Stage.isOpen] at before ⊢
    omega
  · simpa using counted.given a
  · simpa using counted.exported a

/-- An answer that is counted has still to be exported. -/
theorem tally (counted : Counted n r) (there : ⟨key, .answered a⟩ ∈ r.underway) :
    Counted n (r.reach ⟨key, .answered a⟩ (r.controller.tally a) (.counted a)) := by
  refine counted.reach _ _ there rfl rfl (fun b => ?_) fun b => ?_
  · simp [Reception.reach, Controller.given_tally]
  · simp [Reception.reach, Controller.given_tally, Controller.exported, Controller.telemetry_tally]
    omega

/-- A request ends with the export of its answer. -/
theorem publish (counted : Counted n r) (there : ⟨key, .counted a⟩ ∈ r.underway) :
    Counted n { r with
      controller := r.controller.publish a
      underway := r.underway.erase ⟨key, .counted a⟩ } := by
  refine ⟨?_, fun b => ?_, fun b => ?_⟩
  · have left := countP_erase there (·.stage.isOpen)
    exact (congrArg _ left).trans counted.answered
  · have left := countP_erase there (·.stage = .answered b)
    simp only [reduceCtorEq, decide_false, Bool.false_eq_true, if_false, Nat.add_zero] at left
    exact (congrArg _ left).trans (counted.given b)
  · have left := countP_erase there (·.stage = .counted b)
    have before := counted.exported b
    rw [Controller.exported_publish]
    show _ + (r.underway.erase _).countP _ = r.controller.metrics.given b
    simp only [Stage.counted.injEq, decide_eq_true_eq] at left
    omega

theorem step (counted : Counted n r) (step : Step r m r') :
    Counted (n + m.client?.toList.length) r' := by
  cases step with
  | refused key => exact counted.refused key
  | entered key => exact counted.enter key
  | known there | renewing there =>
      exact counted.reach _ _ there rfl rfl (fun a => by simp [Reception.reach])
        fun a => by simp [Reception.reach]
  | met there =>
      exact counted.reach _ _ there rfl rfl (fun a => by simp [Reception.reach, Controller.meet])
        fun a => by simp [Reception.reach, Controller.meet, Controller.exported]
  | begun there =>
      refine counted.reach _ _ there rfl rfl (fun a => ?_) fun a => ?_
      · simp [Reception.reach, Controller.given_startRenewal]
      · simp [Reception.reach, Controller.given_startRenewal, Controller.exported_startRenewal]
  | @allowed key q there =>
      exact counted.answer (c := r.controller.give key q) there rfl rfl .allowed
  | exhausted there => exact counted.answer there rfl rfl .denied
  | tallied there => exact counted.tally there
  | published there => exact counted.publish there
  | ran tracked =>
      obtain ⟨events, polled⟩ := Controller.poll_eq r.now tracked
      rw [polled]
      refine counted.silent rfl ?_ rfl (fun _ => rfl)
      rw [answers_note, Quota.filterMap_answer?_reports, List.append_nil]
  | waited | stopped | cutOff | unasked | unknown | tooEarly =>
      exact counted.silent rfl rfl rfl (fun _ => rfl)

end Counted

namespace Known

theorem start (p : AdmissionPolicy) : Known [] (.new p) [] where
  clients := fun key => by simp [Controller.new]
  bare := nofun
  renewals := rfl

/-- What brings no client and no renewal leaves them as they are. -/
theorem silent (known : Known inTime c underway)
    (quotas : ∀ key, (c'.quotas.get? key).map (·.renewal.present) =
      (c.quotas.get? key).map (·.renewal.present))
    (renewals : c'.renewals = c.renewals)
    (started : c'.metrics.renewalsStarted = c.metrics.renewalsStarted)
    (entered : ∀ key, ⟨key, .entered⟩ ∈ underway' ↔ ⟨key, .entered⟩ ∈ underway)
    (found : ∀ key, ⟨key, .found⟩ ∈ underway → ⟨key, .found⟩ ∈ underway') :
    Known inTime c' underway' := by
  refine ⟨fun key => ?_, fun key q' tracked' absent' => found key ?_, ?_⟩
  · rw [known.clients, entered]
    have same := congrArg Option.isSome (quotas key)
    rw [Option.isSome_map, Option.isSome_map] at same
    rw [same]
  · have same := quotas key
    rw [tracked', Option.map_some] at same
    obtain ⟨q, tracked, present⟩ := Option.map_eq_some_iff.mp same.symm
    refine known.bare key q tracked ?_
    rw [← Renewal.present_eq_false, present, Renewal.present_eq_false, absent']
  · rw [started, renewals]
    exact known.renewals

/-- Requests go on that have passed the first two stages. -/
theorem onward (known : Known inTime c underway)
    (entered : ∀ key, ⟨key, .entered⟩ ∈ underway' ↔ ⟨key, .entered⟩ ∈ underway)
    (found : ∀ key, ⟨key, .found⟩ ∈ underway → ⟨key, .found⟩ ∈ underway') :
    Known inTime c underway' :=
  known.silent (fun _ => rfl) rfl rfl entered found

/-- A client that is known gets another quota. -/
theorem rebound (known : Known inTime c underway) {q q' : Quota}
    (tracked : c.quotas.get? key = some q) (quotas : c'.quotas = c.quotas.insert key q')
    (present : q'.renewal.present = q.renewal.present)
    (started : c'.metrics.renewalsStarted = c.metrics.renewalsStarted) :
    Known inTime c' underway := by
  refine known.silent (fun k => ?_) (Controller.renewals_insert tracked quotas present) started
    (fun _ => Iff.rfl) fun _ => id
  rw [quotas, Table.get?_insert]
  by_cases same : key = k
  · rw [if_pos same, ← same, tracked, Option.map_some, Option.map_some, present]
  · rw [if_neg same]

/-- A request makes a quota for its client. -/
theorem meet (known : Known inTime c underway) (there : ⟨key, .entered⟩ ∈ underway)
    (untracked : c.quotas.get? key = none) :
    Known inTime (c.meet key) (⟨key, .found⟩ :: underway.erase ⟨key, .entered⟩) := by
  refine ⟨fun k => ?_, fun k q tracked absent => ?_, ?_⟩
  · rw [known.clients, Controller.meet, Table.get?_insert]
    by_cases same : key = k
    · subst same
      simp [there]
    · simp [same, Ne.symm same, List.mem_erase_of_ne]
  · rw [Controller.meet, Table.get?_insert] at tracked
    by_cases same : key = k
    · simp [same]
    · rw [if_neg same] at tracked
      simpa [Ne.symm same, List.mem_erase_of_ne] using known.bare k q tracked absent
  · rw [Controller.renewals_meet untracked]
    exact known.renewals

/-- A request starts the renewal of its client. -/
theorem startRenewal (known : Known inTime c underway) {q : Quota}
    (tracked : c.quotas.get? key = some q) (absent : q.renewal = .absent) :
    Known inTime (c.startRenewal key q) (⟨key, .ready⟩ :: underway.erase ⟨key, .found⟩) := by
  refine ⟨fun k => ?_, fun k q' tracked' absent' => ?_, ?_⟩
  · rw [known.clients, Controller.startRenewal, Table.isSome_get?_insert tracked]
    simp [List.mem_erase_of_ne]
  · rw [Controller.startRenewal, Table.get?_insert] at tracked'
    by_cases same : key = k
    · rw [if_pos same] at tracked'
      cases tracked'
      have present := Quota.present_withRenewal (q := q)
      rw [Renewal.present_eq_false.mpr absent'] at present
      cases present
    · rw [if_neg same] at tracked'
      simpa [Ne.symm same, List.mem_erase_of_ne] using known.bare k q' tracked' absent'
  · rw [Controller.renewals_startRenewal tracked absent, ← known.renewals]
    rfl

/-- A move by which no request comes. -/
theorem silent_step (known : Known inTime r.controller r.underway) (step : Step r m r')
    (silent : m.client? = none) : Known inTime r'.controller r'.underway := by
  cases step with
  | refused | entered => cases silent
  | @known key q there tracked =>
      -- The client is tracked, whether or not another request of it has still to look.
      refine ⟨fun k => ?_, fun k q tracked absent => ?_, known.renewals⟩
      · rw [known.clients]
        by_cases same : key = k
        · subst same
          simp [reach, tracked]
        · simp [reach, Ne.symm same, List.mem_erase_of_ne]
      · have found := known.bare k q tracked absent
        simp [reach, List.mem_erase_of_ne, found]
  | met there untracked => exact known.meet there untracked
  | @renewing key there present =>
      -- The renewal is there, so no request of this client has to answer for it.
      refine ⟨fun k => ?_, fun k q tracked absent => ?_, known.renewals⟩
      · rw [known.clients]
        simp [reach, List.mem_erase_of_ne]
      · have other : k ≠ key := by
          rintro rfl
          exact present q tracked absent
        simpa [reach, other, List.mem_erase_of_ne] using known.bare k q tracked absent
  | begun there tracked absent => exact known.startRenewal tracked absent
  | @allowed key q there tracked left =>
      have given : Known inTime (r.controller.give key q) r.underway :=
        known.rebound tracked rfl rfl rfl
      exact given.onward (by simp [answered, note, reach, List.mem_erase_of_ne])
        (by simp [answered, note, reach, List.mem_erase_of_ne])
  | exhausted there =>
      exact known.onward (by simp [answered, note, reach, List.mem_erase_of_ne])
        (by simp [answered, note, reach, List.mem_erase_of_ne])
  | tallied there =>
      refine known.silent (fun k => ?_) ?_ (Controller.renewalsStarted_tally _)
        (by simp [reach, List.mem_erase_of_ne]) (by simp [reach, List.mem_erase_of_ne])
      · rw [reach, Controller.quotas_tally]
      · rw [Controller.renewals, reach, Controller.quotas_tally, Controller.renewals]
  | published there =>
      exact known.silent (fun _ => rfl) rfl rfl (by simp [List.mem_erase_of_ne])
        (by simp [List.mem_erase_of_ne])
  | @ran key q tracked =>
      obtain ⟨events, polled⟩ := Controller.poll_eq r.now tracked
      have ran := q.ran r.controller.policy.window r.now r.controller.cancelled
      rw [polled]
      exact known.rebound tracked rfl ran.present rfl
  | cutOff stopped =>
      refine known.silent (fun k => ?_) Controller.renewals_giveUp rfl (fun _ => Iff.rfl)
        fun _ => id
      show ((r.controller.quotas.mapValues fun _ q => q.abort).get? k).map _ = _
      rw [Table.get?_mapValues, Option.map_map]
      exact congrArg (fun f => (r.controller.quotas.get? k).map f)
        (funext fun q => Quota.present_abort)
  | waited | stopped | unasked | unknown | tooEarly =>
      exact known.silent (fun _ => rfl) rfl rfl (fun _ => Iff.rfl) fun _ => id

theorem step (known : Known inTime r.controller r.underway) (step : Step r m r') :
    Known (timely r.controller.cancelled inTime m.client?.toList) r'.controller r'.underway := by
  cases client : m.client? with
  | none =>
      rw [Option.toList_none, timely_nil]
      exact known.silent_step step client
  | some key =>
      cases step with
      | refused _ stopped =>
          rw [timely, if_pos stopped]
          exact known.onward (by simp [note]) fun _ => List.mem_cons_of_mem _
      | entered _ running =>
          cases client
          rw [timely, running, if_neg Bool.false_ne_true]
          refine ⟨fun k => ?_, fun k q tracked absent => ?_, known.renewals⟩
          · simp [known.clients, or_comm, or_left_comm]
          · exact List.mem_cons_of_mem _ (known.bare k q tracked absent)
      | known | met | renewing | begun | allowed | exhausted | tallied | published | ran | waited
      | stopped | cutOff | unasked | unknown | tooEarly => cases client

/-- Where no request is under way, exactly the clients that came in time are known. -/
theorem size_eq (known : Known inTime c []) : c.quotas.size = inTime.toFinset.card := by
  have same : c.quotas.keys.toFinset = inTime.toFinset := by
    ext key
    rw [List.mem_toFinset, List.mem_toFinset, Table.mem_keys, known.clients]
    simp
  have distinct : c.quotas.keys.Nodup := c.quotas.distinct
  rw [← same, List.toFinset_card_of_nodup distinct]
  exact (List.length_map _).symm

/-- Where no request is under way, every client has a renewal. -/
theorem renewals_eq (known : Known inTime c []) : c.metrics.renewalsStarted = c.quotas.size := by
  rw [known.renewals]
  refine List.countP_eq_length.mpr fun b member => ?_
  refine Bool.eq_true_of_not_eq_false fun missing => ?_
  have under := known.bare b.1 b.2 (Table.get?_of_mem member) (Renewal.present_eq_false.mp missing)
  cases under

end Known

namespace Kept

theorem start (p : AdmissionPolicy) (now : Nat) (key : String) : Kept (start p now) key where
  untracked := fun _ => ⟨rfl, rfl⟩
  used := nofun
  started := nofun

/-- What is kept of a client rests on its own quota and notes. -/
theorem congr (kept : Kept r key)
    (quota : r'.controller.quotas.get? key = r.controller.quotas.get? key)
    (policy : r'.controller.policy = r.controller.policy)
    (spends : spent key r'.log = spent key r.log)
    (starts : times key .started r'.log = times key .started r.log) : Kept r' key := by
  constructor
  · rw [quota, spends, starts]
    exact kept.untracked
  · rw [quota, spends, policy]
    exact kept.used
  · rw [quota, starts]
    exact kept.started

theorem of_tracked {q : Quota} (tracked : r.controller.quotas.get? key = some q)
    (used : q.used = spent key r.log) (within : q.used ≤ r.controller.policy.capacity)
    (started : (times key .started r.log).length = 0 ∨
      q.renewal.isNew = false ∧ (times key .started r.log).length = 1) : Kept r key := by
  constructor
  · intro none
    rw [tracked] at none
    cases none
  · intro q' tracked'
    cases tracked.symm.trans tracked'
    exact ⟨used, within⟩
  · intro q' tracked'
    cases tracked.symm.trans tracked'
    exact started

/-- A note about another client, or about a denial, changes nothing for a client. -/
theorem note {k : String} {reports : List Report} (kept : Kept r key)
    (silent : k ≠ key ∨ reports = [.answered .denied]) : Kept (r.note k reports) key := by
  refine kept.congr rfl rfl ?_ ?_
  · rw [Reception.note, spent_append_reports]
    obtain other | rfl := silent
    · exact if_neg other
    · exact ite_self _
  · apply times_append_silent
    exact silent.imp_right (by rintro rfl; simp)

/-- A client that has come for the first time has a quota, of which nothing is spent. -/
theorem meet {k : String} (kept : Kept r key) (untracked : r.controller.quotas.get? k = none) :
    Kept { r with controller := r.controller.meet k, underway := underway } key := by
  by_cases same : k = key
  · subst same
    obtain ⟨unspent, unstarted⟩ := kept.untracked untracked
    exact .of_tracked ((Table.get?_insert _ _ _ _).trans (if_pos rfl)) unspent.symm
      (Nat.zero_le _) (.inl (congrArg List.length unstarted))
  · exact kept.congr ((Table.get?_insert _ _ _ _).trans (if_neg same)) rfl rfl rfl

theorem startRenewal {k : String} {q : Quota} (kept : Kept r key)
    (tracked : r.controller.quotas.get? k = some q) :
    Kept { r with controller := r.controller.startRenewal k q, underway := underway } key := by
  by_cases same : k = key
  · subst same
    obtain ⟨used, within⟩ := kept.used q tracked
    refine .of_tracked ((Table.get?_insert _ _ _ _).trans (if_pos rfl))
      (Quota.used_withRenewal.trans used) ?_ ?_
    · rw [Quota.used_withRenewal]
      exact within
    · rw [Quota.isNew_withRenewal]
      exact kept.started q tracked
  · exact kept.congr ((Table.get?_insert _ _ _ _).trans (if_neg same)) rfl rfl rfl

/-- A permit that is given is spent. -/
theorem give {k : String} {q : Quota} (kept : Kept r key)
    (tracked : r.controller.quotas.get? k = some q) (left : q.used < r.controller.policy.capacity) :
    Kept ({ r with controller := r.controller.give k q, underway := underway }.note k
      [.answered .allowed]) key := by
  by_cases same : k = key
  · subst same
    obtain ⟨used, -⟩ := kept.used q tracked
    refine .of_tracked ((Table.get?_insert _ _ _ _).trans (if_pos rfl)) ?_ left ?_
    · rw [Reception.note, spent_append_reports, if_pos rfl, ← used]
      rfl
    · rw [Reception.note, times_append_silent (.inr (by simp))]
      exact kept.started q tracked
  · refine .note (kept.congr ?_ rfl rfl rfl) (.inl same)
    exact (Table.get?_insert _ _ _ _).trans (if_neg same)

/-- A run of its renewal leaves of a quota what its reports say. -/
theorem run {k : String} {q : Quota} (kept : Kept r key)
    (tracked : r.controller.quotas.get? k = some q) :
    Kept ({ r with controller := r.controller.poll r.now k }.note k
      (q.reports r.controller.cancelled r.now)) key := by
  obtain ⟨events, polled⟩ := Controller.poll_eq r.now tracked
  have ran := q.ran r.controller.policy.window r.now r.controller.cancelled
  rw [polled]
  by_cases same : k = key
  · subst same
    obtain ⟨used, within⟩ := kept.used q tracked
    refine .of_tracked ((Table.get?_insert _ _ _ _).trans (if_pos rfl)) ?_
      (Nat.le_trans ran.used_le within) ?_
    · rw [Reception.note, spent_append_reports, if_pos rfl, ← used]
      exact ran.used_eq
    · rw [Reception.note, times_append_reports, if_pos rfl, List.length_append,
        List.length_replicate, ran.count_started]
      have started := kept.started q tracked
      by_cases fresh : q.renewal = .fresh
      · rw [if_pos fresh]
        refine .inr ⟨ran.isNew (.inl fresh), ?_⟩
        simp only [fresh, Renewal.isNew, Bool.true_eq_false, false_and, or_false] at started
        rw [started]
      · rw [if_neg fresh]
        exact started.imp_right fun begun => ⟨ran.isNew (.inr begun.1), begun.2⟩
  · refine .note (kept.congr ?_ rfl rfl rfl) (.inl same)
    exact (Table.get?_insert _ _ _ _).trans (if_neg same)

theorem giveUp (kept : Kept r key) : Kept { r with controller := r.controller.giveUp.2 } key := by
  have quota : r.controller.giveUp.2.quotas.get? key =
      (r.controller.quotas.get? key).map Quota.abort := Table.get?_mapValues _ _ _
  cases tracked : r.controller.quotas.get? key with
  | none =>
      rw [tracked] at quota
      exact kept.congr (quota.trans tracked.symm) rfl rfl rfl
  | some q =>
      rw [tracked] at quota
      obtain ⟨used, within⟩ := kept.used q tracked
      refine .of_tracked quota (Quota.used_abort.trans used) ?_ ?_
      · rw [Quota.used_abort]
        exact within
      · exact (kept.started q tracked).imp_right (And.imp_left Quota.isNew_abort)

theorem step (kept : Kept r key) (step : Step r m r') : Kept r' key := by
  cases step with
  | refused | exhausted => exact .note (kept.congr rfl rfl rfl rfl) (.inr rfl)
  | met there untracked => exact kept.meet untracked
  | begun there tracked absent => exact kept.startRenewal tracked
  | allowed there tracked left => exact kept.give tracked left
  | tallied =>
      exact kept.congr (congrArg (Table.get? · key) (Controller.quotas_tally _))
        (Controller.policy_tally _) rfl rfl
  | ran tracked => exact kept.run tracked
  | cutOff => exact kept.giveUp
  | entered | known | renewing | published | waited | stopped | unasked | unknown | tooEarly =>
      exact kept.congr rfl rfl rfl rfl

/-- What is left to a client is what it has not spent. -/
theorem remaining?_eq (kept : Kept r key) {q : Quota}
    (tracked : r.controller.quotas.get? key = some q) :
    r.controller.remaining? key = some (r.controller.policy.capacity - spent key r.log) := by
  rw [Controller.remaining?, tracked, ← (kept.used q tracked).1]
  rfl

/-- No client has spent more than its quota. -/
theorem spent_le_capacity (kept : Kept r key) : spent key r.log ≤ r.controller.policy.capacity := by
  match tracked : r.controller.quotas.get? key with
  | none =>
      rw [(kept.untracked tracked).1]
      exact Nat.zero_le _
  | some q =>
      obtain ⟨used, within⟩ := kept.used q tracked
      rw [← used]
      exact within

theorem started_le_one (kept : Kept r key) : (times key .started r.log).length ≤ 1 := by
  match tracked : r.controller.quotas.get? key with
  | none => simp [(kept.untracked tracked).2]
  | some q =>
      obtain none | ⟨-, once⟩ := kept.started q tracked
      · omega
      · omega

end Kept

/-- All accounts, after so many requests, and those of the clients `inTime` before a stop. -/
structure Balanced (p : AdmissionPolicy) (requests : Nat) (inTime : List String) (r : Reception) :
    Prop where
  policy : r.controller.policy = p
  counted : Counted requests r
  known : Known inTime r.controller r.underway
  kept : ∀ key, Kept r key

theorem cancelled_step (step : Step r m r') :
    r'.controller.cancelled = (r.controller.cancelled || m.stops) := by
  cases step with
  | tallied => exact (Controller.cancelled_tally _).trans (Bool.or_false _).symm
  | ran => exact Controller.cancelled_poll.trans (Bool.or_false _).symm
  | stopped => exact (Bool.or_true _).symm
  | refused | entered | known | met | renewing | begun | allowed | exhausted | published | waited
  | cutOff | unasked | unknown | tooEarly => exact (Bool.or_false _).symm

theorem cancelled_acts (r : Reception) (ms : List Move) :
    (r.acts ms).controller.cancelled = (r.controller.cancelled || ms.any Move.stops) := by
  induction ms generalizing r with
  | nil => exact (Bool.or_false _).symm
  | cons m ms ih =>
      rw [List.any_cons, ← Bool.or_assoc, ← cancelled_step (act_step r m), ← ih]
      rfl

namespace Balanced

variable {p : AdmissionPolicy}

theorem start (p : AdmissionPolicy) (now : Nat) : Balanced p 0 [] (start p now) :=
  ⟨rfl, .start p now, .start p, .start p now⟩

theorem step (balanced : Balanced p n inTime r) (step : Step r m r') :
    Balanced p (n + m.client?.toList.length)
      (timely r.controller.cancelled inTime m.client?.toList) r' :=
  ⟨step.follows.policy.trans balanced.policy, balanced.counted.step step,
    balanced.known.step step, fun key => (balanced.kept key).step step⟩

/-- All accounts are kept through every run. -/
theorem acts (balanced : Balanced p n inTime r) (ms : List Move) :
    Balanced p (n + (came ms).length) (timely r.controller.cancelled inTime (cameInTime ms))
      (r.acts ms) := by
  induction ms generalizing r n inTime with
  | nil =>
      rw [cameInTime, clientsBefore, List.takeWhile_nil, List.filterMap_nil, timely_nil]
      exact balanced
  | cons m ms ih =>
      have step := act_step r m
      have silent : m.stops = true → m.client? = none := by
        cases m with
        | enter => nofun
        | proceed | run | wait | stop | giveUp => exact fun _ => rfl
      have rest := ih (balanced.step step)
      rw [cancelled_step step, cameInTime, timely_cons silent, Nat.add_assoc] at rest
      rw [came, length_filterMap_cons]
      exact rest

end Balanced

/-- How many steps a request has still to take. -/
def Stage.toGo : Stage → Nat
  | .entered => 5
  | .found => 4
  | .ready => 3
  | .answered _ => 2
  | .counted _ => 1

/-- How many steps some requests have still to take. -/
def toGo : List Request → Nat
  | [] => 0
  | x :: l => x.stage.toGo + toGo l

theorem toGo_erase {l : List Request} (there : x ∈ l) :
    toGo (l.erase x) + x.stage.toGo = toGo l := by
  induction l with
  | nil => cases there
  | cons y l ih =>
      by_cases same : y = x
      · subst same
        rw [List.erase_cons_head, toGo, Nat.add_comm]
      · rw [List.erase_cons_tail (by simpa using same), toGo, toGo, Nat.add_assoc,
          ih (List.mem_of_ne_of_mem (Ne.symm same) there)]

/-- A request that goes on is one step nearer to its end, wherever the others stand. -/
theorem toGo_proceed (there : x ∈ r.underway) :
    toGo (r.proceed x).underway + 1 = toGo r.underway := by
  have others := toGo_erase there
  rw [proceed, if_pos there]
  obtain ⟨key, stage⟩ := x
  cases stage with
  | entered | found | ready | answered | counted =>
      simp only [reach, answered, note, toGo, Stage.toGo] at others ⊢
      omega

/-- All requests under way come to their end by the steps that they have still to take. -/
theorem comes_to_rest (r : Reception) : ∃ ms : List Move, ms.length = toGo r.underway ∧
    (∀ m ∈ ms, ∃ x, m = .proceed x) ∧ (r.acts ms).underway = [] := by
  generalize steps : toGo r.underway = n
  induction n generalizing r with
  | zero =>
      refine ⟨[], rfl, nofun, ?_⟩
      match under : r.underway with
      | [] => rfl
      | ⟨key, stage⟩ :: l =>
        rw [under] at steps
        cases stage <;> simp [toGo, Stage.toGo] at steps
  | succ n ih =>
      match under : r.underway with
      | [] =>
        rw [under] at steps
        cases steps
      | x :: l =>
        -- Any of the requests may go on first: none waits for another.
        have there : x ∈ r.underway := under ▸ List.mem_cons_self
        have nearer := toGo_proceed there
        obtain ⟨ms, length, proceeds, rest⟩ := ih (r.proceed x) (by omega)
        refine ⟨.proceed x :: ms, congrArg (· + 1) length, ?_, rest⟩
        exact List.forall_mem_cons.mpr ⟨⟨x, rfl⟩, proceeds⟩

/-- A request that has its answer is counted by its next step and exported by the one after it, once
each, and then is no longer under way. -/
theorem counted_and_exported (there : ⟨key, .answered a⟩ ∈ r.underway) :
    let r' := r.acts (onward key [.answered a, .counted a])
    r'.underway = r.underway.erase ⟨key, .answered a⟩ ∧
      ∀ b, r'.controller.metrics.given b =
          r.controller.metrics.given b + (if a = b then 1 else 0) ∧
        r'.controller.exported b = r.controller.exported b + if a = b then 1 else 0 := by
  have moves : r.acts (onward key [.answered a, .counted a]) =
      { r with
        controller := (r.controller.tally a).publish a
        underway := r.underway.erase ⟨key, .answered a⟩ } := by
    simp [acts, act, onward, proceed, reach, there]
  rw [moves]
  refine ⟨rfl, fun b => ⟨Controller.given_tally, ?_⟩⟩
  show ((r.controller.tally a).publish a).exported b = _
  rw [Controller.exported_publish, Controller.exported, Controller.telemetry_tally]
  rfl

/-- The accounts are exact. Requests of the clients `asked` have come, and those of the clients
`inTime` came before the controller was asked to stop. -/
structure Settled (p : AdmissionPolicy) (asked inTime : List String) (r : Reception) : Prop where
  answered : r.controller.metrics.allowed + r.controller.metrics.denied = asked.length
  noted : ∀ a, r.controller.metrics.given a = (answers r.log).count a
  exported : ∀ a : Admission, r.controller.telemetry.count .admission a.outcome =
    r.controller.metrics.given a
  tracked : r.controller.trackedKeys = inTime.toFinset.card
  renewals : r.controller.metrics.renewalsStarted = r.controller.trackedKeys
  started : ∀ key, (times key .started r.log).length ≤ 1
  spent_le : ∀ key, spent key r.log ≤ p.capacity
  remaining : ∀ key, r.controller.remaining? key =
    if key ∈ inTime then some (p.capacity - spent key r.log) else none

/-- Where no request is under way, the accounts are exact. -/
theorem Balanced.settled {p : AdmissionPolicy} {asked : List String}
    (balanced : Balanced p asked.length inTime r) (rest : r.underway = []) :
    Settled p asked inTime r := by
  obtain ⟨policy, counted, known, kept⟩ := balanced
  rw [rest] at known
  have given : ∀ a, r.controller.metrics.given a = (answers r.log).count a := by
    intro a
    have counted := counted.given a
    rw [rest] at counted
    exact counted
  have exported : ∀ a : Admission, r.controller.telemetry.count .admission a.outcome =
      r.controller.metrics.given a := by
    intro a
    have counted := counted.exported a
    rw [rest] at counted
    exact counted
  refine ⟨?_, given, exported, known.size_eq, known.renewals_eq,
    fun key => (kept key).started_le_one, fun key => policy ▸ (kept key).spent_le_capacity,
    fun key => ?_⟩
  · have answered := counted.answered
    rw [rest] at answered
    have allowed : r.controller.metrics.allowed = _ := given .allowed
    have denied : r.controller.metrics.denied = _ := given .denied
    rw [allowed, denied, Admission.count_allowed_add_denied]
    exact answered
  · have clients := known.clients key
    match tracked : r.controller.quotas.get? key with
    | none =>
        have absent : key ∉ inTime := by
          rw [clients, tracked]
          simp
        rw [if_neg absent, Controller.remaining?, tracked]
        rfl
    | some q =>
        have present : key ∈ inTime := by
          rw [clients, tracked]
          exact .inl rfl
        rw [if_pos present, ← policy]
        exact (kept key).remaining?_eq tracked

end Reception

namespace Closing

open Reception Journal

/-- The client of a request that comes. -/
def Move.client? : Move → Option String
  | .request key => some key
  | .run _ | .wait _ | .shutdown _ | .look => none

/-- The clients of the requests that came, in their order. -/
def asked (ms : List Move) : List String := ms.filterMap Move.client?

/-- The clients of the requests that came before the first shutdown. -/
def askedInTime (ms : List Move) : List String := clientsBefore Move.client? Move.isShutdown ms

/-- Only a controller that was asked to stop has a deadline. -/
def Due (c : Closing) : Prop := c.deadline ≠ none → c.reception.controller.cancelled = true

variable {c : Closing} {m : Move} {p : AdmissionPolicy} {n : Nat} {inTime : List String}

theorem clients_onward (key : String) (l : List Stage) : came (onward key l) = [] ∧
    cameInTime (onward key l) = [] ∧ (onward key l).any Reception.Move.stops = false := by
  induction l with
  | nil => exact ⟨rfl, rfl, rfl⟩
  | cons stage l ih => exact ih

/-- A move does to the reception what some of its own moves do. -/
theorem act_moves (due : c.Due) (m : Move) : ∃ ms, (c.act m).reception = c.reception.acts ms ∧
    came ms = m.client?.toList ∧ cameInTime ms = m.client?.toList ∧
    (c.reception.controller.cancelled || ms.any Reception.Move.stops) =
      (c.reception.controller.cancelled || m.isShutdown) := by
  match m with
  | .request key =>
      obtain ⟨none, none', unstopped⟩ := clients_onward key
        (stages c.reception.controller.cancelled (c.reception.controller.request key).1)
      exact ⟨c.reception.course key, (acts_course _ key).symm, congrArg (key :: ·) none,
        congrArg (key :: ·) none', congrArg (c.reception.controller.cancelled || ·) unstopped⟩
  | .run key => exact ⟨[.run key], rfl, rfl, rfl, rfl⟩
  | .wait now => exact ⟨[.wait now], rfl, rfl, rfl, rfl⟩
  | .shutdown wait =>
      rw [act, shutdown]
      split
      · rename_i stopped
        exact ⟨[], rfl, rfl, rfl, by simp [stopped]⟩
      · exact ⟨[.stop], rfl, rfl, rfl, rfl⟩
  | .look =>
      obtain same | ⟨d, waits, -, ends⟩ := c.look_cases
      · rw [act, same]
        exact ⟨[], rfl, rfl, rfl, rfl⟩
      · have stopped := due (waits ▸ Option.some_ne_none d)
        refine ⟨[.giveUp], ?_, rfl, rfl, rfl⟩
        rw [act, ends]
        exact (if_pos stopped).symm

/-- No request is under way where none was. -/
theorem underway_act (c : Closing) (m : Move) :
    (c.act m).reception.underway = c.reception.underway := by
  match m with
  | .request _ | .wait _ => rfl
  | .run key =>
      rw [act, run]
      split
      · rfl
      · rfl
  | .shutdown wait =>
      rw [act, shutdown]
      split
      · rfl
      · rfl
  | .look =>
      obtain same | ⟨d, -, -, ends⟩ := c.look_cases
      · rw [act, same]
      · rw [act, ends]
        rfl

theorem Due.act (due : c.Due) (m : Move) : (c.act m).Due := by
  obtain ⟨ms, same, -, -, stops⟩ := act_moves due m
  intro waits
  rw [same, cancelled_acts, stops]
  match m with
  | .shutdown _ => exact Bool.or_true _
  | .request _ | .run _ | .wait _ => exact Bool.or_eq_true_iff.mpr (.inl (due waits))
  | .look =>
      obtain unchanged | ⟨d, -, -, ends⟩ := c.look_cases
      · rw [Closing.act, unchanged] at waits
        exact Bool.or_eq_true_iff.mpr (.inl (due waits))
      · rw [Closing.act, ends] at waits
        exact absurd rfl waits

/-- What holds at every point of a run of whole requests. -/
structure AtRest (p : AdmissionPolicy) (n : Nat) (inTime : List String) (c : Closing) : Prop where
  balanced : Balanced p n inTime c.reception
  underway : c.reception.underway = []
  due : c.Due

namespace AtRest

theorem start (p : AdmissionPolicy) (begun : Nat) : AtRest p 0 [] (ofReception (.start p begun)) :=
  ⟨.start p begun, rfl, fun waits => absurd rfl waits⟩

theorem act (rest : AtRest p n inTime c) (m : Move) :
    AtRest p (n + m.client?.toList.length)
      (timely c.reception.controller.cancelled inTime m.client?.toList) (c.act m) ∧
    (c.act m).reception.controller.cancelled =
      (c.reception.controller.cancelled || m.isShutdown) := by
  obtain ⟨ms, same, count, early, stops⟩ := act_moves rest.due m
  have balanced := rest.balanced.acts ms
  rw [count, early, ← same] at balanced
  refine ⟨⟨balanced, (underway_act c m).trans rest.underway, rest.due.act m⟩, ?_⟩
  rw [same, cancelled_acts, stops]

theorem acts (rest : AtRest p n inTime c) (ms : List Move) :
    AtRest p (n + (asked ms).length)
      (timely c.reception.controller.cancelled inTime (askedInTime ms)) (c.acts ms) := by
  induction ms generalizing c n inTime with
  | nil =>
      rw [askedInTime, clientsBefore, List.takeWhile_nil, List.filterMap_nil, timely_nil]
      exact rest
  | cons m ms ih =>
      have silent : m.isShutdown = true → m.client? = none := by
        cases m with
        | request => nofun
        | run | wait | shutdown | look => exact fun _ => rfl
      obtain ⟨rest', stops⟩ := rest.act m
      have further := ih rest'
      rw [stops, askedInTime, timely_cons silent, Nat.add_assoc] at further
      rw [asked, length_filterMap_cons]
      exact further

end AtRest

/-- The accounts of a controller agree with each other and with what has happened, at every point of
every run of requests, runs of renewals, clock changes and shutdowns:

Each request is counted as allowed or as denied, and the exported counters show the same. As many
clients are tracked as different ones have come before the controller was asked to stop, each with
one renewal that starts once at most. These clients, and no others, have permits left, and what is
left of the capacity is what the client has not spent since its last renewal.

Where requests overlap, the accounts differ by what the requests under way have still to write, and
they are exact again whenever none is under way. -/
theorem accounts_agree (p : AdmissionPolicy) (begun : Nat) :
    (∀ ms : List Closing.Move, Settled p (asked ms) (askedInTime ms)
      ((ofReception (start p begun)).acts ms).reception) ∧
    ∀ ms : List Reception.Move,
      let r := (start p begun).acts ms
      Balanced p (came ms).length (cameInTime ms) r ∧
        (r.underway = [] → Settled p (came ms) (cameInTime ms) r) := by
  refine ⟨fun ms => ?_, fun ms => ?_⟩
  · have rest := (AtRest.start p begun).acts ms
    rw [Nat.zero_add] at rest
    exact rest.balanced.settled rest.underway
  · have balanced := (Balanced.start p begun).acts ms
    rw [Nat.zero_add] at balanced
    exact ⟨balanced, balanced.settled⟩

/-- A client spends its quota, is denied, and spends another one after its renewal. Another client
spends its own. After the stop both a known and a new client are denied. -/
def sixRequests : List Move :=
  [.request "a", .request "a", .run "a", .request "b", .wait 10, .run "a", .request "a",
    .shutdown 0, .request "b", .request "c", .look]

/-- Two requests of a new client go through all stages side by side. -/
def race : List Reception.Move :=
  [.enter "a", .enter "a"] ++ onward "a" [.entered, .entered, .found, .found, .ready, .ready,
    .answered .allowed, .answered .denied, .counted .denied, .counted .allowed]

/-- The six requests are counted, three of them as allowed. The two that race share a quota and its
renewal, and one of them is allowed. -/
theorem requests_accounted :
    (let r := ((ofReception (start samplePolicy 0)).acts sixRequests).reception
    r.controller.metrics.allowed = 3 ∧ r.controller.metrics.denied = 3 ∧
      r.controller.metrics.renewalsStarted = 2 ∧ r.controller.remaining? "a" = some 0 ∧
      r.controller.remaining? "c" = none) ∧
    (let r := (start samplePolicy 0).acts race
    r.underway = [] ∧ r.controller.metrics.allowed = 1 ∧ r.controller.metrics.denied = 1 ∧
      r.controller.metrics.renewalsStarted = 1 ∧ r.controller.trackedKeys = 1) := by
  obtain ⟨whole, overlapping⟩ := accounts_agree samplePolicy 0
  have six := whole sixRequests
  have two := (overlapping race).2 (by decide)
  refine ⟨⟨(six.noted .allowed).trans (by decide), (six.noted .denied).trans (by decide),
    (six.renewals.trans six.tracked).trans (by decide), (six.remaining "a").trans (by decide),
    (six.remaining "c").trans (by decide)⟩, by decide, (two.noted .allowed).trans (by decide),
    (two.noted .denied).trans (by decide), (two.renewals.trans two.tracked).trans (by decide),
    two.tracked.trans (by decide)⟩

end Closing

end RequestGuard
