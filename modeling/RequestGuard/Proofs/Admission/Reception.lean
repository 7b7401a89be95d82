import RequestGuard.Proofs.Admission.Journal
import RequestGuard.Proofs.Table

/-!
# A controller at work

Requests of any clients come to one controller, on any number of threads. A request goes through the
stages of `Stage`, one step at a time, and each step is one access to what the requests share: the
sign to stop, the map of quotas, the renewal of a client, its permits, a counter, or an exported
counter. Between two steps of a request other requests may come and go on, renewals may run, and the
clock may move.

The renewals run on a runtime, one at a time and each as a whole. A runtime is prompt if the clock
never passes a tick before it is served. A renewal may run for the first time at any time after it
was started, and ticks from then on.

`Step` lists what a move can make of the reception, with what is known where it does so. Everything
that is shown of a controller at work is shown of these steps one by one.
-/

namespace RequestGuard

/-- What is reported of a renewal that runs. -/
def Quota.reports (q : Quota) (cancelled : Bool) (now : Nat) : List Report :=
  match q.renewal with
  | .fresh => if cancelled then [.started, .stopped] else [.started]
  | .waiting due => if cancelled then [.stopped] else if due ≤ now then [.renewed] else []
  | .absent | .stopped | .aborted => []

/-- Whether the clock may come to show a time before the renewal runs again. -/
def Renewal.permits (now : Nat) : Renewal → Bool
  | .waiting due => now ≤ due
  | .absent | .fresh | .stopped | .aborted => true

namespace Quota

/-- What one run of its renewal makes of a quota, and what is reported of it. -/
inductive Ran (q : Quota) (window now : Nat) : Bool → Quota → List Report → Prop
  | begun (fresh : q.renewal = .fresh) :
      Ran q window now false { q with renewal := .waiting (now + window) } [.started]
  /-- The stop came before the first run. -/
  | stillborn (fresh : q.renewal = .fresh) :
      Ran q window now true { q with renewal := .stopped } [.started, .stopped]
  /-- The stop came before a tick, or together with it. -/
  | stopped {due : Nat} (waits : q.renewal = .waiting due) :
      Ran q window now true { q with renewal := .stopped } [.stopped]
  | ticked {due : Nat} (waits : q.renewal = .waiting due) (served : due ≤ now) :
      Ran q window now false ⟨0, .waiting (nextDue window due now)⟩ [.renewed]
  | early {due : Nat} (waits : q.renewal = .waiting due) (ahead : now < due) :
      Ran q window now false q []
  | idle {cancelled : Bool} (ended : q.renewal.isLive = false) : Ran q window now cancelled q []

theorem ran (q : Quota) (window now : Nat) (cancelled : Bool) : q.Ran window now cancelled
    (q.poll window cancelled now).1 (q.reports cancelled now) := by
  rw [poll, reports]
  cases stage : q.renewal with
  | fresh =>
      cases cancelled with
      | true => exact .stillborn stage
      | false => exact .begun stage
  | waiting due =>
      cases cancelled with
      | true => exact .stopped stage
      | false =>
          by_cases served : due ≤ now
          · simp only [Bool.false_eq_true, if_false, if_pos served]
            exact .ticked stage served
          · simp only [Bool.false_eq_true, if_false, if_neg served]
            exact .early stage (Nat.not_le.mp served)
  | absent | stopped | aborted => exact .idle (by rw [stage]; rfl)

/-- What a renewal reports are no answers. -/
theorem Ran.no_answers {q q' : Quota} {window now : Nat} {cancelled : Bool} {reports : List Report}
    (ran : q.Ran window now cancelled q' reports) : reports.filterMap Report.answer? = [] := by
  cases ran with
  | begun | stillborn | stopped | ticked | early | idle => rfl

theorem filterMap_answer?_reports {q : Quota} {cancelled : Bool} {now : Nat} :
    (q.reports cancelled now).filterMap Report.answer? = [] := (q.ran 0 now cancelled).no_answers

theorem answered_not_mem_reports {q : Quota} {cancelled : Bool} {now : Nat} {a : Admission} :
    .answered a ∉ q.reports cancelled now := by
  intro reported
  have answer := List.filterMap_eq_nil_iff.mp filterMap_answer?_reports _ reported
  cases answer

theorem used_withRenewal {q : Quota} : q.withRenewal.used = q.used := by
  rw [withRenewal]
  split
  · rfl
  · rfl

theorem used_abort {q : Quota} : q.abort.used = q.used := by
  rw [abort]
  split
  · rfl
  · rfl

end Quota

namespace Reception

/-- How far a request has come. -/
inductive Stage where
  /-- It came before the controller was asked to stop. -/
  | entered
  /-- It has found the quota of its client, or has made it. -/
  | found
  /-- The renewal of its client was started, by this request or by another one. -/
  | ready
  /-- It has its answer, which is not counted yet. -/
  | answered (a : Admission)
  /-- Its answer is counted, and not exported yet. -/
  | counted (a : Admission)
deriving DecidableEq

/-- Whether a request has no answer yet. -/
def Stage.isOpen : Stage → Bool
  | .entered | .found | .ready => true
  | .answered _ | .counted _ => false

/-- A request under way. -/
structure Request where
  key : String
  stage : Stage
deriving DecidableEq

end Reception

/-- A controller with the clock of its runtime, the requests under way, and the journal. -/
structure Reception where
  now : Nat
  controller : Controller
  underway : List Reception.Request
  log : List Note

namespace Reception

/-- What may happen next. -/
inductive Move where
  /-- A request comes. -/
  | enter (key : String)
  /-- A request goes on by one step. -/
  | proceed (x : Request)
  /-- The renewal of a client runs. -/
  | run (key : String)
  /-- The clock comes to show a time. -/
  | wait (now : Nat)
  /-- The controller is asked to stop. -/
  | stop
  /-- The renewals that still run are cut off. -/
  | giveUp

def start (p : AdmissionPolicy) (now : Nat) : Reception := ⟨now, .new p, [], []⟩

def note (r : Reception) (key : String) (reports : List Report) : Reception :=
  { r with log := r.log ++ reports.map fun report => ⟨r.now, key, report⟩ }

theorem answers_note (r : Reception) (key : String) (reports : List Report) :
    Journal.answers (r.note key reports).log =
      Journal.answers r.log ++ reports.filterMap Report.answer? := by
  rw [note, Journal.answers, List.filterMap_append, List.filterMap_map]
  rfl

/-- A request comes. It is denied at once if the controller was asked to stop. -/
def enter (r : Reception) (key : String) : Reception :=
  if r.controller.cancelled then
    { r with underway := ⟨key, .answered .denied⟩ :: r.underway }.note key [.answered .denied]
  else { r with underway := ⟨key, .entered⟩ :: r.underway }

/-- A request comes to a stage, and leaves the controller as `c`. -/
def reach (r : Reception) (x : Request) (c : Controller) (stage : Stage) : Reception :=
  { r with controller := c, underway := ⟨x.key, stage⟩ :: r.underway.erase x }

/-- A request comes to its answer, which the journal takes down. -/
def answered (r : Reception) (x : Request) (c : Controller) (a : Admission) : Reception :=
  (r.reach x c (.answered a)).note x.key [.answered a]

theorem countP_erase {l : List Request} {x : Request} (there : x ∈ l) (p : Request → Bool) :
    (l.erase x).countP p + (if p x then 1 else 0) = l.countP p := by
  rw [(List.perm_cons_erase there).countP_eq p, List.countP_cons]

/-- A request that comes to a stage counts where the stage counts, and no longer where it was. -/
theorem countP_reach {r : Reception} {x : Request} (c : Controller) (stage : Stage)
    (there : x ∈ r.underway) (p : Request → Bool) :
    (r.reach x c stage).underway.countP p + (if p x then 1 else 0) =
      r.underway.countP p + if p ⟨x.key, stage⟩ then 1 else 0 := by
  rw [reach, List.countP_cons, ← countP_erase there p]
  omega

/-- A request goes on by one step. -/
def proceed (r : Reception) (x : Request) : Reception :=
  if x ∈ r.underway then
    match x.stage with
    | .entered => r.reach x (r.controller.find x.key) .found
    | .found => r.reach x (r.controller.ensureRenewal x.key) .ready
    | .ready => r.answered x (r.controller.answer x.key).2 (r.controller.answer x.key).1
    | .answered a => r.reach x (r.controller.tally a) (.counted a)
    | .counted a =>
      { r with controller := r.controller.publish a, underway := r.underway.erase x }
  else r

/-- The renewal of a client runs. -/
def run (r : Reception) (key : String) : Reception :=
  match r.controller.quotas.get? key with
  | none => r
  | some q => { r with controller := r.controller.poll r.now key }.note key
      (q.reports r.controller.cancelled r.now)

/-- What a move makes of the reception. -/
def act (r : Reception) : Move → Reception
  | .enter key => r.enter key
  | .proceed x => r.proceed x
  | .run key => r.run key
  | .wait now => { r with now := now }
  | .stop => { r with controller := r.controller.requestShutdown }
  | .giveUp =>
    if r.controller.cancelled then { r with controller := r.controller.giveUp.2 } else r

/-- The clock goes forward, and not beyond a tick that was not served. -/
def Prompt (r : Reception) : Move → Prop
  | .wait now =>
    r.now ≤ now ∧ ∀ b ∈ r.controller.quotas.bindings, b.2.renewal.permits now = true
  | .enter _ | .proceed _ | .run _ | .stop | .giveUp => True

instance (r : Reception) : DecidablePred r.Prompt
  | .wait now => inferInstanceAs (Decidable (r.now ≤ now ∧
      ∀ b ∈ r.controller.quotas.bindings, b.2.renewal.permits now = true))
  | .enter _ | .proceed _ | .run _ | .stop | .giveUp => inferInstanceAs (Decidable True)

/-- `Reaches allowed r r'`: from `r`, allowed moves lead to `r'`. -/
inductive Reaches (allowed : Reception → Move → Prop) : Reception → Reception → Prop
  | refl (r : Reception) : Reaches allowed r r
  | act {r r' : Reception} {m : Move} (before : Reaches allowed r r') (ok : allowed r' m) :
      Reaches allowed r (r'.act m)

def acts (r : Reception) (ms : List Move) : Reception := ms.foldl act r

def AllPrompt : Reception → List Move → Prop
  | _, [] => True
  | r, m :: ms => r.Prompt m ∧ AllPrompt (r.act m) ms

instance AllPrompt.decidable : (r : Reception) → (ms : List Move) → Decidable (AllPrompt r ms)
  | _, [] => inferInstanceAs (Decidable True)
  | r, m :: ms =>
    have := AllPrompt.decidable (r.act m) ms
    inferInstanceAs (Decidable (r.Prompt m ∧ AllPrompt (r.act m) ms))

theorem Reaches.acts {r r' : Reception} {ms : List Move} (before : Reaches Prompt r r')
    (prompt : AllPrompt r' ms) : Reaches Prompt r (r'.acts ms) := by
  induction ms generalizing r' with
  | nil => exact before
  | cons m ms ih => exact ih (.act before prompt.1) prompt.2

end Reception

namespace Controller

variable {c : Controller} {key : String} {q : Quota} {now : Nat}

/-- A controller that has made a quota for a client not seen before. -/
def meet (c : Controller) (key : String) : Controller :=
  { c with quotas := c.quotas.insert key .new }

/-- A controller that has started the renewal of a client. -/
def startRenewal (c : Controller) (key : String) (q : Quota) : Controller :=
  { c with
    quotas := c.quotas.insert key q.withRenewal
    metrics := { c.metrics with renewalsStarted := c.metrics.renewalsStarted + 1 } }

/-- A controller that has given a permit to a client. -/
def give (c : Controller) (key : String) (q : Quota) : Controller :=
  { c with quotas := c.quotas.insert key { q with used := q.used + 1 } }

theorem find_known (tracked : c.quotas.get? key = some q) : c.find key = c := by
  rw [find, tracked]

theorem find_new (untracked : c.quotas.get? key = none) : c.find key = c.meet key := by
  rw [find, untracked]
  rfl

/-- A renewal is started where there is none, and else nothing is done. -/
theorem ensureRenewal_cases (c : Controller) (key : String) :
    (∃ q, c.quotas.get? key = some q ∧ q.renewal = .absent ∧
      c.ensureRenewal key = c.startRenewal key q) ∨
    (∀ q, c.quotas.get? key = some q → q.renewal ≠ .absent) ∧ c.ensureRenewal key = c := by
  rw [ensureRenewal]
  cases c.quotas.get? key with
  | none => exact .inr ⟨nofun, rfl⟩
  | some q =>
      by_cases absent : q.renewal = .absent
      · exact .inl ⟨q, rfl, absent, if_pos absent⟩
      · refine .inr ⟨?_, if_neg absent⟩
        rintro _ ⟨⟩
        exact absent

theorem policy_tally (a : Admission) : (c.tally a).policy = c.policy := by
  match a with
  | .allowed | .denied => rfl

theorem quotas_tally (a : Admission) : (c.tally a).quotas = c.quotas := by
  match a with
  | .allowed | .denied => rfl

theorem renewalsStarted_tally (a : Admission) :
    (c.tally a).metrics.renewalsStarted = c.metrics.renewalsStarted := by
  match a with
  | .allowed | .denied => rfl

theorem cancelled_tally (a : Admission) : (c.tally a).cancelled = c.cancelled := by
  match a with
  | .allowed | .denied => rfl

/-- A permit is taken exactly if one is left. -/
theorem acquire?_tracked (tracked : c.quotas.get? key = some q) : c.acquire? key =
    if q.used < c.policy.capacity then some (c.give key q) else none := by
  rw [acquire?, tracked]
  show (q.acquire? c.policy.capacity).bind _ = _
  rw [Quota.acquire?]
  split
  · rfl
  · rfl

theorem acquire?_untracked (untracked : c.quotas.get? key = none) : c.acquire? key = none := by
  rw [acquire?, untracked]
  rfl

/-- A request is allowed where a permit is left, and denied where none is. -/
theorem answer_cases (c : Controller) (key : String) :
    (∃ q, c.quotas.get? key = some q ∧ q.used < c.policy.capacity ∧
      c.answer key = (.allowed, c.give key q)) ∨
    (∀ q, c.quotas.get? key = some q → c.policy.capacity ≤ q.used) ∧
      c.answer key = (.denied, c) := by
  match tracked : c.quotas.get? key with
  | none =>
      refine .inr ⟨nofun, ?_⟩
      rw [answer, acquire?_untracked tracked]
  | some q =>
      rw [answer, acquire?_tracked tracked]
      by_cases left : q.used < c.policy.capacity
      · refine .inl ⟨q, rfl, left, ?_⟩
        rw [if_pos left]
      · refine .inr ⟨?_, ?_⟩
        · rintro _ ⟨⟩
          exact Nat.not_lt.mp left
        · rw [if_neg left]

/-- What the run of a renewal changes of a controller. -/
theorem poll_eq (now : Nat) (tracked : c.quotas.get? key = some q) :
    ∃ events, c.poll now key = { c with
      quotas := c.quotas.insert key (q.poll c.policy.window c.cancelled now).1
      telemetry := c.telemetry.emit events } := by
  rw [poll, runOne, tracked]
  exact ⟨_, rfl⟩

theorem poll_tracked (now : Nat) (tracked : c.quotas.get? key = some q) :
    (c.poll now key).quotas =
      c.quotas.insert key (q.poll c.policy.window c.cancelled now).1 := by
  obtain ⟨events, polled⟩ := poll_eq now tracked
  rw [polled]

theorem policy_poll : (c.poll now key).policy = c.policy := by
  rw [poll, runOne]
  split
  · rfl
  · rfl

theorem cancelled_poll : (c.poll now key).cancelled = c.cancelled := by
  rw [poll, runOne]
  split
  · rfl
  · rfl

/-- Renewals that run one after the other are each changed by its own run. -/
theorem foldl_poll (now : Nat) (done todo : List (String × Quota))
    (split : c.quotas.bindings = done ++ todo) :
    ∃ quotas, todo.foldl (fun c b => c.poll now b.1) c = { c with
        quotas := quotas
        telemetry := c.telemetry.emit
          (todo.flatMap fun b => (c.polling now b.2).2.map fun change => ⟨change, b.1⟩) } ∧
      quotas.bindings = done ++ todo.map fun b => (b.1, (c.polling now b.2).1) := by
  induction todo generalizing c done with
  | nil =>
      refine ⟨c.quotas, ?_, split⟩
      rw [List.flatMap_nil, Telemetry.emit, List.append_nil]
      rfl
  | cons b todo ih =>
      obtain ⟨key, q⟩ := b
      have tracked : c.quotas.get? key = some q := by
        refine Table.get?_of_mem (b := (key, q)) ?_
        rw [split]
        exact List.mem_append_right _ List.mem_cons_self
      have other : key ∉ done.map Prod.fst := by
        intro there
        have distinct := c.quotas.distinct
        rw [split, List.map_append, List.nodup_append] at distinct
        exact distinct.2.2 _ there _ (List.mem_map_of_mem List.mem_cons_self) rfl
      have polled : c.poll now key = { c with
          quotas := c.quotas.insert key (c.polling now q).1
          telemetry := c.telemetry.emit
            ((c.polling now q).2.map fun change => ⟨change, key⟩) } := by
        rw [poll, runOne, tracked]
      have bindings : (c.poll now key).quotas.bindings =
          (done ++ [(key, (c.polling now q).1)]) ++ todo := by
        rw [polled, List.append_assoc]
        show Table.place key _ c.quotas.bindings = _
        rw [split, Table.place_append other]
        rfl
      obtain ⟨quotas, rest, after⟩ := ih _ bindings
      rw [polled] at rest after
      refine ⟨quotas, ?_, ?_⟩
      · rw [List.foldl_cons, polled, rest, List.flatMap_cons]
        simp only [Telemetry.emit, List.append_assoc]
        rfl
      · rw [after, List.append_assoc]
        rfl

/-- A run of all renewals is a run of one after the other. -/
theorem pollAll_eq (now : Nat) (c : Controller) :
    c.pollAll now = c.quotas.keys.foldl (fun c key => c.poll now key) c := by
  obtain ⟨quotas, polled, bindings⟩ := c.foldl_poll now [] _ rfl
  have changed : quotas = c.quotas.mapValues fun _ q => (c.polling now q).1 :=
    Table.eq_of_bindings_eq bindings
  rw [Table.keys, List.foldl_map, polled, changed]
  rfl

end Controller

namespace Reception

/-- What one move can make of the reception. -/
inductive Step (r : Reception) : Move → Reception → Prop
  | refused (key : String) (stopped : r.controller.cancelled = true) :
      Step r (.enter key)
        ({ r with underway := ⟨key, .answered .denied⟩ :: r.underway }.note key [.answered .denied])
  | entered (key : String) (running : r.controller.cancelled = false) :
      Step r (.enter key) { r with underway := ⟨key, .entered⟩ :: r.underway }
  | known {key : String} {q : Quota} (there : ⟨key, .entered⟩ ∈ r.underway)
      (tracked : r.controller.quotas.get? key = some q) :
      Step r (.proceed ⟨key, .entered⟩) (r.reach ⟨key, .entered⟩ r.controller .found)
  | met {key : String} (there : ⟨key, .entered⟩ ∈ r.underway)
      (untracked : r.controller.quotas.get? key = none) :
      Step r (.proceed ⟨key, .entered⟩) (r.reach ⟨key, .entered⟩ (r.controller.meet key) .found)
  | renewing {key : String} (there : ⟨key, .found⟩ ∈ r.underway)
      (present : ∀ q, r.controller.quotas.get? key = some q → q.renewal ≠ .absent) :
      Step r (.proceed ⟨key, .found⟩) (r.reach ⟨key, .found⟩ r.controller .ready)
  | begun {key : String} {q : Quota} (there : ⟨key, .found⟩ ∈ r.underway)
      (tracked : r.controller.quotas.get? key = some q) (absent : q.renewal = .absent) :
      Step r (.proceed ⟨key, .found⟩)
        (r.reach ⟨key, .found⟩ (r.controller.startRenewal key q) .ready)
  | allowed {key : String} {q : Quota} (there : ⟨key, .ready⟩ ∈ r.underway)
      (tracked : r.controller.quotas.get? key = some q)
      (left : q.used < r.controller.policy.capacity) :
      Step r (.proceed ⟨key, .ready⟩)
        (r.answered ⟨key, .ready⟩ (r.controller.give key q) .allowed)
  | exhausted {key : String} (there : ⟨key, .ready⟩ ∈ r.underway)
      (spent : ∀ q, r.controller.quotas.get? key = some q →
        r.controller.policy.capacity ≤ q.used) :
      Step r (.proceed ⟨key, .ready⟩) (r.answered ⟨key, .ready⟩ r.controller .denied)
  | tallied {key : String} {a : Admission} (there : ⟨key, .answered a⟩ ∈ r.underway) :
      Step r (.proceed ⟨key, .answered a⟩)
        (r.reach ⟨key, .answered a⟩ (r.controller.tally a) (.counted a))
  | published {key : String} {a : Admission} (there : ⟨key, .counted a⟩ ∈ r.underway) :
      Step r (.proceed ⟨key, .counted a⟩)
        { r with
          controller := r.controller.publish a
          underway := r.underway.erase ⟨key, .counted a⟩ }
  | ran {key : String} {q : Quota} (tracked : r.controller.quotas.get? key = some q) :
      Step r (.run key) ({ r with controller := r.controller.poll r.now key }.note key
        (q.reports r.controller.cancelled r.now))
  | waited (now : Nat) : Step r (.wait now) { r with now := now }
  | stopped : Step r .stop { r with controller := r.controller.requestShutdown }
  | cutOff (stopped : r.controller.cancelled = true) :
      Step r .giveUp { r with controller := r.controller.giveUp.2 }
  /-- No such request is under way. -/
  | unasked (x : Request) : Step r (.proceed x) r
  /-- The client has no quota. -/
  | unknown (key : String) : Step r (.run key) r
  /-- The controller was not asked to stop. -/
  | tooEarly : Step r .giveUp r

theorem proceed_step {r : Reception} {x : Request} (there : x ∈ r.underway) :
    Step r (.proceed x) (r.proceed x) := by
  rw [proceed, if_pos there]
  obtain ⟨key, stage⟩ := x
  match stage with
  | .entered =>
      match tracked : r.controller.quotas.get? key with
      | some q =>
          simp only [Controller.find_known tracked]
          exact .known there tracked
      | none =>
          simp only [Controller.find_new tracked]
          exact .met there tracked
  | .found =>
      obtain ⟨q, tracked, absent, same⟩ | ⟨present, same⟩ :=
        r.controller.ensureRenewal_cases key
      · simp only [same]
        exact .begun there tracked absent
      · simp only [same]
        exact .renewing there present
  | .ready =>
      obtain ⟨q, tracked, left, same⟩ | ⟨spent, same⟩ := r.controller.answer_cases key
      · simp only [same]
        exact .allowed there tracked left
      · simp only [same]
        exact .exhausted there spent
  | .answered a => exact .tallied there
  | .counted a => exact .published there

theorem act_step (r : Reception) (m : Move) : Step r m (r.act m) := by
  match m with
  | .enter key =>
      rw [act, enter]
      by_cases stopped : r.controller.cancelled = true
      · rw [if_pos stopped]
        exact .refused key stopped
      · rw [if_neg stopped]
        exact .entered key (by simpa using stopped)
  | .proceed x =>
      by_cases there : x ∈ r.underway
      · exact proceed_step there
      · rw [act, proceed, if_neg there]
        exact .unasked x
  | .run key =>
      rw [act, run]
      split
      · exact .unknown key
      · rename_i q tracked
        exact .ran tracked
  | .wait now => exact .waited now
  | .stop => exact .stopped
  | .giveUp =>
      rw [act]
      split
      · rename_i stopped
        exact .cutOff stopped
      · exact .tooEarly

/-- What every step leaves as it is: the policy stays, a stop is not taken back, the clock moves
only where time passes, and the journal grows by what is reported of one client at most. -/
structure Follows (r : Reception) (m : Move) (r' : Reception) : Prop where
  policy : r'.controller.policy = r.controller.policy
  stopped : r.controller.cancelled = true → r'.controller.cancelled = true
  noted : ∃ key reports, r'.log = (r.note key reports).log
  now : r'.now = match m with
    | .wait now => now
    | .enter _ | .proceed _ | .run _ | .stop | .giveUp => r.now

theorem Step.follows {r r' : Reception} {m : Move} (step : Step r m r') : Follows r m r' := by
  have silent : r.log = (r.note "" []).log := (List.append_nil _).symm
  cases step with
  | refused key | exhausted => exact ⟨rfl, id, ⟨_, _, rfl⟩, rfl⟩
  | allowed => exact ⟨rfl, id, ⟨_, _, rfl⟩, rfl⟩
  | tallied =>
      exact ⟨Controller.policy_tally _, (Controller.cancelled_tally _).trans, ⟨_, _, silent⟩, rfl⟩
  | ran =>
      exact ⟨Controller.policy_poll, Controller.cancelled_poll.trans, ⟨_, _, rfl⟩, rfl⟩
  | stopped => exact ⟨rfl, fun _ => rfl, ⟨_, _, silent⟩, rfl⟩
  | unasked x => exact ⟨rfl, id, ⟨_, _, silent⟩, rfl⟩
  | entered | known | met | renewing | begun | published | waited | cutOff | unknown | tooEarly =>
      exact ⟨rfl, id, ⟨_, _, silent⟩, rfl⟩

theorem Prompt.le {r r' : Reception} {m : Move} (prompt : r.Prompt m) (follows : Follows r m r') :
    r.now ≤ r'.now := by
  have now := follows.now
  match m with
  | .wait _ => exact now ▸ prompt.1
  | .enter _ | .proceed _ | .run _ | .stop | .giveUp => exact Nat.le_of_eq now.symm

theorem run_eq (r : Reception) (key : String) :
    (r.run key).controller = r.controller.poll r.now key ∧ (r.run key).now = r.now ∧
      Journal.answers (r.run key).log = Journal.answers r.log := by
  cases tracked : r.controller.quotas.get? key with
  | none =>
      have idle : r.run key = r := by rw [run, tracked]
      rw [idle, Controller.poll, Controller.runOne, tracked]
      exact ⟨rfl, rfl, rfl⟩
  | some q =>
      have runs : r.run key = { r with controller := r.controller.poll r.now key }.note key
          (q.reports r.controller.cancelled r.now) := by rw [run, tracked]
      rw [runs]
      refine ⟨rfl, rfl, (answers_note _ _ _).trans ?_⟩
      rw [Quota.filterMap_answer?_reports, List.append_nil]

/-- The renewals of some clients run one after the other. -/
def runs (r : Reception) (keys : List String) : Reception := keys.foldl run r

theorem runs_eq (r : Reception) (keys : List String) :
    (r.runs keys).controller = keys.foldl (fun c key => c.poll r.now key) r.controller ∧
      (r.runs keys).now = r.now ∧ Journal.answers (r.runs keys).log = Journal.answers r.log := by
  induction keys generalizing r with
  | nil => exact ⟨rfl, rfl, rfl⟩
  | cons key keys ih =>
      obtain ⟨controller, now, answers⟩ := r.run_eq key
      obtain ⟨controller', now', answers'⟩ := ih (r.run key)
      rw [controller, now] at controller'
      exact ⟨controller', now'.trans now, answers'.trans answers⟩

/-- A request that is answered, counted and exported before anything else happens. -/
def request (r : Reception) (key : String) : Reception :=
  { r with controller := (r.controller.request key).2 }.note key
    [.answered (r.controller.request key).1]

/-- The stages that a whole request goes through. -/
def stages (cancelled : Bool) (a : Admission) : List Stage :=
  if cancelled then [.answered a, .counted a]
  else [.entered, .found, .ready, .answered a, .counted a]

/-- The moves by which a request goes on from some stages. -/
def onward (key : String) (l : List Stage) : List Move := l.map fun stage => .proceed ⟨key, stage⟩

/-- The moves of a whole request. -/
def course (r : Reception) (key : String) : List Move :=
  .enter key :: onward key (stages r.controller.cancelled (r.controller.request key).1)

/-- A whole request is a stretch of moves. -/
theorem acts_course (r : Reception) (key : String) : r.acts (r.course key) = r.request key := by
  rw [course, request, Controller.request]
  by_cases cancelled : r.controller.cancelled = true
  · simp [acts, act, enter, proceed, reach, note, stages, onward, cancelled]
  · simp [acts, act, enter, proceed, reach, answered, note, stages, onward, cancelled]

end Reception

end RequestGuard
