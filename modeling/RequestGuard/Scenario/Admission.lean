import RequestGuard.Admission.Controller

/-!
# Scenarios of admission

A scenario against one controller and a clock of milliseconds. Renewals run on a host.
A driven host runs them as soon as they may run, an idle host never does. The controller
lives until its last handle is dropped; its renewals then stop at their next ticks.
-/

namespace RequestGuard.Scenario

/-- What the renewals run on. -/
inductive Host where
  | driven
  | idle
deriving DecidableEq

inductive AdmissionStep where
  /-- So many requests of a client. -/
  | request (key : String) (times : Nat)
  | remaining (key : String)
  | tracked
  | metrics
  | isShutDown
  | diagnostic
  /-- A shutdown that waits so many milliseconds. -/
  | shutdown (wait : Nat)
  | clone (handle : String)
  | drop

inductive ClockStep where
  | on (handle : String) (step : AdmissionStep)
  /-- Time passes. -/
  | sleep (time : Nat)
  /-- The clock jumps, as after a stall. -/
  | jump (time : Nat)
  | decisions
  /-- What was traced since the last such step. -/
  | trace

inductive AdmissionResult where
  | done
  | truth (b : Bool)
  | count (n : Nat)
  | permits (n : Option Nat)
  | text (s : String)
  | answers (l : List Admission)
  | metrics (m : AdmissionMetrics)
  | counters (l : List (String × Nat))
  | trace (spans : List GuardSpan) (events : List RenewalEvent)
  | failure (f : Failure)
  /-- There is no such handle. -/
  | noHandle

/-- The controller on its host, with the clock and the handles that are left. -/
structure AdmissionRun where
  host : Host
  now : Nat
  controller : Controller
  handles : List String

namespace AdmissionRun

/-- The handle that the controller is made with. -/
def firstHandle : String := "a"

/-- A controller that was just made. -/
def start (host : Host) (c : Controller) : AdmissionRun := ⟨host, 0, c, [firstHandle]⟩

def withController (r : AdmissionRun) (c : Controller) : AdmissionRun := { r with controller := c }

def runOne (r : AdmissionRun) (key : String) : AdmissionRun :=
  match r.host with
  | .idle => r
  | .driven => r.withController (r.controller.poll r.now key)

def runAll (r : AdmissionRun) : AdmissionRun :=
  match r.host with
  | .idle => r
  | .driven => r.withController (r.controller.pollAll r.now)

/-- Lets time pass or jump to `now`. -/
def moveTo (r : AdmissionRun) (now : Nat) (move : Controller → Nat → Controller) :
    AdmissionRun :=
  let r := { r with now := now }
  match r.host with
  | .idle => r
  | .driven =>
    if r.handles.isEmpty then r.withController (r.controller.pollAllReleased now)
    else r.withController (move r.controller now)

/-- Shuts the controller down. A driven host lets every renewal stop, if there is any
time for it. A second shutdown does nothing. -/
def shutdown (r : AdmissionRun) (wait : Nat) : AdmissionResult × AdmissionRun :=
  if r.controller.cancelled then (.done, r)
  else
    let r := r.withController r.controller.requestShutdown
    let r := if wait = 0 then r else r.runAll
    match r.controller.giveUp with
    | (.ok (), c) => (.done, r.withController c)
    | (.error f, c) => (.failure f, r.withController c)

/-- Takes a step through a handle. -/
def takeOn (r : AdmissionRun) (handle : String) : AdmissionStep → AdmissionResult × AdmissionRun
  | .request key times =>
    let (answers, c) := r.controller.requestMany key times
    (.answers answers, (r.withController c).runOne key)
  | .remaining key => (.permits (r.controller.remaining? key), r)
  | .tracked => (.count r.controller.trackedKeys, r)
  | .metrics => (.metrics r.controller.metrics, r)
  | .isShutDown => (.truth r.controller.cancelled, r)
  | .diagnostic => (.text r.controller.diagnostic, r)
  | .shutdown wait => r.shutdown wait
  | .clone other => (.done, { r with handles := other :: r.handles.filter (· ≠ other) })
  | .drop => (.truth true, { r with handles := r.handles.filter (· ≠ handle) })

def take (r : AdmissionRun) : ClockStep → AdmissionResult × AdmissionRun
  | .on handle step =>
    if r.handles.contains handle then r.takeOn handle step
    else match step with
      | .drop => (.truth false, r)
      | _ => (.noHandle, r)
  | .sleep time => (.done, r.moveTo (r.now + time) Controller.sleepUntil)
  | .jump time => (.done, r.moveTo (r.now + time) Controller.jumpTo)
  | .decisions => (.counters r.controller.telemetry.counters, r)
  | .trace =>
    let t := r.controller.telemetry
    (.trace t.spans (RenewalEvent.sorted t.events),
      r.withController { r.controller with telemetry := t.cleared })

def takeAll (r : AdmissionRun) : List ClockStep → List AdmissionResult
  | [] => []
  | step :: steps =>
    let (result, r) := r.take step
    result :: r.takeAll steps

end AdmissionRun

end RequestGuard.Scenario
