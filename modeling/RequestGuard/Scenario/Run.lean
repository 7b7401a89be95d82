import RequestGuard.Scenario.World

/-!
# Running a scenario

Steps are taken one after the other. A step on the gate or on a ledger runs a program;
before each of its calls, the steps planned for it are taken, which may run programs of
their own. Every such detour uses up a plan. Hence they nest no deeper than there are
hooks in the scenario.
-/

namespace RequestGuard.Scenario

abbrev Taker : Type := List Step → World → List Answer × World

/-- The world with the calls logged so far. -/
structure Logged where
  world : World
  calls : List LoggedCall

/-- Replies to a call as planned, or lets the services perform it, and logs it if it has
a reply. -/
def reply (take : Taker) (c : Call) (s : Logged) : Option c.Reply × Logged :=
  let (planned, plans) := takePlan c.name s.world.plans
  let world := { s.world with plans := plans }
  let (before, world) : Option (List Answer) × World := match planned.steps with
    | none => (none, world)
    | some steps =>
      let (answers, world) := take steps world
      (some answers, world)
  let (answer, services) := match planned.reply with
    | some r => (some r, world.services)
    | none => world.services.perform world.now none c
  (answer, ⟨{ world with services := services },
    s.calls ++ (answer.toList.map fun r => .mk c r before)⟩)

/-- Runs a program: its outcome, the calls made, and the world after them. -/
def runProgram {α : Type} (take : Taker) (p : Program α) (w : World) :
    Option (Except Failure α) × Logged :=
  p.run (reply take) ⟨w, []⟩

def outcome {α : Type} (result : α → Result) : Option (Except Failure α) → Result
  | some (.ok a) => result a
  | some (.error f) => .failure f
  | none => .stuck

/-- Runs a program and answers with its outcome. -/
def answerWith {α : Type} (take : Taker) (p : Program α) (result : α → Result) (w : World) :
    Answer × World :=
  let (r, s) := runProgram take p w
  (.mk (outcome result r) s.calls, s.world)

def ending {α : Type} (result : α → Result) (r : Ending α) : Result :=
  outcome result (r.map Services.reply)

def takeStore (w : World) : StoreStep → Result × World
  | .put key value ttl =>
    let (r, s) := w.services.store.insert w.now none key value ttl
    (ending (fun _ => .done) r, w.withStore s)
  | .putAbsent key value ttl =>
    let (r, s) := w.services.store.insertIfAbsent w.now none key value ttl
    (ending .truth r, w.withStore s)
  | .get key => (.value (w.services.store.fetch w.now key), w)
  | .increment key =>
    let (r, s) := w.services.store.increment w.now none key
    (ending .value (some r), w.withStore s)

def takeVolatile (w : World) (step : VolatileStep) : Result × World :=
  match w.services.store, step with
  | .durable _ _, _ => (.unfit, w)
  | .volatile m, .size => (.count m.size, w)
  | .volatile m, .isEmpty => (.truth (m.size == 0), w)
  | .volatile m, .purge => (.count (m.purge w.now).size, w.withStore (.volatile (m.purge w.now)))

def changeDisk (w : World) (s : DurableStore) (r : Except DiskError Unit × Disk) :
    Result × World :=
  match r with
  | (.ok (), d) => (.done, w.withStore (.durable s d))
  | (.error _, d) => (.unfit, w.withStore (.durable s d))

def takeDurable (w : World) (step : DurableStep) : Result × World :=
  match w.services.store, step with
  | .volatile _, _ => (.unfit, w)
  | .durable s d, .reopen => match DurableStore.load s.location w.now d with
    | (.ok s, d) => (.done, w.withStore (.durable s d))
    | (.error e, d) => (.failure (.storage e), w.withStore (.durable s d))
  | .durable s _, .path => (.text s.location.shown.text, w)
  | .durable s d, .snapshot => (.contents (d.contents? s.location), w)
  | .durable s d, .write p contents => changeDisk w s (d.write (Route.ofString p) contents)
  | .durable s d, .makeFolder p => changeDisk w s (d.makeFolders (Route.ofString p))
  | .durable s d, .remove p => changeDisk w s (.ok (), d.remove (Route.ofString p))
  | .durable _ d, .list => (.texts d.list, w)

/-- The ledger of a namespace, or the gate's own. -/
def ledgerOf (w : World) : Option String → Except ConfigError Ledger
  | none => .ok w.gate.ledger
  | some space => Ledger.ofConfig ⟨space⟩

def takeLedger (take : Taker) (w : World) (l : Ledger) (id : TokenId) :
    LedgerStep → Answer × World
  | .recordFirstUse ttl => answerWith take (l.recordFirstUse id ttl) (fun _ => .done) w
  | .checkUseCount ttl => answerWith take (l.checkUseCount id ttl) .useCount w
  | .invalidate ttl => answerWith take (l.invalidate id ttl) (fun _ => .done) w
  | .markUsed => answerWith take (l.markUsed id) .mark w
  | .checkBlacklist => answerWith take (l.checkBlacklist id) .blacklist w
  | .state => answerWith take (l.state id) .state w

def takeAccount (w : World) (account : AccountId) : AccountStep → Result × World
  | .register version => (.done, w.withDirectory (w.services.directory.register account version))
  | .bump =>
    let (v, d) := w.services.directory.bump account
    (.version v, w.withDirectory d)
  | .record => (.record (w.services.directory.record? account), w)
  | .lockRequests => (.count (w.services.directory.lockRequests account), w)
  | .lock =>
    let (r, d) := w.services.directory.lock account
    (outcome (fun _ => .done) (some r), w.withDirectory d)
  | .isLocked => (.truth (w.services.directory.isLocked account), w)
  | .currentVersion => (.version (w.services.directory.currentVersion account), w)

def takeGate (take : Taker) (w : World) (c : Claims) : GateStep → Answer × World
  | .refresh =>
    let (r, s) := runProgram take (Exchange.decide w.gate.ledger c w.now)
      { w with gate := w.gate.beginExchange }
    (.mk (outcome .decision r) s.calls, { s.world with gate := s.world.gate.endExchange r })
  | .logout =>
    let (r, s) := runProgram take (w.gate.ledger.logout c w.now)
      { w with gate := w.gate.beginLogout }
    (.mk (outcome (fun _ => .done) r) s.calls, { s.world with gate := s.world.gate.endLogout r })

/-- An answer for which no call was made. -/
def plainly (r : Result × World) : Answer × World := (.mk r.1 [], r.2)

/-- Takes one step. Of a namespace and an identifier that are both refused, the
namespace counts. -/
def takeStep (take : Taker) (w : World) : Step → Answer × World
  | .advance span => plainly (.done, { w with now := ⟨w.now.nanos + span.nanos⟩ })
  | .setClock now => plainly (.done, { w with now := now })
  | .store step => plainly (takeStore w step)
  | .volatile step => plainly (takeVolatile w step)
  | .durable step => plainly (takeDurable w step)
  | .ledger space id step => match ledgerOf w space with
    | .error e => plainly (.failure (.config e), w)
    | .ok l => match Identifier.ofString .token id with
      | .error e => plainly (.badIdentifier e, w)
      | .ok id => takeLedger take w l id step
  | .showLedger space => match ledgerOf w space with
    | .error e => plainly (.failure (.config e), w)
    | .ok l => plainly (.text l.diagnostic, w)
  | .account name step => match Identifier.ofString .account name with
    | .error e => plainly (.badIdentifier e, w)
    | .ok account => plainly (takeAccount w account step)
  | .gate presented step => match presented.claims with
    | .error e => plainly (.badIdentifier e, w)
    | .ok c => takeGate take w c step
  | .metrics => plainly (.metrics w.gate.metrics, w)
  | .showGate => plainly (.text w.gate.diagnostic, w)
  | .decisions => plainly (.counters w.gate.telemetry.counters, w)
  | .trace => plainly (.trace w.gate.telemetry.spans,
    { w with gate := { w.gate with telemetry := w.gate.telemetry.cleared } })
  | .plan name reply => plainly (.done, w.withPlan ⟨name, none, reply⟩)
  | .hook name steps reply => plainly (.done, w.withPlan ⟨name, some steps, reply⟩)

def takeAll (take : Taker) : List Step → World → List Answer × World
  | [], w => ([], w)
  | step :: steps, w =>
    let (answer, w) := takeStep take w step
    let (answers, w) := takeAll take steps w
    (answer :: answers, w)

/-- Takes steps, where detours nest at most so deep. -/
def takeNested : Nat → Taker
  | 0 => fun _ w => ([], w)
  | depth + 1 => takeAll (takeNested depth)

def run (steps : List Step) (w : World) : List Answer × World :=
  takeNested (hooksIn steps + 1) steps w

end RequestGuard.Scenario
