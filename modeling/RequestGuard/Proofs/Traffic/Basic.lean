import RequestGuard.Exchange
import RequestGuard.Proofs.History
import RequestGuard.Scenario.Step
import RequestGuard.Services

/-!
# Traffic at a gate

Any number of operations may be under way at one gate. Between two calls of one of them
the clock may move, other operations may begin or make calls, and accounts may change.
A single call is never interrupted. The process that serves the gate may also stop: its
operations are then lost, and the store is opened anew from its snapshot. A process that
stops in the middle of a write leaves the disk as a failure of the medium at that step
does, so this is a failure and then a stop. A process that cannot open its store serves
nothing.

An answer counts from the last call of its operation on. So what is proved of answers
also holds of those that a stop keeps from being delivered.

The log keeps in order what has happened. `Sound` ties each operation to its part of the
log: the log holds the history by which the operation became what is left of it.
-/

namespace RequestGuard

/-- What a gate and its ledger can be asked to do with a token. -/
inductive Operation where
  | refresh (c : Claims)
  | logout (c : Claims)
  | ledger (id : TokenId) (step : Scenario.LedgerStep)

namespace Operation

/-- What an operation answers when it succeeds. -/
abbrev Answer : Operation → Type
  | .refresh _ => Decision
  | .logout _ => Unit
  | .ledger _ (.recordFirstUse _) => Unit
  | .ledger _ (.checkUseCount _) => UseCount
  | .ledger _ (.invalidate _) => Unit
  | .ledger _ .markUsed => MarkOutcome
  | .ledger _ .checkBlacklist => BlacklistStatus
  | .ledger _ .state => TokenState

def tokenId : Operation → TokenId
  | .refresh c => c.tokenId
  | .logout c => c.tokenId
  | .ledger id _ => id

def program (l : Ledger) (now : Instant) : (o : Operation) → Program o.Answer
  | .refresh c => Exchange.decide l c now
  | .logout c => l.logout c now
  | .ledger id (.recordFirstUse ttl) => l.recordFirstUse id ttl
  | .ledger id (.checkUseCount ttl) => l.checkUseCount id ttl
  | .ledger id (.invalidate ttl) => l.invalidate id ttl
  | .ledger id .markUsed => l.markUsed id
  | .ledger id .checkBlacklist => l.checkBlacklist id
  | .ledger id .state => l.state id

/-- Whether an operation presents or logs out a token that expires at the given moment. -/
def Presents (expiry : Instant) : Operation → Prop
  | .refresh c => c.expiresAt = expiry
  | .logout c => c.expiresAt = expiry
  | .ledger _ _ => False

end Operation

/-- A change of an account from outside the gate. -/
inductive AccountChange where
  | register (version : Version)
  | bump
  | lock

def Directory.change (d : Directory) (account : AccountId) : AccountChange → Directory
  | .register version => d.register account version
  | .bump => (d.bump account).2
  | .lock => (d.lock account).2

/-- A change of one account leaves every other. -/
theorem Directory.record?_change {d : Directory} {a b : AccountId} (h : a ≠ b)
    (change : AccountChange) : (d.change a change).record? b = d.record? b := by
  cases change with
  | register version => exact (Directory.record?_register d a b version).trans (if_neg h)
  | bump => exact (Directory.record?_bump d a b).trans (if_neg h)
  | lock => exact (Directory.record?_lock d a b).trans (if_neg h)

/-- What a change leaves of an account rests on its record only. -/
theorem Directory.record?_change_congr {d d' : Directory} {account : AccountId}
    (same : d'.record? account = d.record? account) (change : AccountChange) :
    (d'.change account change).record? account = (d.change account change).record? account := by
  cases change with
  | register version => simp only [change, record?_register, if_true]
  | bump => simp only [change, record?_bump, if_true, same]
  | lock => simp only [change, record?_lock, if_true, same]

/-- An operation that has begun, with what is left of its calls. -/
structure Flight where
  operation : Operation
  rest : Option (Program operation.Answer)

def Flight.isOver (f : Flight) : Bool :=
  match f.rest with
  | some (.pure _) | some (.fail _) => true
  | some (.call _ _) | none => false

/-- What the log keeps. -/
inductive Event where
  | begun (time : Instant) (flight : Nat) (operation : Operation)
  | called (time : Instant) (flight : Nat) (made : Made)
  | changed (time : Instant) (account : AccountId) (change : AccountChange)

namespace Event

def begins (n : Nat) : Event → Bool
  | .begun _ m _ => m == n
  | _ => false

/-- The call that an event is, if a given flight made it. -/
def callBy (n : Nat) : Event → Option Made
  | .called _ m made => if m = n then some made else none
  | _ => none

end Event

def callsOf (n : Nat) (log : List Event) : List Made := log.filterMap (Event.callBy n)

theorem callsOf_append (n : Nat) (log later : List Event) :
    callsOf n (log ++ later) = callsOf n log ++ callsOf n later := List.filterMap_append

theorem callsOf_called_cons (n : Nat) (t : Instant) (made : Made) (log : List Event) :
    callsOf n (.called t n made :: log) = made :: callsOf n log :=
  List.filterMap_cons_some (if_pos rfl)

theorem callBy_eq_some_iff {n : Nat} {e : Event} {made : Made} :
    e.callBy n = some made ↔ ∃ t, e = .called t n made := by
  constructor
  · intro call
    cases e with
    | begun => cases call
    | changed => cases call
    | called t m made' =>
        simp only [Event.callBy] at call
        split at call
        · rename_i same
          cases call
          subst same
          exact ⟨t, rfl⟩
        · cases call
  · rintro ⟨t, rfl⟩
    exact if_pos rfl

theorem mem_callsOf {n : Nat} {log : List Event} {made : Made} :
    made ∈ callsOf n log ↔ ∃ t, Event.called t n made ∈ log := by
  simp only [callsOf, List.mem_filterMap, callBy_eq_some_iff]
  constructor
  · rintro ⟨_, he, t, rfl⟩
    exact ⟨t, he⟩
  · rintro ⟨t, he⟩
    exact ⟨_, he, t, rfl⟩

/-- A call of a flight splits the log as it splits the calls of the flight. -/
theorem callsOf_split {n : Nat} {log : List Event} {first rest : List Made} {made : Made}
    (h : callsOf n log = first ++ made :: rest) : ∃ earlier t later,
      log = earlier ++ .called t n made :: later ∧ callsOf n earlier = first ∧
      callsOf n later = rest := by
  obtain ⟨earlier, tail, rfl, before, further⟩ := List.filterMap_eq_append_iff.mp h
  obtain ⟨between, e, later, rfl, silent, call, after⟩ := List.filterMap_eq_cons_iff.mp further
  obtain ⟨t, rfl⟩ := callBy_eq_some_iff.mp call
  refine ⟨earlier ++ between, t, later, by rw [List.append_assoc], ?_, after⟩
  rw [callsOf_append]
  have none : callsOf n between = [] := List.filterMap_eq_nil_iff.mpr silent
  rw [none, List.append_nil]
  exact before

/-- What may happen next. -/
inductive Action where
  /-- The clock comes to show another time. -/
  | wait (now : Instant)
  | begin (n : Nat) (operation : Operation)
  /-- A flight makes its next call, in which the medium of the store may fail. -/
  | proceed (n : Nat) (fault : Option WriteFault)
  | change (account : AccountId) (change : AccountChange)

/-- A gate in use: the clock, its services, its flights by name, and the log. -/
structure Traffic where
  now : Instant
  services : Services
  flights : Table Nat Flight
  log : List Event

namespace Traffic

def start (now : Instant) (services : Services) : Traffic := ⟨now, services, .empty, []⟩

def hasBegun (w : Traffic) (n : Nat) : Bool := w.log.any (Event.begins n)

def begin (l : Ledger) (w : Traffic) (n : Nat) (o : Operation) : Traffic :=
  if w.hasBegun n then w
  else { w with
    flights := w.flights.insert n ⟨o, some (o.program l w.now)⟩
    log := w.log ++ [.begun w.now n o] }

/-- A flight makes the call that it has come to. -/
def call (w : Traffic) (n : Nat) (fault : Option WriteFault) (o : Operation) (c : Call)
    (next : c.Answer → Program o.Answer) : Traffic :=
  let (reply, services) := w.services.perform w.now fault c
  { w with
    services := services
    flights := w.flights.insert n ⟨o, Program.resume next reply⟩
    log := w.log ++ [.called w.now n ⟨c, reply⟩] }

/-- What an action makes of the traffic. A flight that is over makes no more calls. -/
def act (l : Ledger) (w : Traffic) : Action → Traffic
  | .wait now => { w with now := now }
  | .begin n o => w.begin l n o
  | .proceed n fault => match w.flights.get? n with
    | some ⟨o, some (.call c next)⟩ => w.call n fault o c next
    | _ => w
  | .change account change => { w with
    services := { w.services with directory := w.services.directory.change account change }
    log := w.log ++ [.changed w.now account change] }

/-- The process has stopped, and another one serves the gate. -/
def restart (w : Traffic) (services : Services) : Traffic :=
  { w with services := services, flights := w.flights.filter fun _ f => f.isOver }

/-- `Reaches l allowed w v`: from `w`, allowed actions and restarts lead to `v`. -/
inductive Reaches (l : Ledger) (allowed : Traffic → Action → Prop) : Traffic → Traffic → Prop
  | refl (w : Traffic) : Reaches l allowed w w
  | act {w v : Traffic} {a : Action} (before : Reaches l allowed w v) (ok : allowed v a) :
      Reaches l allowed w (v.act l a)
  | restart {w v : Traffic} {s s' : DurableStore} {d d' : Disk} (directory : Directory)
      (before : Reaches l allowed w v) (held : v.services.store = .durable s d)
      (opened : DurableStore.load s.location v.now d = (.ok s', d')) :
      Reaches l allowed w (v.restart ⟨.durable s' d', directory⟩)

def acts (l : Ledger) (w : Traffic) (as : List Action) : Traffic := as.foldl (act l) w

/-- Each of the actions is allowed when it comes. -/
def Each (l : Ledger) (allowed : Traffic → Action → Prop) : Traffic → List Action → Prop
  | _, [] => True
  | w, a :: as => allowed w a ∧ Each l allowed (w.act l a) as

theorem reaches_acts {l : Ledger} {allowed : Traffic → Action → Prop} {u w : Traffic}
    {as : List Action} (before : Reaches l allowed u w) (h : Each l allowed w as) :
    Reaches l allowed u (w.acts l as) := by
  induction as generalizing w with
  | nil => exact before
  | cons a as ih => exact ih (.act before h.1) h.2

/-- The operation of a flight has come to this outcome. -/
def Answered (w : Traffic) (n : Nat) (o : Operation) (r : Except Failure o.Answer) : Prop :=
  w.flights.get? n = some ⟨o, some (.ended r)⟩

/-- A token that lives up to the end of the first minute. -/
def sampleClaims : Claims :=
  ⟨⟨"token", by decide⟩, ⟨"account", by decide⟩, ⟨⟨1, by decide⟩⟩, .ofSeconds 60⟩

/-- A directory in which the account of that token is registered at its version. -/
def sampleDirectory : Directory :=
  Directory.empty.register sampleClaims.subject sampleClaims.version

end Traffic

end RequestGuard
