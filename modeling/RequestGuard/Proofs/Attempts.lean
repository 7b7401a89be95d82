import RequestGuard.Gate
import RequestGuard.Proofs.Lockout

/-!
# The counters of a gate

Exchanges and logouts at one gate overlap as they like, and their calls may be replied to in any
way. An exchange is in flight from its beginning, when the attempt is counted, until its outcome
is counted. Then the outcome is exported. `Gatehouse` is a gate with all that is under way at it,
and moves by one of these steps at a time, or by one call.

`Balanced` is the invariant. It holds of the counters alone. That there are as many calls that
lock an account as there are replays needs what is known of the calls of one exchange: an exchange
that has ended has made one such call if it came to a replay, and none otherwise.
-/

namespace RequestGuard

/-- Whether a call locks an account. -/
def Call.isLock : Call → Bool
  | .lock _ => true
  | _ => false

/-- How many calls of a history lock an account. -/
def lockings (h : List Made) : Nat := h.countP fun made => made.call.isLock

theorem lockings_cons (made : Made) (h : List Made) :
    lockings (made :: h) = lockings h + if made.call.isLock then 1 else 0 := List.countP_cons

theorem lockings_append (h h' : List Made) :
    lockings (h ++ h') = lockings h + lockings h' := List.countP_append

/-- The outcome as which the end of an exchange is exported. -/
def exchangeOutcome : Except Failure Decision → GuardOutcome
  | .ok .granted => .granted
  | .ok (.denied .replay) => .replay
  | .ok (.denied _) => .denied
  | .error _ => .failure

/-- The outcome as which the end of a logout is exported. -/
def logoutOutcome : Except Failure Unit → GuardOutcome
  | .ok () => .granted
  | .error _ => .failure

theorem exchangeOutcome_ne_allowed (r : Except Failure Decision) :
    exchangeOutcome r ≠ .allowed := by
  unfold exchangeOutcome
  split <;> exact nofun

theorem exchangeOutcome_eq_replay_iff {r : Except Failure Decision} :
    exchangeOutcome r = .replay ↔ r = .ok (.denied .replay) := by
  constructor
  · intro replay
    unfold exchangeOutcome at replay
    split at replay
    · cases replay
    · rfl
    · cases replay
    · cases replay
  · rintro rfl
    rfl

namespace RefreshMetrics

/-- The counter of an outcome. -/
def counter (m : RefreshMetrics) : GuardOutcome → Nat
  | .allowed => 0
  | .denied => m.denied
  | .granted => m.granted
  | .replay => m.replays
  | .failure => m.failures

def count (m : RefreshMetrics) : GuardOutcome → RefreshMetrics
  | .allowed => m
  | .denied => { m with denied := m.denied + 1 }
  | .granted => { m with granted := m.granted + 1 }
  | .replay => { m with replays := m.replays + 1 }
  | .failure => { m with failures := m.failures + 1 }

def outcomes (m : RefreshMetrics) : Nat := m.granted + m.denied + m.replays + m.failures

variable {o : GuardOutcome}

theorem counter_count (m : RefreshMetrics) (real : o ≠ .allowed) (o' : GuardOutcome) :
    (m.count o).counter o' = m.counter o' + if o = o' then 1 else 0 := by
  cases o with
  | allowed => exact absurd rfl real
  | denied | granted | replay | failure => cases o' <;> rfl

theorem outcomes_count (m : RefreshMetrics) (real : o ≠ .allowed) :
    (m.count o).outcomes = m.outcomes + 1 := by
  cases o with
  | allowed => exact absurd rfl real
  | denied | granted | replay | failure =>
      simp only [count, outcomes]
      omega

theorem attempts_count (m : RefreshMetrics) (o : GuardOutcome) :
    (m.count o).attempts = m.attempts := by
  cases o <;> rfl

end RefreshMetrics

namespace Gate

/-- The gate once it has counted the outcome of an exchange. -/
def countOutcome (g : Gate) (r : Except Failure Decision) : Gate :=
  { g with metrics := g.metrics.count (exchangeOutcome r) }

/-- The gate once it has exported the outcome of an exchange. -/
def exportOutcome (g : Gate) (r : Except Failure Decision) : Gate :=
  { g with telemetry := g.telemetry.decide .refresh (exchangeOutcome r) }

/-- An exchange ends by two steps. -/
theorem endExchange_eq (g : Gate) (r : Except Failure Decision) :
    g.endExchange (some r) = (g.countOutcome r).exportOutcome r := by
  match r with
  | .ok .granted => rfl
  | .ok (.denied reason) => cases reason <;> rfl
  | .error _ => rfl

theorem endLogout_eq (g : Gate) (r : Except Failure Unit) :
    g.endLogout (some r) =
      { g with telemetry := g.telemetry.decide .logout (logoutOutcome r) } := by
  match r with
  | .ok () => rfl
  | .error _ => rfl

end Gate

namespace Exchange

variable {l : Ledger} {c : Claims} {now : Instant} {h : List Made}

theorem Clears.lockings_eq {key : String} (clears : Clears key h) : lockings h = 0 := by
  cases clears <;> rfl

theorem Judged.lockings_eq {key : String} {ttl : Span} {v : SignedWord}
    (judged : Judged key ttl h v) :
    lockings h = 0 := by
  cases judged <;> rfl

/-- What shows a replay locks no account. -/
theorem Overspent.lockings_eq {key : String} {ttl : Span} (overspent : Overspent key c ttl h) :
    lockings h = 0 := by
  cases overspent with
  | judged clears judged => rw [lockings_append, clears.lockings_eq, judged.lockings_eq]
  | counted clears judged =>
      rw [lockings_append, lockings_append, clears.lockings_eq, judged.lockings_eq]
      rfl

/-- What follows the lock, where all calls are answered, is the blacklisting and the denial. -/
theorem after_lock {h₁ h₂ : List Made} {made : Made} {r : Except Failure Decision}
    (leads : Program.Leads (some (decide l c now)) (h₁ ++ made :: h₂) (some (Program.ended r)))
    (answered : Program.AllAnswered (h₁ ++ made :: h₂)) (locks : made.call.isLock = true) :
    lockings h₁ = 0 ∧ lockings h₂ = 0 ∧ r = .ok (.denied .replay) := by
  obtain ⟨call, reply⟩ := made
  cases call with
  | lock a =>
      obtain ⟨next, before, after⟩ := leads.split
      have overspent := overspent_of_lock before
      cases escalates_of_overspent before overspent
      obtain ⟨b, rfl⟩ : ∃ b : Unit, reply = some (.ok b) := answered.of_append _ List.mem_cons_self
      obtain ⟨_, same⟩ | ⟨reply', rest, rfl, onward⟩ := Program.Leads.call_iff.mp after
      · exact absurd (Option.some.inj same) Program.ended_ne_call
      · obtain ⟨b', rfl⟩ : ∃ b' : Unit, reply' = some (.ok b') :=
          answered.of_append.tail _ List.mem_cons_self
        obtain ⟨rfl, same⟩ := Program.Leads.pure_iff.mp onward
        exact ⟨overspent.lockings_eq, rfl, Program.ended_injective (Option.some.inj same)⟩
  | _ => cases locks

/-- An exchange whose calls were all answered has locked an account once if it has come to a
replay, and otherwise not. -/
theorem lockings_of_ended {r : Except Failure Decision}
    (leads : Program.Leads (some (decide l c now)) h (some (Program.ended r)))
    (answered : Program.AllAnswered h) :
    lockings h = if exchangeOutcome r = .replay then 1 else 0 := by
  by_cases locks : ∃ made ∈ h, made.call.isLock = true
  · obtain ⟨made, member, locks⟩ := locks
    obtain ⟨h₁, h₂, rfl⟩ := List.append_of_mem member
    obtain ⟨first, last, rfl⟩ := after_lock leads answered locks
    rw [lockings_append, lockings_cons, first, last, if_pos locks]
    rfl
  · have none : lockings h = 0 := List.countP_eq_zero.mpr fun made member locked =>
      locks ⟨made, member, locked⟩
    rw [none, if_neg]
    intro replay
    rw [exchangeOutcome_eq_replay_iff] at replay
    subst replay
    obtain ⟨before, _, rfl⟩ := (replay_iff leads).mp rfl
    exact locks ⟨_, List.mem_append_right _ List.mem_cons_self, rfl⟩

end Exchange

/-- An exchange in flight: the claims, the time at which it began, its calls, and what is left of
it. -/
structure Deciding where
  claims : Claims
  since : Instant
  calls : List Made
  rest : Program Decision

/-- A gate, with what is under way at it and at its clones. -/
structure Gatehouse where
  gate : Gate
  /-- The exchanges in flight. -/
  deciding : List Deciding
  /-- The exchanges whose outcome is counted but not exported yet. -/
  counted : List (Except Failure Decision)
  /-- What is left of the logouts under way. -/
  leaving : List (Program Unit)
  /-- All calls that were made, with their replies. -/
  log : List Made

namespace Gatehouse

def start (l : Ledger) : Gatehouse := ⟨.new l, [], [], [], []⟩

/-- One step of an exchange. -/
inductive ExchangeStep (h : Gatehouse) : Gatehouse → Prop
  | begin (c : Claims) (now : Instant) : ExchangeStep h
      { h with
        gate := h.gate.beginExchange
        deciding := h.deciding ++ [⟨c, now, [], Exchange.decide h.gate.ledger c now⟩] }
  /-- A call is made, and has any reply. -/
  | ask (before after : List Deciding) (f : Deciding) {x : Call}
      {next : x.Answer → Program Decision} (reply : x.Reply) {rest : Program Decision}
      (place : h.deciding = before ++ f :: after) (waits : f.rest = .call x next)
      (goes : Program.resume next (some reply) = some rest) : ExchangeStep h
      { h with
        deciding := before ++ ⟨f.claims, f.since, f.calls ++ [⟨x, some reply⟩], rest⟩ :: after
        log := h.log ++ [⟨x, some reply⟩] }
  | count (before after : List Deciding) (f : Deciding) (r : Except Failure Decision)
      (place : h.deciding = before ++ f :: after) (ends : f.rest = Program.ended r) :
      ExchangeStep h
      { h with
        gate := h.gate.countOutcome r
        deciding := before ++ after
        counted := h.counted ++ [r] }
  | publish (before after : List (Except Failure Decision)) (r : Except Failure Decision)
      (place : h.counted = before ++ r :: after) : ExchangeStep h
      { h with gate := h.gate.exportOutcome r, counted := before ++ after }

/-- One step of a logout, and how the logout ended if it has. -/
inductive LogoutStep (h : Gatehouse) : Option (Except Failure Unit) → Gatehouse → Prop
  | begin (c : Claims) (now : Instant) : LogoutStep h none
      { h with
        gate := h.gate.beginLogout
        leaving := h.leaving ++ [h.gate.ledger.logout c now] }
  | ask (before after : List (Program Unit)) {x : Call} {next : x.Answer → Program Unit}
      (reply : x.Reply) {rest : Program Unit}
      (place : h.leaving = before ++ .call x next :: after)
      (goes : Program.resume next (some reply) = some rest) : LogoutStep h none
      { h with leaving := before ++ rest :: after, log := h.log ++ [⟨x, some reply⟩] }
  | finish (before after : List (Program Unit)) (r : Except Failure Unit)
      (place : h.leaving = before ++ Program.ended r :: after) : LogoutStep h (some r)
      { h with gate := h.gate.endLogout (some r), leaving := before ++ after }

/-- What steps make of a gate at which nothing had happened. -/
inductive Reaches (l : Ledger) : Gatehouse → Prop
  | start : Reaches l (start l)
  | exchange {h h' : Gatehouse} (reached : Reaches l h) (step : ExchangeStep h h') : Reaches l h'
  | logout {h h' : Gatehouse} {ended : Option (Except Failure Unit)} (reached : Reaches l h)
      (step : LogoutStep h ended h') : Reaches l h'

/-- How many calls of the exchanges in flight lock an account. -/
def pendingLockings (fs : List Deciding) : Nat := lockings (fs.flatMap fun f => f.calls)

/-- An exchange in flight is one of the gate, and its calls are among all calls. -/
structure Tracked (l : Ledger) (log : List Made) (f : Deciding) : Prop where
  leads : Program.Leads (some (Exchange.decide l f.claims f.since)) f.calls (some f.rest)
  logged : f.calls ⊆ log

/-- The counters of a gate fit to each other, and to what is under way and was done. -/
structure Balanced (l : Ledger) (h : Gatehouse) : Prop where
  ledger : h.gate.ledger = l
  attempts : h.gate.metrics.attempts = h.gate.metrics.outcomes + h.deciding.length
  exported : ∀ o, h.gate.metrics.counter o =
    h.gate.telemetry.count .refresh o + h.counted.countP (exchangeOutcome · = o)
  tracked : ∀ f ∈ h.deciding, Tracked l h.log f
  leaving : ∀ p ∈ h.leaving, p.Uses fun x => x.isLock = false
  replays : Program.AllAnswered h.log →
    lockings h.log = h.gate.metrics.replays + pendingLockings h.deciding

variable {l : Ledger} {h h' : Gatehouse} {f : Deciding} {log : List Made}
  {before after : List Deciding} {p : Program Unit}

theorem pendingLockings_append (fs fs' : List Deciding) :
    pendingLockings (fs ++ fs') = pendingLockings fs + pendingLockings fs' := by
  rw [pendingLockings, List.flatMap_append, lockings_append]
  rfl

theorem pendingLockings_cons (f : Deciding) (fs : List Deciding) :
    pendingLockings (f :: fs) = lockings f.calls + pendingLockings fs := by
  rw [pendingLockings, List.flatMap_cons, lockings_append]
  rfl

theorem Tracked.more (t : Tracked l log f) (made : Made) : Tracked l (log ++ [made]) f :=
  ⟨t.leads, fun _ member => List.mem_append_left _ (t.logged member)⟩

theorem Tracked.answered (t : Tracked l log f) (answered : Program.AllAnswered log) :
    Program.AllAnswered f.calls := fun made member => answered made (t.logged member)

/-- The calls of an exchange go on with one that was just made. -/
theorem Tracked.ask (t : Tracked l log f) {x : Call} {next : x.Answer → Program Decision}
    {reply : x.Reply} {rest : Program Decision} (waits : f.rest = .call x next)
    (goes : Program.resume next (some reply) = some rest) :
    Tracked l (log ++ [⟨x, some reply⟩])
      ⟨f.claims, f.since, f.calls ++ [⟨x, some reply⟩], rest⟩ where
  leads := goes ▸ t.leads.extend (some reply) (congrArg some waits)
  logged := by
    intro made member
    obtain old | new := List.mem_append.mp member
    · exact List.mem_append_left _ (t.logged old)
    · exact List.mem_append_right _ new

theorem uses_logout (l : Ledger) (c : Claims) (now : Instant) :
    (l.logout c now).Uses fun x => x.isLock = false := by
  rw [Ledger.logout]
  split
  · exact trivial
  · exact ⟨rfl, fun _ => trivial⟩

theorem balanced_start (l : Ledger) : Balanced l (start l) where
  ledger := rfl
  attempts := rfl
  exported o := by cases o <;> rfl
  tracked _ member := absurd member List.not_mem_nil
  leaving _ member := absurd member List.not_mem_nil
  replays _ := rfl

namespace Balanced

theorem begin (b : Balanced l h) (c : Claims) (now : Instant) : Balanced l
    { h with
      gate := h.gate.beginExchange
      deciding := h.deciding ++ [⟨c, now, [], Exchange.decide h.gate.ledger c now⟩] } where
  ledger := b.ledger
  attempts := by
    have := b.attempts
    simp only [Gate.beginExchange, RefreshMetrics.outcomes, List.length_append,
      List.length_singleton] at this ⊢
    omega
  exported o := by
    have := b.exported o
    cases o <;> exact this
  tracked f member := by
    obtain old | new := List.mem_append.mp member
    · exact b.tracked f old
    · rw [List.mem_singleton.mp new, b.ledger]
      exact ⟨.stay _, List.nil_subset _⟩
  leaving := b.leaving
  replays answered := by
    rw [pendingLockings_append]
    exact b.replays answered

/-- A call of an exchange counts for this exchange. -/
theorem ask (b : Balanced l h) {x : Call} {next : x.Answer → Program Decision} {reply : x.Reply}
    {rest : Program Decision} (place : h.deciding = before ++ f :: after)
    (waits : f.rest = .call x next) (goes : Program.resume next (some reply) = some rest) :
    Balanced l
    { h with
      deciding := before ++ ⟨f.claims, f.since, f.calls ++ [⟨x, some reply⟩], rest⟩ :: after
      log := h.log ++ [⟨x, some reply⟩] } where
  ledger := b.ledger
  attempts := by
    have := b.attempts
    rw [place] at this
    simpa using this
  exported := b.exported
  tracked f' member := by
    have others : ∀ f' ∈ before ++ after, Tracked l (h.log ++ [⟨x, some reply⟩]) f' := by
      intro f' member
      apply Tracked.more
      apply b.tracked
      rw [place]
      obtain first | last := List.mem_append.mp member
      · exact List.mem_append_left _ first
      · exact List.mem_append_right _ (List.mem_cons_of_mem _ last)
    obtain first | here := List.mem_append.mp member
    · exact others f' (List.mem_append_left _ first)
    · obtain rfl | last := List.mem_cons.mp here
      · exact (b.tracked f (place ▸ List.mem_append_right _ List.mem_cons_self)).ask waits goes
      · exact others f' (List.mem_append_right _ last)
  leaving := b.leaving
  replays answered := by
    have := b.replays fun made member => answered made (List.mem_append_left _ member)
    rw [place] at this
    simp only [pendingLockings_append, pendingLockings_cons, lockings_append] at this ⊢
    omega

/-- An exchange that ends goes from those in flight to those that are counted. -/
theorem count (b : Balanced l h) {r : Except Failure Decision}
    (place : h.deciding = before ++ f :: after) (ends : f.rest = Program.ended r) : Balanced l
    { h with
      gate := h.gate.countOutcome r
      deciding := before ++ after
      counted := h.counted ++ [r] } where
  ledger := b.ledger
  attempts := by
    have := b.attempts
    have real := exchangeOutcome_ne_allowed r
    rw [place] at this
    simp only [Gate.countOutcome, RefreshMetrics.attempts_count,
      RefreshMetrics.outcomes_count _ real, List.length_append, List.length_cons] at this ⊢
    omega
  exported o := by
    have := b.exported o
    have real := exchangeOutcome_ne_allowed r
    simp only [Gate.countOutcome, RefreshMetrics.counter_count _ real, List.countP_append,
      List.countP_singleton, decide_eq_true_eq] at this ⊢
    omega
  tracked f' member := by
    apply b.tracked
    rw [place]
    obtain first | last := List.mem_append.mp member
    · exact List.mem_append_left _ first
    · exact List.mem_append_right _ (List.mem_cons_of_mem _ last)
  leaving := b.leaving
  replays answered := by
    have t := b.tracked f (place ▸ List.mem_append_right _ List.mem_cons_self)
    have own := Exchange.lockings_of_ended (ends ▸ t.leads) (t.answered answered)
    have := b.replays answered
    have counted :=
      RefreshMetrics.counter_count h.gate.metrics (exchangeOutcome_ne_allowed r) .replay
    rw [place] at this
    simp only [Gate.countOutcome, RefreshMetrics.counter, pendingLockings_append,
      pendingLockings_cons] at this counted ⊢
    omega

/-- An outcome that is exported goes from those that are counted into the exported counters. -/
theorem publish (b : Balanced l h) {before after : List (Except Failure Decision)}
    {r : Except Failure Decision} (place : h.counted = before ++ r :: after) : Balanced l
    { h with gate := h.gate.exportOutcome r, counted := before ++ after } where
  ledger := b.ledger
  attempts := b.attempts
  exported o := by
    have := b.exported o
    rw [place] at this
    simp only [Gate.exportOutcome, Telemetry.count_decide, List.countP_append, List.countP_cons,
      decide_eq_true_eq, true_and] at this ⊢
    split
    · rename_i same
      subst same
      rw [if_pos rfl] at this
      omega
    · rename_i other
      rw [if_neg other] at this
      omega
  tracked := b.tracked
  leaving := b.leaving
  replays := b.replays

theorem exchange (b : Balanced l h) (step : ExchangeStep h h') : Balanced l h' := by
  cases step with
  | begin c now => exact b.begin c now
  | ask before after f reply place waits goes => exact b.ask place waits goes
  | count before after f r place ends => exact b.count place ends
  | publish before after r place => exact b.publish place

theorem logout {ended : Option (Except Failure Unit)} (b : Balanced l h)
    (step : LogoutStep h ended h') : Balanced l h' := by
  cases step with
  | begin c now =>
      refine ⟨b.ledger, b.attempts, b.exported, b.tracked, fun p member => ?_, b.replays⟩
      obtain old | new := List.mem_append.mp member
      · exact b.leaving p old
      · rw [List.mem_singleton.mp new]
        exact uses_logout _ c now
  | @ask before after x next reply rest place goes =>
      have uses := b.leaving _ (place ▸ List.mem_append_right _ List.mem_cons_self)
      refine ⟨b.ledger, b.attempts, b.exported, fun f member => (b.tracked f member).more _,
        fun p member => ?_, fun answered => ?_⟩
      · obtain first | here := List.mem_append.mp member
        · exact b.leaving p (place ▸ List.mem_append_left _ first)
        · obtain rfl | last := List.mem_cons.mp here
          · exact uses.resume (some reply) p goes
          · exact b.leaving p (place ▸ List.mem_append_right _ (List.mem_cons_of_mem _ last))
      · have silent : lockings [(⟨x, some reply⟩ : Made)] = 0 := by
          rw [lockings_cons, uses.1]
          rfl
        rw [lockings_append, silent]
        exact b.replays fun made member => answered made (List.mem_append_left _ member)
  | finish before after r place =>
      rw [Gate.endLogout_eq]
      refine ⟨b.ledger, b.attempts, fun o => ?_, b.tracked, fun p member => b.leaving p ?_,
        b.replays⟩
      · rw [Telemetry.count_decide, if_neg (fun same => nomatch same.1)]
        exact b.exported o
      · rw [place]
        obtain first | last := List.mem_append.mp member
        · exact List.mem_append_left _ first
        · exact List.mem_append_right _ (List.mem_cons_of_mem _ last)

end Balanced

theorem Reaches.balanced (reached : Reaches l h) : Balanced l h := by
  induction reached with
  | start => exact balanced_start l
  | exchange _ step b => exact b.exchange step
  | logout _ step b => exact b.logout step

/-- A logout changes no counter of exchanges, and counts when it ends, once. -/
theorem LogoutStep.counters {ended : Option (Except Failure Unit)}
    (step : LogoutStep h ended h') : h'.gate.metrics = h.gate.metrics ∧
      (∀ o, h'.gate.telemetry.count .refresh o = h.gate.telemetry.count .refresh o) ∧
      ∀ o, h'.gate.telemetry.count .logout o = h.gate.telemetry.count .logout o +
        if ended.map logoutOutcome = some o then 1 else 0 := by
  cases step with
  | begin | ask => exact ⟨rfl, fun _ => rfl, fun _ => rfl⟩
  | finish before after r place =>
      rw [Gate.endLogout_eq]
      refine ⟨rfl, fun o => ?_, fun o => ?_⟩
      · rw [Telemetry.count_decide, if_neg (fun same => nomatch same.1)]
      · by_cases same : logoutOutcome r = o
        · subst same
          simp only [Telemetry.count_decide, and_self, if_true, Option.map_some]
        · simp only [Telemetry.count_decide, same, and_false, if_false, Option.map_some,
            Option.some.injEq, Nat.add_zero]

/-- However exchanges and logouts at a gate and its clones overlap, and whatever their calls are
replied: every attempt has come to one counted outcome or is in flight; what is exported is what
is counted, once nothing remains to be exported; a logout touches none of these counters and
counts for itself once, when it ends; and if no call fails, there are as many calls that lock an
account as there are replays whenever no exchange is in flight. -/
theorem attempts_conserved (reached : Reaches l h) :
    h.gate.metrics.attempts = h.gate.metrics.granted + h.gate.metrics.denied +
      h.gate.metrics.replays + h.gate.metrics.failures + h.deciding.length ∧
    (h.counted = [] → h.gate.telemetry.count .refresh .granted = h.gate.metrics.granted ∧
      h.gate.telemetry.count .refresh .denied = h.gate.metrics.denied ∧
      h.gate.telemetry.count .refresh .replay = h.gate.metrics.replays ∧
      h.gate.telemetry.count .refresh .failure = h.gate.metrics.failures) ∧
    (∀ ended h', LogoutStep h ended h' → h'.gate.metrics = h.gate.metrics ∧
      (∀ o, h'.gate.telemetry.count .refresh o = h.gate.telemetry.count .refresh o) ∧
      ∀ o, h'.gate.telemetry.count .logout o = h.gate.telemetry.count .logout o +
        if ended.map logoutOutcome = some o then 1 else 0) ∧
    (Program.AllAnswered h.log → h.deciding = [] →
      lockings h.log = h.gate.metrics.replays) := by
  have b := reached.balanced
  refine ⟨b.attempts, fun none => ?_, fun ended h' step => step.counters, fun answered none => ?_⟩
  · have exported : ∀ o, h.gate.telemetry.count .refresh o = h.gate.metrics.counter o := by
      intro o
      have := b.exported o
      rw [none, List.countP_nil, Nat.add_zero] at this
      exact this.symm
    exact ⟨exported .granted, exported .denied, exported .replay, exported .failure⟩
  · have := b.replays answered
    rw [none] at this
    exact this

/-- That all calls were answered can be checked call by call. -/
theorem allAnswered_of_all {log : List Made}
    (all : (log.all fun made => (made.reply.bind Except.toOption).isSome) = true) :
    Program.AllAnswered log := by
  intro made member
  obtain ⟨call, reply⟩ := made
  have answered := List.all_eq_true.mp all _ member
  match reply with
  | some (.ok a) => exact ⟨a, rfl⟩
  | some (.error _) => cases answered
  | none => cases answered

/-- A token that was used is presented; meanwhile there is a logout, and the token expires and is
presented again. The first presentation has locked the account and blacklisted the token when the
second is denied, and is the last to be counted. -/
theorem overlapping_attempts_conserved : ∃ h, Reaches .standard h ∧
    h.gate.metrics = ⟨2, 0, 1, 1, 0⟩ ∧ lockings h.log = 1 ∧
    h.gate.telemetry.count .refresh .replay = 1 ∧ h.gate.telemetry.count .refresh .denied = 1 ∧
    h.gate.telemetry.count .logout .granted = 1 := by
  let c := Traffic.sampleClaims
  let used : Except Failure (Option SignedWord) := .ok (some 2)
  let done : Except Failure Unit := .ok ()
  have begun := (Reaches.start : Reaches .standard _).exchange (.begin c (.ofSeconds 0))
  have unlisted := begun.exchange (.ask [] [] _ (x := .fetch _) used rfl rfl rfl)
  have replayed := unlisted.exchange (.ask [] [] _ (x := .fetch _) used rfl rfl rfl)
  have leaving := replayed.logout (.begin c (.ofSeconds 59))
  have locked := leaving.exchange (.ask [] [] _ (x := .lock _) done rfl rfl rfl)
  have invalidated := locked.logout (.ask [] [] (x := .insert _ _ _) done rfl rfl)
  have again := invalidated.exchange (.begin c (.ofSeconds 60))
  have late := again.exchange (.count [_] [] _ (.ok (.denied .expired)) rfl rfl)
  have left := late.logout (.finish [] [] (.ok ()) rfl)
  have blacklisted := left.exchange (.ask [] [] _ (x := .insert _ _ _) done rfl rfl rfl)
  have denied := blacklisted.exchange (.count [] [] _ (.ok (.denied .replay)) rfl rfl)
  have exported := denied.exchange (.publish [_] [] _ rfl)
  have reached := exported.exchange (.publish [] [] _ rfl)
  obtain ⟨_, counts, _, locks⟩ := attempts_conserved reached
  obtain ⟨_, deniedCount, replayCount, _⟩ := counts rfl
  refine ⟨_, reached, rfl, locks ?_ rfl, replayCount, deniedCount, rfl⟩
  exact allAnswered_of_all rfl

end Gatehouse

end RequestGuard
