import RequestGuard.Proofs.Ledger.Effects
import RequestGuard.Proofs.Traffic.Sound

/-!
# Orders of operations

An order explains what a ledger answers: the operations happen one at a time, each at one of its
calls, and each with the result that it has by the life of its token. `Runs` says so.

A run of a ledger builds such an order as it goes on. `Stage` says for each flight whether it has
taken effect and with which result. For all but one kind of operation there is only one call to
take effect at. A check of a token takes effect where it reads a counter or writes the first one.
Should it read none and then be refused for its lifetime, it has taken effect where it read,
because by the time of the refusal the token may be known. A call advances the order by one
operation at most.
-/

namespace RequestGuard

/-- The lives of all tokens. -/
abbrev Lives : Type := TokenId → Life

namespace Lives

def set (lives : Lives) (id : TokenId) (life : Life) : Lives :=
  fun i => if i = id then life else lives i

@[simp] theorem set_self (lives : Lives) (id : TokenId) (life : Life) :
    lives.set id life id = life := if_pos rfl

theorem set_of_ne {i id : TokenId} (other : i ≠ id) (lives : Lives) (life : Life) :
    lives.set id life i = lives i := if_neg other

end Lives

/-- Whether an event is a mark of a token. -/
def Event.marks (l : Ledger) (id : TokenId) : Event → Bool
  | .called _ _ made => made.call = .increment (l.key id)
  | .begun _ _ _ | .changed _ _ _ => false

def marks (l : Ledger) (id : TokenId) (log : List Event) : Nat := log.countP (Event.marks l id)

namespace Traffic

variable {l : Ledger} {w v : Traffic} {n : Nat} {id : TokenId} {step : Scenario.LedgerStep}
  {lives lives' : Lives} {log log' : List Event}

theorem marks_le_append (l : Ledger) (id : TokenId) (log later : List Event) :
    marks l id log ≤ marks l id (log ++ later) := by
  rw [marks, marks, List.countP_append]
  exact Nat.le_add_right _ _

theorem marks_mark (l : Ledger) (id : TokenId) (log : List Event) (t : Instant) (n : Nat)
    (reply : Option (Call.increment (l.key id)).Reply) :
    marks l id (log ++ [.called t n ⟨.increment (l.key id), reply⟩]) = marks l id log + 1 := by
  rw [marks, marks, List.countP_append, List.countP_singleton]
  exact congrArg _ (if_pos (decide_eq_true rfl))

/-- No entry under the key of a flight's token has run out since an earlier call of the flight. -/
def Steady (l : Ledger) (w : Traffic) (n : Nat) : Prop :=
  ∀ f t made e, w.flights.get? n = some f → Event.called t n made ∈ w.log →
    w.services.store.entries.get? (l.key f.operation.tokenId) = some e →
      e.expiresAt.instant ≤ w.now → e.expiresAt.instant ≤ t

/-- What may happen where a ledger is used directly, and nothing else writes to the store. The
clock is never set back. -/
def ByLedger (l : Ledger) (w : Traffic) : Action → Prop
  | .wait t => w.now ≤ t
  | .begin _ o => ∃ id step, o = .ledger id step
  | .proceed n _ => w.Steady l n
  | .change _ _ => True

/-- An operation of the ledger with the call at which it takes effect and with its result. -/
structure Point where
  flight : Nat
  id : TokenId
  step : Scenario.LedgerStep
  time : Instant
  made : Made
  result : Except Failure (Operation.ledger id step).Answer

/-- The event at which the operation takes effect. -/
def Point.event (p : Point) : Event := .called p.time p.flight p.made

/-- One operation after the other, each with the result that it has by the life of its token,
makes these lives of tokens that were never seen. -/
inductive Runs (l : Ledger) : List Point → Lives → Prop
  | nil : Runs l [] fun _ => none
  | snoc {order : List Point} {lives : Lives} (p : Point) (before : Runs l order lives)
      (legal : p.result = ((lives p.id).apply l p.id p.time p.step).1) :
      Runs l (order ++ [p]) (lives.set p.id ((lives p.id).apply l p.id p.time p.step).2)

/-- An order that a log bears out. Every operation in it has begun, and they take effect one after
the other at calls of the log, each flight at one of its own. -/
structure Fits (l : Ledger) (order : List Point) (lives : Lives) (log : List Event) : Prop where
  runs : Runs l order lives
  unique : (order.map Point.flight).Nodup
  begun : ∀ p ∈ order, ∃ t, Event.begun t p.flight (.ledger p.id p.step) ∈ log
  effective : (order.map Point.event).Sublist log

variable {order order' : List Point}

theorem Fits.append (fits : Fits l order lives log) (later : List Event) :
    Fits l order lives (log ++ later) where
  runs := fits.runs
  unique := fits.unique
  begun := by
    intro p member
    obtain ⟨t, begun⟩ := fits.begun p member
    exact ⟨t, List.mem_append_left _ begun⟩
  effective := fits.effective.trans (List.sublist_append_left _ _)

/-- The operation of a flight has its place in the order, with this result. -/
def Took (order : List Point) (n : Nat) (id : TokenId) (step : Scenario.LedgerStep)
    (r : Except Failure (Operation.ledger id step).Answer) : Prop :=
  ∃ time made, (⟨n, id, step, time, made, r⟩ : Point) ∈ order

theorem took_append (order : List Point) (p : Point) :
    Took (order ++ [p]) p.flight p.id p.step p.result :=
  ⟨p.time, p.made, List.mem_append_right _ (List.mem_singleton_self p)⟩

/-- The operation of a flight has no place in the order yet. -/
def Ahead (order : List Point) (n : Nat) : Prop := ∀ p ∈ order, p.flight ≠ n

/-- How far a flight has come with its operation. -/
inductive Stage (l : Ledger) (order : List Point) (lives : Lives) (log : List Event) (n : Nat) :
    (o : Operation) → Option (Program o.Answer) → Prop
  | lost (o : Operation) : Stage l order lives log n o none
  | fresh (id : TokenId) (step : Scenario.LedgerStep) (t : Instant) (ahead : Ahead order n) :
      Stage l order lives log n (.ledger id step) (some ((Operation.ledger id step).program l t))
  /-- A check has found no counter. -/
  | unseen (id : TokenId) (ttl : Span) (positive : ttl.Positive) (ahead : Ahead order n) :
      Stage l order lives log n (.ledger id (.checkUseCount ttl)) (some (l.recordUse id ttl))
  /-- A check has found no counter and will be refused. -/
  | refused (id : TokenId) (ttl : Span) (refuses : ¬ ttl.Positive)
      (took : Took order n id (.checkUseCount ttl)
        (.error (.storage (Entries.refuse (l.key id))))) :
      Stage l order lives log n (.ledger id (.checkUseCount ttl)) (some (l.recordUse id ttl))
  /-- A check has found no counter and then one. -/
  | beaten (id : TokenId) (ttl : Span) (ahead : Ahead order n) {t : Instant} {made : Made}
      (called : Event.called t n made ∈ log) (lasts : (lives id).Lasts t) :
      Stage l order lives log n (.ledger id (.checkUseCount ttl)) (some (l.judgeAgain id))
  | ended (id : TokenId) (step : Scenario.LedgerStep)
      (r : Except Failure (Operation.ledger id step).Answer) (took : Took order n id step r) :
      Stage l order lives log n (.ledger id step) (some (.ended r))

/-- The stage of a flight stays the same through whatever other flights do. -/
theorem Stage.mono {o : Operation} {q : Option (Program o.Answer)}
    (stage : Stage l order lives log n o q) (grows : order ⊆ order')
    (own : ∀ p ∈ order', p.flight = n → p ∈ order) (logs : log ⊆ log')
    (lasts : ∀ id t made, Event.called t n made ∈ log → (lives id).Lasts t → (lives' id).Lasts t) :
    Stage l order' lives' log' n o q := by
  have still : Ahead order n → Ahead order' n :=
    fun ahead p member same => ahead p (own p member same) same
  have took : ∀ {id step r}, Took order n id step r → Took order' n id step r :=
    fun ⟨time, made, member⟩ => ⟨time, made, grows member⟩
  cases stage with
  | lost => exact .lost o
  | fresh id step t ahead => exact .fresh id step t (still ahead)
  | unseen id ttl positive ahead => exact .unseen id ttl positive (still ahead)
  | refused id ttl refuses has => exact .refused id ttl refuses (took has)
  | beaten id ttl ahead called last =>
      exact .beaten id ttl (still ahead) (logs called) (lasts id _ _ called last)
  | ended id step r has => exact .ended id step r (took has)

/-- An operation that has its answer has its place in the order. -/
theorem Stage.took {r : Except Failure (Operation.ledger id step).Answer}
    (stage : Stage l order lives log n (.ledger id step) (some (.ended r))) :
    Took order n id step r := by
  generalize ended : some (Program.ended r) = q at stage
  cases stage with
  | lost => cases ended
  | fresh _ _ t =>
      obtain ⟨c, next, program⟩ := Operation.ledger_calls l id step t
      exact absurd ((Option.some.inj ended).trans program) Program.ended_ne_call
  | unseen | refused | beaten => exact absurd (Option.some.inj ended) Program.ended_ne_call
  | ended _ _ r' took =>
      rw [Program.ended_injective (Option.some.inj ended)]
      exact took

/-- What a call at the given time makes of the order and of the lives: it is passed over, or the
operation of its flight takes effect. -/
inductive Advance (l : Ledger) (n : Nat) (id : TokenId) (step : Scenario.LedgerStep)
    (now : Instant) (made : Made) (order : List Point) (lives : Lives) : List Point → Lives → Prop
  | pass : Advance l n id step now made order lives order lives
  | take (ahead : Ahead order n) (counted : step = .markUsed → made.call = .increment (l.key id)) :
      Advance l n id step now made order lives
        (order ++ [⟨n, id, step, now, made, ((lives id).apply l id now step).1⟩])
        (lives.set id ((lives id).apply l id now step).2)

namespace Advance

variable {now : Instant} {made : Made}

theorem subset (a : Advance l n id step now made order lives order' lives') : order ⊆ order' := by
  cases a with
  | pass => exact List.Subset.refl order
  | take => exact List.subset_append_left _ _

/-- The order goes on with the log. -/
theorem fits (a : Advance l n id step now made order lives order' lives')
    (before : Fits l order lives log) (own : ∃ t, Event.begun t n (.ledger id step) ∈ log) :
    Fits l order' lives' (log ++ [.called now n made]) := by
  cases a with
  | pass => exact before.append _
  | take ahead =>
      refine ⟨.snoc _ before.runs rfl, ?_, ?_, ?_⟩
      · rw [List.map_append, List.map_singleton, List.nodup_append]
        refine ⟨before.unique, List.pairwise_singleton _ _, fun m old m' new same => ?_⟩
        obtain ⟨p, member, rfl⟩ := List.mem_map.mp old
        exact ahead p member (same.trans (List.mem_singleton.mp new))
      · intro p member
        obtain old | new := List.mem_append.mp member
        · exact (before.append _).begun p old
        · cases List.mem_singleton.mp new
          obtain ⟨t, began⟩ := own
          exact ⟨t, List.mem_append_left _ began⟩
      · rw [List.map_append]
        exact before.effective.append (List.Sublist.refl _)

theorem lives_of_ne (a : Advance l n id step now made order lives order' lives') {i : TokenId}
    (other : i ≠ id) : lives' i = lives i := by
  cases a with
  | pass => rfl
  | take => exact Lives.set_of_ne other lives _

theorem within (a : Advance l n id step now made order lives order' lives')
    (before : ∀ p ends, lives id = some (p, ends) → p.Within (marks l id log)) {p : Phase}
    {ends : Instant} (seen : lives' id = some (p, ends)) :
    p.Within (marks l id (log ++ [.called now n made])) := by
  have grows := marks_le_append l id log [.called now n made]
  cases a with
  | pass => exact (before p ends seen).mono grows
  | take ahead counted =>
      rw [Lives.set_self] at seen
      have after := Life.apply_within before seen
      cases step with
      | markUsed =>
          obtain ⟨c, reply⟩ := made
          cases counted rfl
          rw [marks_mark]
          exact after
      | recordFirstUse | checkUseCount | invalidate | checkBlacklist | state =>
          exact after.mono grows

theorem lasts (a : Advance l n id step now made order lives order' lives') {i : TokenId}
    {t : Instant} (past : t ≤ now) (before : (lives i).Lasts t) : (lives' i).Lasts t := by
  cases a with
  | pass => exact before
  | take =>
      by_cases same : i = id
      · subst same
        rw [Lives.set_self]
        exact Life.lasts_apply past before
      · rw [Lives.set_of_ne same]
        exact before

/-- Only the flight that makes the call can come into the order. -/
theorem own (a : Advance l n id step now made order lives order' lives') {p : Point}
    (member : p ∈ order') (other : p.flight ≠ n) : p ∈ order := by
  cases a with
  | pass => exact member
  | take =>
      obtain old | new := List.mem_append.mp member
      · exact old
      · cases List.mem_singleton.mp new
        exact absurd rfl other

end Advance

end Traffic

end RequestGuard
