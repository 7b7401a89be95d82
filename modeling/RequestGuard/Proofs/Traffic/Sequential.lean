import RequestGuard.Proofs.Traffic.Sound

/-!
# One operation after the other

Where an operation begins only when no other has a call to make, the log falls into stretches,
one for each operation: `InTurn` says of the operation under way that all calls since its
beginning are its own. An answer that was given stays with its flight, also through restarts.
-/

namespace RequestGuard

/-- Whether a flight has a call to make. -/
def Flight.isPending (f : Flight) : Bool :=
  match f.rest with
  | some (.call _ _) => true
  | some (.pure _) | some (.fail _) | none => false

namespace Traffic

variable {l : Ledger} {allowed : Traffic → Action → Prop} {w v : Traffic}

/-- No flight has a call to make. -/
def Idle (w : Traffic) : Prop := ∀ n f, w.flights.get? n = some f → f.isPending = false

/-- The last stretch of a log, from the beginning of a flight on, in which no other makes a
call. -/
def LastStretch (n : Nat) (o : Operation) (log : List Event) : Prop :=
  ∃ earlier t later, log = earlier ++ .begun t n o :: later ∧
    ∀ t' m made, Event.called t' m made ∈ later → m = n

/-- At most one flight has a call to make, and the log ends with its stretch. -/
structure InTurn (w : Traffic) : Prop where
  single : ∀ m n f g, w.flights.get? m = some f → w.flights.get? n = some g →
    f.isPending = true → g.isPending = true → m = n
  stretch : ∀ n f, w.flights.get? n = some f → f.isPending = true →
    LastStretch n f.operation w.log

theorem LastStretch.append {n : Nat} {o : Operation} {log : List Event} {e : Event}
    (h : LastStretch n o log) (own : ∀ t m made, e = .called t m made → m = n) :
    LastStretch n o (log ++ [e]) := by
  obtain ⟨earlier, t, later, rfl, calls⟩ := h
  refine ⟨earlier, t, later ++ [e], by simp, ?_⟩
  intro t' m made called
  rcases List.mem_append.mp called with old | new
  · exact calls t' m made old
  · exact own t' m made (List.mem_singleton.mp new).symm

theorem inTurn_start (now : Instant) (services : Services) : InTurn (start now services) where
  single := by
    intro m n f g got
    cases got
  stretch := by
    intro n f got
    cases got

namespace InTurn

theorem step {a : Action} (h : InTurn w) (step : Step l w a v)
    (turns : ∀ n o, a = .begin n o → Idle w) : InTurn v := by
  cases step with
  | wait | nothing => exact ⟨h.single, h.stretch⟩
  | changed account change =>
      refine ⟨h.single, fun n f got pending => (h.stretch n f got pending).append ?_⟩
      intro t m made same
      cases same
  | @begun n o new =>
      have idle : Idle w := turns n o rfl
      -- Whatever has a call to make is the flight that begins here.
      have only : ∀ m f, (w.flights.insert n ⟨o, some (o.program l w.now)⟩).get? m = some f →
          f.isPending = true → m = n ∧ f = ⟨o, some (o.program l w.now)⟩ := by
        intro m f got pending
        rw [Table.get?_insert] at got
        by_cases same : n = m
        · rw [if_pos same] at got
          exact ⟨same.symm, (Option.some.inj got).symm⟩
        · rw [if_neg same] at got
          rw [idle m f got] at pending
          cases pending
      refine ⟨fun m k f g got got' pending pending' => ?_, fun m f got pending => ?_⟩
      · rw [(only m f got pending).1, (only k g got' pending').1]
      · obtain ⟨rfl, rfl⟩ := only m f got pending
        refine ⟨w.log, w.now, [], rfl, ?_⟩
        intro t' k made called
        cases called
  | @called n fault o x next coming =>
      have before : ∀ m f, (w.call n fault o x next).flights.get? m = some f →
          f.isPending = true → m = n ∧ f.operation = o := by
        intro m f got pending
        simp only [call, Table.get?_insert] at got
        by_cases same : n = m
        · rw [if_pos same] at got
          cases got
          exact ⟨same.symm, rfl⟩
        · rw [if_neg same] at got
          exact absurd (h.single n m _ f coming got rfl pending) same
      refine ⟨fun m k f g got got' pending pending' => ?_, fun m f got pending => ?_⟩
      · rw [(before m f got pending).1, (before k g got' pending').1]
      · obtain ⟨rfl, operation⟩ := before m f got pending
        rw [operation]
        refine (h.stretch m _ coming rfl).append ?_
        intro t k made same
        cases same
        rfl

theorem restart (h : InTurn w) (services : Services) : InTurn (w.restart services) := by
  have old : ∀ {n f}, (w.restart services).flights.get? n = some f →
      w.flights.get? n = some f := by
    intro n f got
    simp only [Traffic.restart, Table.get?_filter, Option.filter_eq_some_iff] at got
    exact got.1
  exact ⟨fun m n f g got got' => h.single m n f g (old got) (old got'),
    fun n f got => h.stretch n f (old got)⟩

theorem reaches (h : InTurn w) (r : Reaches l allowed w v)
    (turns : ∀ u n o, allowed u (.begin n o) → Idle u) : InTurn v := by
  induction r with
  | refl => exact h
  | act _ ok ih => exact ih.step (act_step _) fun n o same => turns _ n o (same ▸ ok)
  | restart _ _ _ _ ih => exact ih.restart _

end InTurn

namespace Answered

variable {n : Nat} {o : Operation} {r : Except Failure o.Answer}

theorem step {a : Action} (h : w.Answered n o r) (s : Sound l w) (step : Step l w a v) :
    v.Answered n o r := by
  cases step with
  | wait | nothing | changed => exact h
  | @begun m o' new =>
      have other : m ≠ n := by
        rintro rfl
        obtain ⟨t, begun, _⟩ := s.history m _ h
        rw [hasBegun_iff.mpr ⟨t, _, begun⟩] at new
        cases new
      unfold Answered
      rw [Table.get?_insert, if_neg other]
      exact h
  | @called m fault o' x next coming =>
      have other : m ≠ n := by
        rintro rfl
        have same := coming.symm.trans h
        cases r with
        | ok => cases same
        | error => cases same
      unfold Answered
      simp only [call, Table.get?_insert, if_neg other]
      exact h

theorem restart (h : w.Answered n o r) (services : Services) :
    (w.restart services).Answered n o r := by
  unfold Answered at h ⊢
  simp only [Traffic.restart, Table.get?_filter, h]
  cases r with
  | ok => rfl
  | error => rfl

/-- An answer stays. -/
theorem reaches (h : w.Answered n o r) (s : Sound l w) (run : Reaches l allowed w v) :
    v.Answered n o r := by
  induction run with
  | refl => exact h
  | act before _ ih => exact ih.step (before.sound s) (act_step _)
  | restart _ _ _ _ ih => exact ih.restart _

/-- An operation that has its answer makes no more calls. -/
theorem not_called (h : w.Answered n o r) (s : Sound l w) (run : Reaches l allowed w v)
    {later : List Event} (same : v.log = w.log ++ later) (t : Instant) (made : Made) :
    Event.called t n made ∉ later := by
  intro called
  obtain ⟨m⟩ := run.moment same called
  have coming := m.coming.symm.trans (h.reaches s m.reached)
  cases r with
  | ok => cases coming
  | error => cases coming

end Answered

end Traffic

end RequestGuard
