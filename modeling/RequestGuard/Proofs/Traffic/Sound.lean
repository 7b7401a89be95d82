import RequestGuard.Proofs.Store.Turn
import RequestGuard.Proofs.Traffic.Basic

/-!
# Flights and the log

Every flight is what its part of the log has made of it. The invariant `Sound` says so
for all flights at once. It holds of a gate at which nothing has happened, and each
action and each restart keeps it.

A `Moment` takes a run apart at a call of its log, so that what is known of the run up to
there says something about the reply. `Reaches.induct_volatile` is the induction over the
runs of a store in memory, which has no restarts.
-/

namespace RequestGuard

namespace Traffic

variable {l : Ledger} {allowed : Traffic → Action → Prop} {w v : Traffic}

/-- Each flight has its beginning and its history in the log, and no flight made a call
before it began. -/
structure Sound (l : Ledger) (w : Traffic) : Prop where
  history : ∀ n f, w.flights.get? n = some f → ∃ t, Event.begun t n f.operation ∈ w.log ∧
    Program.Leads (some (f.operation.program l t)) (callsOf n w.log) f.rest
  known : ∀ t n made, Event.called t n made ∈ w.log → w.hasBegun n = true

@[simp] theorem callsOf_begun (n m : Nat) (log : List Event) (t : Instant) (o : Operation) :
    callsOf n (log ++ [.begun t m o]) = callsOf n log := by
  simp [callsOf, Event.callBy]

@[simp] theorem callsOf_changed (n : Nat) (log : List Event) (t : Instant) (a : AccountId)
    (change : AccountChange) : callsOf n (log ++ [.changed t a change]) = callsOf n log := by
  simp [callsOf, Event.callBy]

@[simp] theorem callsOf_called_self (n : Nat) (log : List Event) (t : Instant) (made : Made) :
    callsOf n (log ++ [.called t n made]) = callsOf n log ++ [made] := by
  simp [callsOf, Event.callBy]

theorem callsOf_called_of_ne {n m : Nat} (h : m ≠ n) (log : List Event) (t : Instant)
    (made : Made) : callsOf n (log ++ [.called t m made]) = callsOf n log := by
  simp [callsOf, Event.callBy, h]

theorem call_log (w : Traffic) (n : Nat) (fault : Option WriteFault) (o : Operation) (c : Call)
    (next : c.Answer → Program o.Answer) : (w.call n fault o c next).log =
      w.log ++ [.called w.now n ⟨c, (w.services.perform w.now fault c).1⟩] := rfl

theorem callsOf_call (w : Traffic) (n m : Nat) (fault : Option WriteFault) (o : Operation)
    (c : Call) (next : c.Answer → Program o.Answer) : callsOf m (w.call n fault o c next).log =
      if n = m then callsOf m w.log ++ [⟨c, (w.services.perform w.now fault c).1⟩]
      else callsOf m w.log := by
  split
  · rename_i same
    subst same
    exact callsOf_called_self n w.log _ _
  · exact callsOf_called_of_ne ‹_› w.log _ _

theorem hasBegun_iff {n : Nat} :
    w.hasBegun n = true ↔ ∃ t o, Event.begun t n o ∈ w.log := by
  simp only [hasBegun, List.any_eq_true]
  constructor
  · rintro ⟨e, he, begins⟩
    cases e with
    | begun t m o =>
        have same : m = n := by simpa [Event.begins] using begins
        subst same
        exact ⟨t, o, he⟩
    | called => cases begins
    | changed => cases begins
  · rintro ⟨t, o, he⟩
    exact ⟨_, he, by simp [Event.begins]⟩

theorem Sound.callsOf_eq_nil (s : Sound l w) {n : Nat} (h : w.hasBegun n = false) :
    callsOf n w.log = [] := by
  refine List.eq_nil_iff_forall_not_mem.mpr fun made member => ?_
  obtain ⟨t, called⟩ := mem_callsOf.mp member
  have := s.known t n made called
  rw [h] at this
  cases this

/-- A flight of an unused name begins. -/
theorem begin_of_new {n : Nat} {o : Operation} (new : w.hasBegun n = false) :
    w.begin l n o = { w with
      flights := w.flights.insert n ⟨o, some (o.program l w.now)⟩
      log := w.log ++ [.begun w.now n o] } := by
  simp [begin, new]

theorem Sound.flights_of_new {n : Nat} (s : Sound l w) (new : w.hasBegun n = false) :
    w.flights.get? n = none := by
  cases flight : w.flights.get? n with
  | none => rfl
  | some f =>
      obtain ⟨t, begun, _⟩ := s.history n f flight
      rw [hasBegun_iff.mpr ⟨t, _, begun⟩] at new
      cases new

/-- A flight makes the call that it has come to. -/
theorem act_proceed {n : Nat} {fault : Option WriteFault} {o : Operation} {c : Call}
    {next : c.Answer → Program o.Answer}
    (coming : w.flights.get? n = some ⟨o, some (.call c next)⟩) :
    w.act l (.proceed n fault) = w.call n fault o c next := by
  simp only [act, coming]

/-- A flight without a call to make stays as it is. -/
theorem act_proceed_still {n : Nat} {fault : Option WriteFault}
    (idle : ∀ o x next, w.flights.get? n ≠ some ⟨o, some (.call x next)⟩) :
    w.act l (.proceed n fault) = w := by
  simp only [act]

/-- What one action can make of the traffic. -/
inductive Step (l : Ledger) (w : Traffic) : Action → Traffic → Prop
  | wait (now : Instant) : Step l w (.wait now) { w with now := now }
  | begun {n : Nat} (o : Operation) (new : w.hasBegun n = false) :
      Step l w (.begin n o) { w with
        flights := w.flights.insert n ⟨o, some (o.program l w.now)⟩
        log := w.log ++ [.begun w.now n o] }
  | called {n : Nat} {fault : Option WriteFault} {o : Operation} {c : Call}
      {next : c.Answer → Program o.Answer}
      (coming : w.flights.get? n = some ⟨o, some (.call c next)⟩) :
      Step l w (.proceed n fault) (w.call n fault o c next)
  | changed (account : AccountId) (change : AccountChange) :
      Step l w (.change account change) { w with
        services := { w.services with directory := w.services.directory.change account change }
        log := w.log ++ [.changed w.now account change] }
  /-- The name was used before, or the flight has no call to make. -/
  | nothing (a : Action) : Step l w a w

theorem act_step (a : Action) : Step l w a (w.act l a) := by
  cases a with
  | wait now => exact .wait now
  | begin n o =>
      simp only [act, begin]
      split
      · exact .nothing _
      · rename_i new
        exact .begun o (by simpa using new)
  | proceed n fault =>
      simp only [act]
      split
      · rename_i coming
        exact .called coming
      · exact .nothing _
  | change account change => exact .changed account change

theorem sound_start (now : Instant) (services : Services) : Sound l (start now services) where
  history := by
    intro n f h
    cases h
  known := by
    intro t n made h
    cases h

theorem Step.log_grows {a : Action} (step : Step l w a v) : ∃ later, v.log = w.log ++ later := by
  cases step with
  | wait | nothing => exact ⟨[], by simp⟩
  | begun | called | changed => exact ⟨_, rfl⟩

theorem Step.hasBegun {a : Action} {n : Nat} (step : Step l w a v) (h : w.hasBegun n = true) :
    v.hasBegun n = true := by
  obtain ⟨later, same⟩ := step.log_grows
  obtain ⟨t, o, begun⟩ := hasBegun_iff.mp h
  exact hasBegun_iff.mpr ⟨t, o, same ▸ List.mem_append_left _ begun⟩

private theorem Sound.known_step {a : Action} (s : Sound l w) (step : Step l w a v) (t : Instant)
    (n : Nat) (made : Made) (h : Event.called t n made ∈ v.log) : v.hasBegun n = true := by
  have onward : w.hasBegun n = true → v.hasBegun n = true := step.hasBegun
  cases step with
  | wait | nothing => exact s.known t n made h
  | begun o new => exact onward (s.known t n made (by simpa using h))
  | changed account change => exact onward (s.known t n made (by simpa using h))
  | called coming =>
      rcases List.mem_append.mp h with old | new
      · exact onward (s.known t n made old)
      · cases List.mem_singleton.mp new
        obtain ⟨t', begun, _⟩ := s.history _ _ coming
        exact onward (hasBegun_iff.mpr ⟨t', _, begun⟩)

theorem Sound.step {a : Action} (s : Sound l w) (step : Step l w a v) : Sound l v := by
  refine ⟨fun m f h => ?_, s.known_step step⟩
  cases step with
  | wait | nothing => exact s.history m f h
  | changed account change =>
      obtain ⟨t, begun, leads⟩ := s.history m f h
      exact ⟨t, List.mem_append_left _ begun, by simpa using leads⟩
  | @begun n o new =>
      simp only [Table.get?_insert] at h
      by_cases same : n = m
      · subst same
        rw [if_pos rfl] at h
        cases h
        refine ⟨w.now, by simp, ?_⟩
        rw [callsOf_begun, s.callsOf_eq_nil new]
        exact .stay _
      · rw [if_neg same] at h
        obtain ⟨t, begun, leads⟩ := s.history m f h
        exact ⟨t, List.mem_append_left _ begun, by simpa using leads⟩
  | @called n fault o c next coming =>
      simp only [call, Table.get?_insert] at h
      by_cases same : n = m
      · subst same
        rw [if_pos rfl] at h
        cases h
        obtain ⟨t, begun, leads⟩ := s.history n _ coming
        refine ⟨t, List.mem_append_left _ begun, ?_⟩
        rw [callsOf_call, if_pos rfl]
        exact leads.extend _ rfl
      · rw [if_neg same] at h
        obtain ⟨t, begun, leads⟩ := s.history m f h
        refine ⟨t, List.mem_append_left _ begun, ?_⟩
        rw [callsOf_call, if_neg same]
        exact leads

theorem Sound.restart (s : Sound l w) (services : Services) : Sound l (w.restart services) := by
  refine ⟨fun n f h => ?_, s.known⟩
  simp only [Traffic.restart, Table.get?_filter, Option.filter_eq_some_iff] at h
  exact s.history n f h.1

theorem Reaches.sound (r : Reaches l allowed w v) (s : Sound l w) : Sound l v := by
  induction r with
  | refl => exact s
  | act _ _ ih => exact ih.step (act_step _)
  | restart _ _ _ _ ih => exact ih.restart _

/-- Nothing is ever taken out of the log. -/
theorem Reaches.log_grows (r : Reaches l allowed w v) : ∃ later, v.log = w.log ++ later := by
  induction r with
  | refl => exact ⟨[], by simp⟩
  | restart _ _ _ _ ih => exact ih
  | act _ _ ih =>
      obtain ⟨later, same⟩ := ih
      obtain ⟨more, same'⟩ := (act_step _).log_grows
      exact ⟨later ++ more, by rw [same', same, List.append_assoc]⟩

theorem Reaches.trans {u : Traffic} (first : Reaches l allowed u w) (rest : Reaches l allowed w v) :
    Reaches l allowed u v := by
  induction rest with
  | refl => exact first
  | act _ ok ih => exact .act ih ok
  | restart directory _ held opened ih => exact .restart directory ih held opened

theorem Reaches.mono {allowed' : Traffic → Action → Prop} (r : Reaches l allowed w v)
    (imp : ∀ u a, allowed u a → allowed' u a) : Reaches l allowed' w v := by
  induction r with
  | refl => exact .refl _
  | act _ ok ih => exact .act ih (imp _ _ ok)
  | restart directory _ held opened ih => exact .restart directory ih held opened

/-- The moment at which a call was made: before it, a flight had come to it. -/
structure Moment (l : Ledger) (allowed : Traffic → Action → Prop) (w v : Traffic) (n : Nat)
    (made : Made) where
  before : Traffic
  fault : Option WriteFault
  operation : Operation
  next : made.call.Answer → Program operation.Answer
  reached : Reaches l allowed w before
  ok : allowed before (.proceed n fault)
  coming : before.flights.get? n = some ⟨operation, some (.call made.call next)⟩
  reply : made.reply = (before.services.perform before.now fault made.call).1
  onward : Reaches l allowed (before.call n fault operation made.call next) v

/-- The traffic right after the call. -/
def Moment.after {n : Nat} {made : Made} (m : Moment l allowed w v n made) : Traffic :=
  m.before.call n m.fault m.operation made.call m.next

theorem Moment.step {n : Nat} {made : Made} (m : Moment l allowed w v n made) :
    Step l m.before (.proceed n m.fault) m.after := .called m.coming

/-- The call goes in one of the known ways. -/
theorem Moment.turn {n : Nat} {made : Made} (m : Moment l allowed w v n made)
    (placed : m.before.services.store.Placed) :
    m.before.services.store.Turn m.before.now made.call made.reply m.after.services.store := by
  rw [m.reply]
  exact (Services.perform_turn placed made.call).1

theorem Moment.log_after {n : Nat} {made : Made} (m : Moment l allowed w v n made) :
    m.after.log = m.before.log ++ [.called m.before.now n made] := by
  rw [after, call_log, ← m.reply]

/-- The call splits the log. -/
theorem Moment.log_split {n : Nat} {made : Made} (m : Moment l allowed w v n made) :
    ∃ rest, v.log = m.before.log ++ .called m.before.now n made :: rest := by
  obtain ⟨rest, onward⟩ := m.onward.log_grows
  have whole : v.log = m.after.log ++ rest := onward
  rw [m.log_after, List.append_assoc] at whole
  exact ⟨rest, whole⟩

theorem Moment.log_subset {n : Nat} {made : Made} (m : Moment l allowed w v n made) :
    m.before.log ⊆ v.log := by
  obtain ⟨rest, log⟩ := m.log_split
  rw [log]
  exact List.subset_append_left _ _

/-- The log before and after the call. -/
theorem Moment.split {later : List Event} {n : Nat} {made : Made} (m : Moment l allowed w v n made)
    (same : v.log = w.log ++ later) : ∃ earlier rest, m.before.log = w.log ++ earlier ∧
      v.log = m.after.log ++ rest ∧ later = earlier ++ .called m.before.now n made :: rest := by
  obtain ⟨earlier, before⟩ := m.reached.log_grows
  obtain ⟨rest, onward⟩ := m.onward.log_grows
  refine ⟨earlier, rest, before, onward, ?_⟩
  have whole : v.log = m.after.log ++ rest := onward
  rw [same, m.log_after, before, List.append_assoc, List.append_assoc,
    List.append_cancel_left_eq] at whole
  exact whole

/-- The last event of a log is a given one of it, or comes after that. -/
private theorem append_singleton_cases {log earlier rest : List Event} {e e' : Event}
    (same : log ++ [e] = earlier ++ e' :: rest) :
    (rest = [] ∧ log = earlier ∧ e = e') ∨
      ∃ rest', rest = rest' ++ [e] ∧ log = earlier ++ e' :: rest' := by
  rcases List.eq_nil_or_concat rest with rfl | ⟨rest', last, rfl⟩
  · obtain ⟨logs, events⟩ := List.append_inj' same rfl
    cases events
    exact .inl ⟨rfl, logs, rfl⟩
  · rw [List.concat_eq_append] at same ⊢
    rw [← List.cons_append, ← List.append_assoc] at same
    obtain ⟨logs, events⟩ := List.append_inj' same rfl
    cases events
    exact .inr ⟨rest', rfl, logs⟩

/-- A gate keeps the kind of its store. -/
theorem Step.isDurable {a : Action} (step : Step l w a v) :
    v.services.store.isDurable = w.services.store.isDurable := by
  cases step with
  | called => exact Services.isDurable_perform _
  | wait | begun | changed | nothing => rfl

/-- A gate over a store in memory has one to the end. -/
theorem Reaches.volatile (r : Reaches l allowed w v) (h : w.services.store.isDurable = false) :
    v.services.store.isDurable = false := by
  induction r with
  | refl => exact h
  | act _ _ ih => exact (act_step _).isDurable.trans ih
  | restart _ _ held _ ih =>
      rw [held] at ih
      cases ih

/-- Without a snapshot there is no restart: what holds first and is kept by every action holds
to the end. -/
theorem Reaches.induct_volatile {P : Traffic → Prop} (r : Reaches l allowed w v)
    (volatile : w.services.store.isDurable = false) (first : P w)
    (acts : ∀ {u : Traffic} {a : Action}, Reaches l allowed w u → allowed u a → P u →
      P (u.act l a)) : P v := by
  induction r with
  | refl => exact first
  | act before ok ih => exact acts before ok ih
  | restart _ before held _ _ =>
      have still := before.volatile volatile
      rw [held] at still
      cases still

/-- Every call in the log was made at some moment, at which the log had come that far and
the clock showed that time. -/
theorem Reaches.moment_at {earlier rest : List Event} {t : Instant} {n : Nat} {made : Made}
    (r : Reaches l allowed w v) (same : v.log = w.log ++ earlier ++ .called t n made :: rest) :
    ∃ m : Moment l allowed w v n made, m.before.log = w.log ++ earlier ∧ m.before.now = t := by
  induction r generalizing rest with
  | refl =>
      have := congrArg List.length same
      simp only [List.length_append, List.length_cons] at this
      omega
  | restart directory before held opened ih =>
      obtain ⟨m, log, time⟩ := ih same
      exact ⟨{ m with onward := .restart directory m.onward held opened }, log, time⟩
  | @act v a before ok ih =>
      have extended : ∀ {rest}, v.log = w.log ++ earlier ++ .called t n made :: rest →
          ∃ m : Moment l allowed w (v.act l a) n made,
            m.before.log = w.log ++ earlier ∧ m.before.now = t := by
        intro rest same
        obtain ⟨m, log, time⟩ := ih same
        exact ⟨{ m with onward := .act m.onward ok }, log, time⟩
      have step := act_step (l := l) (w := v) a
      revert step extended same
      generalize v.act l a = v'
      intro same extended step
      cases step with
      | wait | nothing => exact extended same
      | begun o new =>
          rcases append_singleton_cases same with ⟨_, _, other⟩ | ⟨rest', _, sofar⟩
          · cases other
          · exact extended sofar
      | changed account change =>
          rcases append_singleton_cases same with ⟨_, _, other⟩ | ⟨rest', _, sofar⟩
          · cases other
          · exact extended sofar
      | @called n' fault o c next coming =>
          rcases append_singleton_cases same with ⟨_, log, now⟩ | ⟨rest', _, sofar⟩
          · cases now
            exact ⟨⟨v, fault, o, next, before, ok, coming, rfl, .refl _⟩, log, rfl⟩
          · exact extended sofar

theorem Reaches.moment {later : List Event} {t : Instant} {n : Nat} {made : Made}
    (r : Reaches l allowed w v) (same : v.log = w.log ++ later)
    (h : Event.called t n made ∈ later) : Nonempty (Moment l allowed w v n made) := by
  obtain ⟨earlier, rest, rfl⟩ := List.append_of_mem h
  obtain ⟨m, _⟩ := r.moment_at (same.trans (List.append_assoc _ _ _).symm)
  exact ⟨m⟩

/-- A call of a run that began with an empty log was made at its time. -/
theorem Reaches.moment_of_mem {t : Instant} {n : Nat} {made : Made} (r : Reaches l allowed w v)
    (new : w.log = []) (called : Event.called t n made ∈ v.log) :
    ∃ m : Moment l allowed w v n made, m.before.now = t := by
  obtain ⟨earlier, rest, whole⟩ := List.append_of_mem called
  obtain ⟨m, _, time⟩ := r.moment_at (w := w) (by rw [new, List.nil_append, whole])
  exact ⟨m, time⟩

end Traffic

end RequestGuard
