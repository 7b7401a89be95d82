import RequestGuard.Proofs.Traffic.Sound

/-!
# Accounts along the log

Without restarts, the directory of a gate is what the log has made of the one that it began
with. So the log alone says what an account was at each of its moments: `Directory.replay`
reads it off, and a call that asks about an account has been answered by it.

An account once registered stays registered. It is locked by locks only, and gets another
version only by a registration or a change of its credentials.
-/

namespace RequestGuard

namespace Directory

def meet (d : Directory) : Event → Directory
  | .changed _ account change => d.change account change
  | .called _ _ ⟨.lock account, _⟩ => (d.lock account).2
  | .called _ _ _ | .begun _ _ _ => d

def replay (d : Directory) (log : List Event) : Directory := log.foldl meet d

theorem replay_append (d : Directory) (log later : List Event) :
    d.replay (log ++ later) = (d.replay log).replay later := List.foldl_append

/-- What each of some events keeps, all of them keep. -/
theorem replay_keeps {P : Directory → Prop} {log : List Event}
    (keeps : ∀ d, ∀ event ∈ log, P d → P (d.meet event)) {d : Directory} (h : P d) :
    P (d.replay log) := by
  induction log generalizing d with
  | nil => exact h
  | cons event log ih =>
      have first : P (d.meet event) := keeps d event List.mem_cons_self h
      exact ih (fun d event member => keeps d event (List.mem_cons_of_mem _ member)) first

end Directory

inductive Event.Locks (account : AccountId) : Event → Prop
  | call (t : Instant) (n : Nat) (reply : Option (Call.lock account).Reply) :
      Locks account (.called t n ⟨.lock account, reply⟩)
  | change (t : Instant) : Locks account (.changed t account .lock)

inductive Event.Renews (account : AccountId) : Event → Prop
  | register (t : Instant) (version : Version) :
      Renews account (.changed t account (.register version))
  | bump (t : Instant) : Renews account (.changed t account .bump)

namespace Directory

variable {d : Directory} {account : AccountId} {event : Event} {log : List Event}

/-- What an event makes of the record of an account. -/
theorem record?_meet (d : Directory) (account : AccountId) (event : Event) :
    (d.meet event).record? account = d.record? account ∨
      (event.Locks account ∧ (d.meet event).record? account = (d.record? account).map fun r =>
        { r with locked := true, lockRequests := r.lockRequests + 1 }) ∨
      (event.Renews account ∧
        ∃ version, (d.meet event).record? account = some ⟨version, false, 0⟩) ∨
      (event.Renews account ∧ (d.meet event).record? account = (d.record? account).map fun r =>
        { r with version := r.version.next, locked := false }) := by
  have locked : ∀ other, other = account → ((d.lock other).2).record? account =
      (d.record? account).map fun r =>
        { r with locked := true, lockRequests := r.lockRequests + 1 } := by
    intro other same
    subst same
    rw [record?_lock, if_pos rfl]
  cases event with
  | begun => exact .inl rfl
  | called t n made =>
      obtain ⟨c, reply⟩ := made
      cases c with
      | lock other =>
          by_cases same : other = account
          · subst same
            exact .inr (.inl ⟨.call t n reply, locked other rfl⟩)
          · exact .inl ((record?_lock d other account).trans (if_neg same))
      | fetch | insert | insertIfAbsent | increment | currentVersion | isLocked => exact .inl rfl
  | changed t other change =>
      by_cases same : other = account
      · subst same
        cases change with
        | lock => exact .inr (.inl ⟨.change t, locked other rfl⟩)
        | register version =>
            refine .inr (.inr (.inl ⟨.register t version, version, ?_⟩))
            exact (record?_register d other other version).trans (if_pos rfl)
        | bump =>
            refine .inr (.inr (.inr ⟨.bump t, ?_⟩))
            exact (record?_bump d other other).trans (if_pos rfl)
      · refine .inl ?_
        cases change with
        | lock => exact (record?_lock d other account).trans (if_neg same)
        | register version => exact (record?_register d other account version).trans (if_neg same)
        | bump => exact (record?_bump d other account).trans (if_neg same)

theorem isLocked_meet (other : ¬ event.Locks account) (h : d.isLocked account = false) :
    (d.meet event).isLocked account = false := by
  simp only [isLocked] at h ⊢
  rcases d.record?_meet account event with same | ⟨locks, _⟩ | ⟨_, version, same⟩ | ⟨_, same⟩
  · rw [same]
    exact h
  · exact absurd locks other
  · rw [same]
  · rw [same]
    cases d.record? account <;> rfl

theorem currentVersion_meet (other : ¬ event.Renews account) :
    (d.meet event).currentVersion account = d.currentVersion account := by
  simp only [currentVersion]
  rcases d.record?_meet account event with same | ⟨_, same⟩ | ⟨renews, _⟩ | ⟨renews, _⟩
  · rw [same]
  · rw [same]
    cases d.record? account <;> rfl
  · exact absurd renews other
  · exact absurd renews other

theorem registered_meet (event : Event) (h : (d.record? account).isSome) :
    ((d.meet event).record? account).isSome := by
  rcases d.record?_meet account event with same | ⟨_, same⟩ | ⟨_, version, same⟩ | ⟨_, same⟩
  · rw [same]
    exact h
  · rw [same, Option.isSome_map]
    exact h
  · rw [same]
    rfl
  · rw [same, Option.isSome_map]
    exact h

/-- An account is locked by locks only. -/
theorem locks_of_replay (unlocked : d.isLocked account = false)
    (locked : (d.replay log).isLocked account = true) : ∃ event ∈ log, event.Locks account := by
  apply Classical.byContradiction
  intro none
  have still : (d.replay log).isLocked account = false :=
    replay_keeps (P := fun d => d.isLocked account = false)
      (fun _ event member => isLocked_meet fun locks => none ⟨event, member, locks⟩) unlocked
  rw [still] at locked
  cases locked

/-- An account keeps its version until it is given another one. -/
theorem renews_of_replay {version : Version} (before : d.currentVersion account = some version)
    (after : (d.replay log).currentVersion account ≠ some version) :
    ∃ event ∈ log, event.Renews account := by
  apply Classical.byContradiction
  intro none
  have still : (d.replay log).currentVersion account = some version :=
    replay_keeps (P := fun d => d.currentVersion account = some version)
      (fun _ event member same =>
        (currentVersion_meet fun renews => none ⟨event, member, renews⟩).trans same) before
  exact after still

theorem registered_replay (h : (d.record? account).isSome) :
    ((d.replay log).record? account).isSome :=
  replay_keeps (P := fun d => (d.record? account).isSome)
    (fun _ event _ => registered_meet event) h

end Directory

/-- A call leaves the directory that its event does. -/
theorem Services.directory_perform (s : Services) (now t : Instant) (fault : Option WriteFault)
    (n : Nat) (c : Call) (reply : Option c.Reply) :
    (s.perform now fault c).2.directory = s.directory.meet (.called t n ⟨c, reply⟩) := by
  cases c <;> rfl

namespace Traffic

variable {l : Ledger} {allowed : Traffic → Action → Prop} {w v : Traffic}

theorem Step.directory {a : Action} (step : Step l w a v) :
    ∃ later, v.log = w.log ++ later ∧
      v.services.directory = w.services.directory.replay later := by
  cases step with
  | wait | nothing => exact ⟨[], (List.append_nil _).symm, rfl⟩
  | begun o new => exact ⟨_, rfl, rfl⟩
  | changed account change => exact ⟨_, rfl, rfl⟩
  | called coming => exact ⟨_, rfl, w.services.directory_perform _ _ _ _ _ _⟩

/-- Without restarts, the directory is what the log has made of it. -/
theorem Reaches.directory (r : Reaches l allowed w v)
    (volatile : w.services.store.isDurable = false) : ∃ later, v.log = w.log ++ later ∧
      v.services.directory = w.services.directory.replay later := by
  refine r.induct_volatile (P := fun v => ∃ later, v.log = w.log ++ later ∧
    v.services.directory = w.services.directory.replay later) volatile
    ⟨[], (List.append_nil _).symm, rfl⟩ ?_
  rintro u a _ _ ⟨later, log, directory⟩
  obtain ⟨more, log', directory'⟩ := (act_step a).directory
  refine ⟨later ++ more, by rw [log', log, List.append_assoc], ?_⟩
  rw [directory', directory, Directory.replay_append]

/-- A call in the log was performed on the directory that the log before it has made. -/
theorem Reaches.performed {now t : Instant} {m : VolatileStore} {d : Directory}
    {log rest : List Event} {n : Nat} {made : Made}
    (r : Reaches l allowed (start now ⟨.volatile m, d⟩) v)
    (same : v.log = log ++ .called t n made :: rest) :
    ∃ (services : Services) (fault : Option WriteFault), services.directory = d.replay log ∧
      (services.perform t fault made.call).1 = made.reply := by
  obtain ⟨moment, sofar, rfl⟩ := r.moment_at same
  obtain ⟨later, log', directory⟩ := moment.reached.directory rfl
  have whole : later = log := log'.symm.trans sofar
  subst whole
  exact ⟨moment.before.services, moment.fault, directory, moment.reply.symm⟩

end Traffic

end RequestGuard
