import RequestGuard.Proofs.Course
import RequestGuard.Proofs.Ledger.Lifecycle

/-!
# The calls of a ledger

What a call of a ledger does to the life of its token, over a store in memory. The entry under
the key of the token stands for the life, and may have run out. A call replies by what is seen
of the life and leaves an entry that stands for what becomes of it.

Most calls settle their operation: they bring it to the answer that it has by the life of its
token at that moment. Only a check of an unseen token goes on. `recordUse` is what it does then,
and `judgeAgain` what is left of it if another operation was faster.
-/

namespace RequestGuard

namespace Ledger

variable {l : Ledger} {id : TokenId} {ttl : Span}

/-- The last step of a check: to judge the counter that another operation has written. -/
def judgeAgain (l : Ledger) (id : TokenId) : Program UseCount :=
  .call (.fetch (l.key id)) fun value => .ofStore (judge (l.key id) (value.getD 1))

/-- What a check does that has found no counter. -/
def recordUse (l : Ledger) (id : TokenId) (ttl : Span) : Program UseCount :=
  .call (.insertIfAbsent (l.key id) 1 ttl) fun
    | true => .pure .fresh
    | false => l.judgeAgain id

theorem checkUseCount_eq : l.checkUseCount id ttl = .call (.fetch (l.key id)) fun
    | some value => .ofStore (judge (l.key id) value)
    | none => l.recordUse id ttl := by
  refine congrArg (Program.call (.fetch (l.key id))) (funext fun value => ?_)
  cases value with
  | some value => rfl
  | none =>
      refine congrArg (Program.call (.insertIfAbsent (l.key id) 1 ttl)) (funext fun written => ?_)
      cases written with
      | true => rfl
      | false => rfl

end Ledger

namespace Services

variable {s : Services} {c : Call}

/-- Over a store in memory a call is its course. -/
theorem reply_of_memory (memory : s.store.isDurable = false) (now : Instant)
    (fault : Option WriteFault) (c : Call) : (s.perform now fault c).1 =
      (course false now s.store.entries s.directory c).replyBy (.ok ()) := by
  obtain ⟨store, directory⟩ := s
  rw [perform_course]
  cases store with
  | durable => cases memory
  | volatile m =>
      show (Course.finish _ _ _ (course false now m.entries directory c)).1 =
        Course.replyBy _ (course false now m.entries directory c)
      cases course false now m.entries directory c with
      | settled reply es directory => rfl
      | persist es answer => rfl

theorem entries_of_memory (memory : s.store.isDurable = false) (now : Instant)
    (fault : Option WriteFault) (c : Call) : (s.perform now fault c).2.store.entries =
      (course false now s.store.entries s.directory c).entries := by
  rw [entries_perform, memory]

/-- A call about another key leaves the entry under a key. -/
theorem get?_of_elsewhere (memory : s.store.isDurable = false) (now : Instant)
    (fault : Option WriteFault) {key : String} (elsewhere : c.Elsewhere key) :
    (s.perform now fault c).2.store.entries.get? key = s.store.entries.get? key := by
  have kept : (course false now s.store.entries s.directory c).entries.shown false now key =
      s.store.entries.shown false now key := course_elsewhere elsewhere
  rw [entries_of_memory memory]
  exact kept

end Services

namespace Life

open Services

variable {l : Ledger} {id : TokenId} {now : Instant} {life : Life} {p : Phase} {marks : Nat}
  {es : Entries} {d : Directory} {key : String} {ttl : Span}

theorem live?_of_seen (stands : es.get? key = life.map entry) (seen : life.seen now = some p) :
    ∃ ends, life = some (p, ends) ∧ es.live? now key = some (entry (p, ends)) := by
  obtain ⟨ends, rfl, early⟩ := seen_eq_some_iff.mp seen
  exact ⟨ends, rfl, Entries.live?_eq_some_iff.mpr ⟨stands, early⟩⟩

theorem live?_of_unseen (stands : es.get? key = life.map entry) (unseen : life.seen now = none) :
    es.live? now key = none := by
  refine Option.eq_none_iff_forall_ne_some.mpr fun e live => ?_
  obtain ⟨got, lives⟩ := Entries.live?_eq_some_iff.mp live
  rw [stands] at got
  obtain ⟨⟨p, ends⟩, rfl, rfl⟩ := Option.map_eq_some_iff.mp got
  exact Instant.not_lt.mpr (seen_eq_none_iff.mp unseen p ends rfl) lives

theorem within_of_seen (within : ∀ p ends, life = some (p, ends) → p.Within marks)
    (seen : life.seen now = some p) : p.Within marks := by
  obtain ⟨ends, same, _⟩ := seen_eq_some_iff.mp seen
  exact within p ends same

/-- A fetch replies by the phase that is seen. -/
theorem course_fetch (stands : es.get? key = life.map entry) :
    course false now es d (.fetch key) =
      .settled (some (.ok ((life.seen now).map Phase.counter))) es d := by
  simp only [course, Entries.fetch]
  cases seen : life.seen now with
  | none =>
      rw [live?_of_unseen stands seen]
      rfl
  | some p =>
      obtain ⟨ends, _, live⟩ := live?_of_seen stands seen
      rw [live]
      rfl

/-- An unseen token is recorded, unless its lifetime would end beyond the calendar. -/
theorem course_record (stands : es.get? key = life.map entry) (unseen : life.seen now = none)
    (positive : ttl.Positive) :
    course false now es d (.insertIfAbsent key 1 ttl) = .settled none es d ∨
      ∃ es', es'.get? key = (life.record now ttl).map entry ∧
        course false now es d (.insertIfAbsent key 1 ttl) = .persist es' true := by
  simp only [course, if_pos positive, live?_of_unseen stands unseen]
  cases new : Entry.new? 1 now ttl with
  | none => exact .inl rfl
  | some e =>
      obtain ⟨t, ends, rfl⟩ := Store.new?_eq_some new
      refine .inr ⟨_, ?_, rfl⟩
      have same : t = ⟨now.nanos + ttl.nanos⟩ := congrArg Instant.mk (Instant.add?_eq_some ends)
      rw [Table.get?_insert, if_pos rfl, record, unseen, same]
      rfl

/-- A token that is seen keeps its life. -/
theorem course_record_seen (stands : es.get? key = life.map entry) (seen : life.seen now = some p)
    (positive : ttl.Positive) :
    course false now es d (.insertIfAbsent key 1 ttl) = .settled (some (.ok false)) es d := by
  obtain ⟨ends, _, live⟩ := live?_of_seen stands seen
  simp only [course, if_pos positive, live]

theorem course_record_refused (es : Entries) (d : Directory) (now : Instant) (key : String)
    (refused : ¬ ttl.Positive) : course false now es d (.insertIfAbsent key 1 ttl) =
      .settled (some (.error (.storage (Entries.refuse key)))) es d := by
  simp only [course, if_neg refused]

/-- Blacklisting does not depend on the life so far. -/
theorem course_blacklist (es : Entries) (d : Directory) (now : Instant) (key : String)
    (positive : ttl.Positive) :
    course false now es d (.insert key blacklistFloor ttl) = .settled none es d ∨
      ∃ es', es'.get? key = some (entry (.blacklisted 0, ⟨now.nanos + ttl.nanos⟩)) ∧
        course false now es d (.insert key blacklistFloor ttl) = .persist es' () := by
  simp only [course, if_pos positive]
  cases new : Entry.new? blacklistFloor now ttl with
  | none => exact .inl rfl
  | some e =>
      obtain ⟨t, ends, rfl⟩ := Store.new?_eq_some new
      refine .inr ⟨_, ?_, rfl⟩
      have same : t = ⟨now.nanos + ttl.nanos⟩ := congrArg Instant.mk (Instant.add?_eq_some ends)
      rw [Table.get?_insert, if_pos rfl, entry, Phase.counter_blacklisted, same]

theorem course_increment {e : Entry} {value : SignedWord} (live : es.live? now key = some e)
    (next : e.value.succ? = some value) : course false now es d (.increment key) =
      .persist (es.insert key { e with value := value }) (some value) := by
  simp only [course, live, next]

/-- A mark moves the counter of a token that is seen, and keeps the end of its lifetime. -/
theorem course_mark (stands : es.get? key = life.map entry)
    (within : ∀ p ends, life = some (p, ends) → p.Within marks) (few : marks < 0xfffffffe)
    (seen : life.seen now = some p) : ∃ es',
      es'.get? key = (life.map fun x => (x.1.mark, x.2)).map entry ∧
      course false now es d (.increment key) = .persist es' (some p.mark.counter) := by
  obtain ⟨ends, rfl, live⟩ := live?_of_seen stands seen
  have next : p.counter.succ? = some p.mark.counter :=
    Phase.succ?_counter (within p ends rfl) (Nat.lt_trans few (by decide))
  refine ⟨es.insert key (entry (p.mark, ends)), ?_, course_increment live next⟩
  rw [Table.get?_insert, if_pos rfl]
  rfl

theorem course_mark_unseen (stands : es.get? key = life.map entry)
    (unseen : life.seen now = none) :
    course false now es d (.increment key) = .settled (some (.ok none)) es d := by
  simp only [course, live?_of_unseen stands unseen]

/-- The course of a call settles an operation that goes on from its reply: the operation has its
answer, and an entry stands for what it has made of the life. Or it is lost and has made nothing
of it. -/
def Settles (l : Ledger) (id : TokenId) (now : Instant) (life : Life) (step : Scenario.LedgerStep)
    {c : Call} (course : Course c) (next : c.Answer → Program (Operation.ledger id step).Answer) :
    Prop :=
  (Program.resume next (course.replyBy (.ok ())) = none ∧
      course.entries.get? (l.key id) = life.map entry) ∨
    (Program.resume next (course.replyBy (.ok ())) =
        some (.ended (life.apply l id now step).1) ∧
      course.entries.get? (l.key id) = (life.apply l id now step).2.map entry)

/-- An operation that is lost leaves the life. -/
theorem settles_lost {step : Scenario.LedgerStep} {c : Call}
    {next : c.Answer → Program (Operation.ledger id step).Answer} {course' : Course c}
    (stands : es.get? (l.key id) = life.map entry) (course : course' = .settled none es d) :
    Settles l id now life step course' next := by
  subst course
  exact .inl ⟨rfl, stands⟩

section Settles

variable (stands : es.get? (l.key id) = life.map entry)
  (within : ∀ p ends, life = some (p, ends) → p.Within marks) (few : marks < 0xfffffffe)

include stands

theorem settles_recordFirstUse : Settles l id now life (.recordFirstUse ttl)
    (course false now es d (.insertIfAbsent (l.key id) 1 ttl)) fun _ => .pure () := by
  by_cases positive : ttl.Positive
  · cases seen : life.seen now with
    | some p =>
        rw [course_record_seen stands seen positive]
        refine .inr ?_
        simp only [apply, if_pos positive, record, seen]
        exact ⟨rfl, stands⟩
    | none =>
        obtain lost | ⟨es', after, course⟩ := course_record (d := d) stands seen positive
        · exact settles_lost stands lost
        · rw [course]
          refine .inr ?_
          simp only [apply, if_pos positive]
          exact ⟨rfl, after⟩
  · rw [course_record_refused es d now (l.key id) positive]
    refine .inr ?_
    simp only [apply, if_neg positive]
    exact ⟨rfl, stands⟩

theorem settles_recordUse (unseen : life.seen now = none) (positive : ttl.Positive) :
    Settles l id now life (.checkUseCount ttl)
      (course false now es d (.insertIfAbsent (l.key id) 1 ttl)) fun
        | true => .pure .fresh
        | false => l.judgeAgain id := by
  obtain lost | ⟨es', after, course⟩ := course_record (d := d) stands unseen positive
  · exact settles_lost stands lost
  · rw [course]
    refine .inr ?_
    simp only [apply, unseen, if_pos positive]
    exact ⟨rfl, after⟩

theorem settles_invalidate : Settles l id now life (.invalidate ttl)
    (course false now es d (.insert (l.key id) blacklistFloor ttl)) fun _ => .pure () := by
  by_cases positive : ttl.Positive
  · obtain lost | ⟨es', after, course⟩ := course_blacklist es d now (l.key id) positive
    · exact settles_lost stands lost
    · rw [course]
      refine .inr ?_
      simp only [apply, if_pos positive]
      exact ⟨rfl, after⟩
  · refine .inr ?_
    simp only [course, apply, if_neg positive]
    exact ⟨rfl, stands⟩

include within few

/-- A check of a token that is seen judges its phase, at its first call or its last. -/
theorem settles_judge (seen : life.seen now = some p)
    {next : Option SignedWord → Program UseCount}
    (judges : ∀ value, next (some value) = .ofStore (Ledger.judge (l.key id) value)) :
    Settles l id now life (.checkUseCount ttl)
      (course false now es d (.fetch (l.key id))) next := by
  rw [course_fetch stands, seen]
  refine .inr ?_
  have judged := Phase.judge_counter (l.key id) (within_of_seen within seen)
    (Nat.lt_trans few (by decide))
  have next : next (some p.counter) = .ofStore (.ok p.useCount) := by rw [judges, judged]
  simp only [apply, seen]
  exact ⟨congrArg some next, stands⟩

theorem settles_markUsed : Settles l id now life .markUsed
    (course false now es d (.increment (l.key id)))
    fun uses => .ofStore (Ledger.marked (l.key id) uses) := by
  cases seen : life.seen now with
  | none =>
      rw [course_mark_unseen stands seen]
      refine .inr ?_
      simp only [apply, seen]
      exact ⟨rfl, stands⟩
  | some p =>
      obtain ⟨es', after, course⟩ := course_mark (d := d) stands within few seen
      have marked := Phase.marked_counter (l.key id) (within_of_seen within seen).mark
        (Nat.succ_lt_succ few)
      rw [course]
      refine .inr ?_
      simp only [apply, seen]
      exact ⟨congrArg (fun r => some (Program.ofStore r)) marked, after⟩

theorem settles_checkBlacklist : Settles l id now life .checkBlacklist
    (course false now es d (.fetch (l.key id))) fun value => .pure (Ledger.listed value) := by
  rw [course_fetch stands]
  refine .inr ?_
  cases seen : life.seen now with
  | none =>
      simp only [apply, seen]
      exact ⟨rfl, stands⟩
  | some p =>
      have listed := Phase.listed_counter (within_of_seen within seen)
        (Nat.lt_trans few (by decide))
      simp only [apply, seen]
      exact ⟨congrArg (fun status => some (Program.pure status)) listed, stands⟩

theorem settles_state : Settles l id now life .state
    (course false now es d (.fetch (l.key id)))
    fun value => .ofStore (Ledger.standing (l.key id) value) := by
  rw [course_fetch stands]
  refine .inr ?_
  cases seen : life.seen now with
  | none =>
      simp only [apply, seen]
      exact ⟨rfl, stands⟩
  | some p =>
      have state := Phase.interpret_counter (l.key id) (within_of_seen within seen)
        (Nat.lt_trans few (by decide))
      simp only [apply, seen]
      exact ⟨congrArg (fun r => some (Program.ofStore r)) state, stands⟩

/-- The first call of an operation settles it, unless a check finds its token unseen. -/
theorem settles_first {step : Scenario.LedgerStep} {c : Call}
    {next : c.Answer → Program (Operation.ledger id step).Answer} {t : Instant}
    (program : (Operation.ledger id step).program l t = .call c next)
    (found : ∀ ttl, step = .checkUseCount ttl → life.seen now ≠ none) :
    Settles l id now life step (course false now es d c) next := by
  cases step with
  | recordFirstUse ttl =>
      cases program
      exact settles_recordFirstUse stands
  | checkUseCount ttl =>
      replace program : l.checkUseCount id ttl = .call c next := program
      rw [Ledger.checkUseCount_eq] at program
      cases program
      obtain ⟨p, seen⟩ := Option.ne_none_iff_exists'.mp (found ttl rfl)
      exact settles_judge stands within few seen fun _ => rfl
  | invalidate ttl =>
      cases program
      exact settles_invalidate stands
  | markUsed =>
      cases program
      exact settles_markUsed stands within few
  | checkBlacklist =>
      cases program
      exact settles_checkBlacklist stands within few
  | state =>
      cases program
      exact settles_state stands within few

end Settles

end Life

end RequestGuard
