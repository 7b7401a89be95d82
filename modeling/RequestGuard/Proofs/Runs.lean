import RequestGuard.Proofs.Course
import RequestGuard.Proofs.Reference.Refinement

/-!
# Programs that run as a whole

A program that nobody interrupts makes its calls one after the other, all at one reading of the
clock. So it has a history, as a flight has, and what each of its calls keeps the whole run keeps.
What calls of the gate keep are counters: one that lives up to the expiry of its token stays, and
does not fall. The entries of other tokens stay as they are, but for the expired ones that a store
on disk drops.
-/

namespace RequestGuard

namespace Services

variable {α : Type} {now t : Instant} {fault : Option WriteFault} {s s' : Services} {c : Call}
  {h h' : List Made} {key : String} {value : SignedWord} {ttl : Span}

/-- Performed one after the other, the calls of a history have the replies that it says. -/
inductive Performs (now : Instant) : Services → List Made → Services → Prop
  | nil (s : Services) : Performs now s [] s
  | cons {s s' : Services} {c : Call} {h : List Made}
      (rest : Performs now (s.perform now none c).2 h s') :
      Performs now s (⟨c, (s.perform now none c).1⟩ :: h) s'

namespace Performs

theorem of_cons {made : Made} (run : Performs now s (made :: h) s') :
    (s.perform now none made.call).1 = made.reply ∧
      Performs now (s.perform now none made.call).2 h s' := by
  cases run with
  | cons rest => exact ⟨rfl, rest⟩

theorem eq_of_nil (run : Performs now s [] s') : s' = s := by
  cases run
  rfl

theorem split (run : Performs now s (h ++ h') s') :
    ∃ middle, Performs now s h middle ∧ Performs now middle h' s' := by
  induction h generalizing s with
  | nil => exact ⟨s, .nil s, run⟩
  | cons made h ih =>
      cases run with
      | cons rest =>
          obtain ⟨middle, first, last⟩ := ih rest
          exact ⟨middle, .cons first, last⟩

/-- What each of the calls keeps, all of them keep. -/
theorem keeps {P : Services → Prop} (run : Performs now s h s')
    (each : ∀ made ∈ h, ∀ s, P s → P (s.perform now none made.call).2) (first : P s) : P s' := by
  induction run with
  | nil => exact first
  | cons rest ih =>
      refine ih (fun made member => each made (List.mem_cons_of_mem _ member)) ?_
      exact each _ List.mem_cons_self _ first

end Performs

/-- A program that runs as a whole has made the calls of some history. -/
theorem run_performs (p : Program α) (s : Services) (now : Instant) :
    ∃ h, Performs now s h (s.run now p).2 ∧
      Program.Leads (some p) h ((s.run now p).1.map Program.ended) := by
  induction p generalizing s with
  | pure a => exact ⟨[], .nil s, .stay _⟩
  | fail f => exact ⟨[], .nil s, .stay _⟩
  | call c next ih =>
      cases performed : s.perform now none c with
      | mk reply after =>
        have reply' : (s.perform now none c).1 = reply := congrArg Prod.fst performed
        have after' : (s.perform now none c).2 = after := congrArg Prod.snd performed
        have one : Performs now s [⟨c, reply⟩] after := by
          rw [← reply', ← after']
          exact .cons (.nil _)
        cases reply with
        | none =>
            have lost : s.run now (.call c next) = (none, after) := by
              simp only [run, Program.run, performed]
            rw [lost]
            exact ⟨_, one, .call (.stay _)⟩
        | some r =>
            cases r with
            | error f =>
                rw [run_error performed]
                exact ⟨_, one, .call (.stay _)⟩
            | ok a =>
                obtain ⟨h, calls, leads⟩ := ih a after
                rw [← run_ok performed] at calls leads
                refine ⟨⟨c, some (.ok a)⟩ :: h, ?_, .call leads⟩
                rw [← after'] at calls
                rw [← reply']
                exact .cons calls

/-- A call drops expired entries at most, and those only on disk. Then it may write an entry. -/
theorem perform_entries (s : Services) (now : Instant) (fault : Option WriteFault) (c : Call) :
    ∃ base, (base = s.store.entries ∨
        s.store.isDurable = true ∧ base = s.store.entries.purge now) ∧
      ((s.perform now fault c).2.store.entries = base ∨
        ∃ key e, Entries.Writes now s.store.entries c key e ∧
          (s.perform now fault c).2.store.entries = base.insert key e) := by
  rw [entries_perform]
  exact course_entries _ _ _ _ _

theorem swept_of_dropped {es base : Entries} {durable : Bool}
    (dropped : base = es ∨ durable = true ∧ base = es.purge now) : Entries.Swept now es base :=
  dropped.imp id And.right

theorem outlives_perform (respects : c.Respects key t now)
    (lives : s.store.entries.Outlives key t) :
    (s.perform now fault c).2.store.entries.Outlives key t := by
  obtain ⟨base, dropped, same | ⟨k, e, writes, same⟩⟩ := s.perform_entries now fault c
  · rw [same]
    exact (swept_of_dropped dropped).outlives lives
  · rw [same]
    exact writes.outlives (swept_of_dropped dropped) respects lives

theorem counts_perform {n : Int} (respects : c.Respects key t now) (early : now < t)
    (low : n ≤ blacklistFloor.toInt) (counts : s.store.entries.Counts key t n) :
    (s.perform now fault c).2.store.entries.Counts key t n := by
  obtain ⟨base, dropped, same | ⟨k, e, writes, same⟩⟩ := s.perform_entries now fault c
  · rw [same]
    exact (swept_of_dropped dropped).counts early counts
  · rw [same]
    exact writes.counts (swept_of_dropped dropped) respects early low counts

/-- Under the key stands what stood there. Only on disk it may have been dropped, if it had
expired. -/
def Kept (now : Instant) (key : String) (s s' : Services) : Prop :=
  s'.store.isDurable = s.store.isDurable ∧
    (s'.store.entries.get? key = s.store.entries.get? key ∨
      s.store.isDurable = true ∧ s'.store.entries.get? key = s.store.entries.live? now key)

theorem Kept.refl (s : Services) : Kept now key s s := ⟨rfl, .inl rfl⟩

theorem Kept.trans {s'' : Services} (first : Kept now key s s') (last : Kept now key s' s'') :
    Kept now key s s'' := by
  obtain ⟨kind, shown⟩ := first
  obtain ⟨kind', shown'⟩ := last
  refine ⟨kind'.trans kind, ?_⟩
  obtain same | ⟨durable, live⟩ := shown'
  · rw [same]
    exact shown
  · refine .inr ⟨kind ▸ durable, ?_⟩
    rw [live]
    obtain same | ⟨_, same⟩ := shown
    · rw [Entries.live?, same, Entries.live?]
    · rw [Entries.live?, same, Entries.live?, Option.filter_filter]
      simp

/-- A call about another key, or about none. -/
theorem kept_perform (other : c.key? ≠ some key) : Kept now key s (s.perform now fault c).2 := by
  refine ⟨isDurable_perform c, ?_⟩
  obtain ⟨base, dropped, written⟩ := s.perform_entries now fault c
  have same : (s.perform now fault c).2.store.entries.get? key = base.get? key := by
    obtain same | ⟨k, e, writes, same⟩ := written
    · rw [same]
    · rw [same, Table.get?_insert, if_neg]
      rintro rfl
      exact other writes.key?
  rw [same]
  obtain rfl | ⟨durable, rfl⟩ := dropped
  · exact .inl rfl
  · exact .inr ⟨durable, Table.get?_filter _ _ _⟩

/-- What is persisted with success was persisted. -/
theorem of_persisted {α : Type} {written : Except StoreError Unit} {a b : α}
    (answer : some (reply (written.map fun _ => a)) = some (.ok b)) : a = b := by
  cases written with
  | error e => cases answer
  | ok => exact Except.ok.inj (Option.some.inj answer)

/-- An increment that is answered has found a live counter and moved it on. -/
theorem of_increment
    (answer : (s.perform now fault (.increment key)).1 = some (.ok (some value))) :
    ∃ e, s.store.entries.live? now key = some e ∧ value.toInt = e.value.toInt + 1 ∧
      (s.perform now fault (.increment key)).2.store.entries =
        s.store.entries.insert key { e with value := value } := by
  rw [entries_perform]
  rw [show s.perform now fault (.increment key) = _ from perform_course] at answer
  cases live : s.store.entries.live? now key with
  | none =>
      simp only [course, live] at answer
      cases answer
  | some e =>
      cases next : e.value.succ? with
      | none =>
          simp only [course, live, next] at answer
          cases answer
      | some v =>
          simp only [course, live, next] at answer ⊢
          obtain rfl : v = value := Option.some.inj (of_persisted answer)
          exact ⟨e, rfl, SignedWord.toInt_of_succ? next, rfl⟩

/-- An insert that is answered has written its value. -/
theorem of_insert (answer : (s.perform now fault (.insert key value ttl)).1 = some (.ok ())) :
    ∃ t, now.add? ttl = some t ∧ (s.perform now fault (.insert key value ttl)).2.store.entries.get?
      key = some ⟨value, .utc t⟩ := by
  rw [entries_perform]
  rw [show s.perform now fault (.insert key value ttl) = _ from perform_course] at answer
  by_cases positive : ttl.Positive
  · cases new : Entry.new? value now ttl with
    | none =>
        simp only [course, if_pos positive, new] at answer
        cases answer
    | some e =>
        obtain ⟨t, ends, rfl⟩ := Store.new?_eq_some new
        refine ⟨t, ends, ?_⟩
        simp only [course, if_pos positive, new, Course.entries, Table.get?_insert, if_true]
  · simp only [course, if_neg positive] at answer
    cases answer

end Services

namespace Operation

variable {l : Ledger} {o : Operation} {id : TokenId} {expiry now : Instant} {s : Services}
  {P : Services → Prop}

/-- What every call that an operation may come to keeps, the operation keeps. -/
theorem run_keeps (each : ∀ h c (next : c.Answer → Program o.Answer) s,
      Program.Leads (some (o.program l now)) h (some (.call c next)) → P s →
        P (s.perform now none c).2) (first : P s) : P (s.run now (o.program l now)).2 := by
  obtain ⟨h, calls, leads⟩ := Services.run_performs (o.program l now) s now
  refine calls.keeps ?_ first
  intro made member s before
  obtain ⟨earlier, later, rfl⟩ := List.append_of_mem member
  obtain ⟨next, leads, _⟩ := leads.split
  exact each earlier made.call next s leads before

theorem run_outlives (shares : o.tokenId = id → o.Presents expiry)
    (lives : s.store.entries.Outlives (l.key id) expiry) :
    (s.run now (o.program l now)).2.store.entries.Outlives (l.key id) expiry := by
  refine run_keeps (P := fun s => s.store.entries.Outlives (l.key id) expiry) ?_ lives
  intro h c next s leads lives
  refine Services.outlives_perform ?_ lives
  by_cases own : o.tokenId = id
  · subst own
    exact call_respects leads (shares rfl) (Int.le_refl _)
  · refine Call.respects_of_key? fun about => own ?_
    exact (l.key_injective (call_key leads about)).symm

theorem run_counts (presents : o.Presents expiry) (early : now < expiry)
    (counts : s.store.entries.Counts (l.key o.tokenId) expiry 2) :
    (s.run now (o.program l now)).2.store.entries.Counts (l.key o.tokenId) expiry 2 :=
  run_keeps (P := fun s => s.store.entries.Counts (l.key o.tokenId) expiry 2)
    (fun _ _ _ _ leads => Services.counts_perform (call_respects leads presents (Int.le_refl _))
      early (by decide)) counts

theorem run_elsewhere (other : o.tokenId ≠ id) :
    Services.Kept now (l.key id) s (s.run now (o.program l now)).2 := by
  refine run_keeps (P := Services.Kept now (l.key id) s) ?_ (.refl s)
  intro h c next s' leads kept
  refine kept.trans (Services.kept_perform fun about => other ?_)
  exact (l.key_injective (call_key leads about)).symm

/-- An expired token makes no calls. -/
theorem run_late (presents : o.Presents expiry) (late : expiry ≤ now) :
    (s.run now (o.program l now)).2 = s := by
  cases o with
  | refresh c =>
      cases presents
      simp only [program, Exchange.decide, (c.remaining?_eq_none_iff now).mpr late]
      rfl
  | logout c =>
      cases presents
      simp only [program, Ledger.logout, (c.remaining?_eq_none_iff now).mpr late]
      rfl
  | ledger => cases presents

end Operation

end RequestGuard
