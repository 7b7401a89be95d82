import RequestGuard.Proofs.Store.Durable
import RequestGuard.Proofs.Store.Turn

/-!
# What a rewritten snapshot contains

A mutation that succeeds has put a new snapshot in place, and its text holds the entries in
memory, all of them and nothing else. So the snapshot is as free of expired entries as memory is.
An insertion drops them first. An increment does not: what expired since the store was opened or
an entry was added last goes into the new snapshot as it stood.
-/

namespace RequestGuard

namespace DurableStore

variable {r : Route} {text : List Char} {fault : Option WriteFault} {s s' : DurableStore}
  {d d' : Disk} {now : Instant} {key : String} {value : SignedWord} {ttl : Span}

/-- The snapshot of a store is the text of the entries in memory, from which the same entries
are read. -/
def Rewritten (s : DurableStore) (d : Disk) : Prop :=
  ∃ text, Snapshot.written? s.entries = some text ∧
    d.find? s.location = some (.file (text.map some)) ∧
      Snapshot.parse (text.map some) = .ok s.entries

/-- A text that was put in place is found there. -/
theorem replace_ok (h : replace r text fault d = (.ok (), d')) :
    d.SameFolders d' ∧ d'.find? r = some (.file (text.map some)) := by
  unfold replace at h
  split at h
  · cases h
  · rename_i d₁ created
    obtain ⟨p, resolved, _, made⟩ := Disk.create_ok (orFail_eq_ok created)
    have written : Disk.Wrote p (text.map some) d (d₁.fill r.draft (text.map some)) :=
      made.fill resolved
    split at h
    · cases h
    · dsimp only at h
      split at h
      · cases h
      · split at h
        · cases h
        · rename_i d₂ moved
          cases h
          obtain ⟨folders, there⟩ := Disk.rename_found (orFail_eq_ok moved)
            (written.resolve resolved) written.there
          exact ⟨written.folders.trans folders, there⟩

theorem persist_ok (h : s.persist fault d = (.ok (), d')) :
    d.SameFolders d' ∧ s.Rewritten d' := by
  unfold persist at h
  split at h
  · cases h
  · rename_i text written
    split at h
    · cases h
    · obtain ⟨folders, there⟩ := replace_ok h
      exact ⟨folders, text, written, there, Snapshot.parse_written? written⟩

theorem commit_ok {α : Type} {answer answer' : α}
    (h : s.commit answer fault d = (.ok answer', s', d')) :
    answer' = answer ∧ s' = s ∧ s.Rewritten d' := by
  unfold commit at h
  cases persisted : s.persist fault d with
  | mk outcome d₁ =>
      rw [persisted] at h
      cases outcome with
      | error e => cases h
      | ok =>
          cases h
          exact ⟨rfl, rfl, (persist_ok persisted).2⟩

/-- A store to which an entry was added holds nothing that has expired. -/
theorem isLive_of_add {e e' : Entry} {k : String} (positive : ttl.Positive)
    (new : Entry.new? value now ttl = some e)
    (got : (s.add now key e).entries.get? k = some e') : e'.isLive now = true := by
  simp only [add, Table.get?_insert] at got
  split at got
  · cases got
    obtain ⟨t, ends, rfl⟩ := Store.new?_eq_some new
    have later : t.nanos = now.nanos + ttl.nanos := Instant.add?_eq_some ends
    rw [Span.positive_iff] at positive
    rw [Entry.isLive_iff, Instant.lt_iff]
    show now.nanos < t.nanos
    omega
  · rw [Entries.purge, Table.get?_filter, Option.filter_eq_some_iff] at got
    exact got.2

theorem insert_ok (h : s.insert now key value ttl fault d = (some (.ok ()), s', d')) :
    ∃ e, ttl.Positive ∧ Entry.new? value now ttl = some e ∧ s' = s.add now key e ∧
      s'.Rewritten d' := by
  unfold insert at h
  split at h
  · rename_i positive
    split at h
    · cases h
    · rename_i e new
      simp only [Prod.mk.injEq, Option.some.injEq] at h
      obtain ⟨_, rfl, written⟩ := commit_ok (Prod.ext h.1 (Prod.ext h.2.1 h.2.2))
      exact ⟨e, positive, new, rfl, written⟩
  · cases h

theorem insertIfAbsent_ok
    (h : s.insertIfAbsent now key value ttl fault d = (some (.ok true), s', d')) :
    ∃ e, ttl.Positive ∧ Entry.new? value now ttl = some e ∧ s' = s.add now key e ∧
      s'.Rewritten d' := by
  unfold insertIfAbsent at h
  split at h
  · rename_i positive
    split at h
    · cases h
    · split at h
      · cases h
      · rename_i e new
        simp only [Prod.mk.injEq, Option.some.injEq] at h
        obtain ⟨_, rfl, written⟩ := commit_ok (Prod.ext h.1 (Prod.ext h.2.1 h.2.2))
        exact ⟨e, positive, new, rfl, written⟩
  · cases h

theorem increment_ok {count : SignedWord}
    (h : s.increment now key fault d = (.ok (some count), s', d')) :
    ∃ e, s.entries.live? now key = some e ∧
      s' = { s with entries := s.entries.insert key { e with value := count } } ∧
        s'.Rewritten d' := by
  unfold increment at h
  split at h
  · cases h
  · rename_i e live
    split at h
    · cases h
    · obtain ⟨same, rfl, written⟩ := commit_ok h
      cases same
      exact ⟨e, live, rfl, written⟩

/-- An increment changes no entry that has expired, and adds none. -/
theorem expired_of_increment {e : Entry} {count : SignedWord}
    (live : s.entries.live? now key = some e) {k : String} {e' : Entry}
    (expired : e'.isLive now = false) :
    (s.entries.insert key { e with value := count }).get? k = some e' ↔
      s.entries.get? k = some e' := by
  rw [Table.get?_insert]
  split
  · rename_i same
    subst same
    obtain ⟨got, lives⟩ := Entries.live?_eq_some_iff.mp live
    rw [← Entry.isLive_iff] at lives
    constructor
    · rintro ⟨⟩
      exact absurd (expired.symm.trans lives) Bool.false_ne_true
    · intro got'
      rw [got] at got'
      cases got'
      exact absurd (expired.symm.trans lives) Bool.false_ne_true
  · exact Iff.rfl

/-- A mutation that succeeds leaves a snapshot that holds all the entries in memory and nothing
else. After an insertion of either kind all of them are alive. After an increment those that have
expired are the ones that had done so in memory before it. -/
theorem rewritten_by_mutations (s s' : DurableStore) (d d' : Disk) (now : Instant)
    (fault : Option WriteFault) (key : String) (value : SignedWord) (ttl : Span) :
    (s.insert now key value ttl fault d = (some (.ok ()), s', d') →
      s'.location = s.location ∧ s'.Rewritten d' ∧
        ∀ k e, s'.entries.get? k = some e → e.isLive now = true) ∧
    (s.insertIfAbsent now key value ttl fault d = (some (.ok true), s', d') →
      s'.location = s.location ∧ s'.Rewritten d' ∧
        ∀ k e, s'.entries.get? k = some e → e.isLive now = true) ∧
    ∀ count, s.increment now key fault d = (.ok (some count), s', d') →
      s'.location = s.location ∧ s'.Rewritten d' ∧
        ∀ k e, e.isLive now = false → (s'.entries.get? k = some e ↔ s.entries.get? k = some e) := by
  refine ⟨fun done => ?_, fun done => ?_, fun count done => ?_⟩
  · obtain ⟨e, positive, new, rfl, written⟩ := insert_ok done
    exact ⟨rfl, written, fun k e' got => isLive_of_add positive new got⟩
  · obtain ⟨e, positive, new, rfl, written⟩ := insertIfAbsent_ok done
    exact ⟨rfl, written, fun k e' got => isLive_of_add positive new got⟩
  · obtain ⟨e, live, rfl, written⟩ := increment_ok done
    exact ⟨rfl, written, fun k e' expired => expired_of_increment live expired⟩

/-- A store with an entry up to second 10 and another up to second 100, and its disk. -/
def agingStore : DurableStore :=
  ⟨["ledger.json"], (Table.empty.insert "a" ⟨1, .utc (.ofSeconds 10)⟩).insert "b"
    ⟨1, .utc (.ofSeconds 100)⟩⟩

def agingDisk : Disk := (agingStore.persist none (.empty "disk")).2

/-- At second 20 both insertions drop the entry that has expired, and an increment keeps it. -/
theorem rewritten_at_twenty : ∃ s₁ d₁ s₂ d₂ s₃ d₃,
    agingStore.insert (.ofSeconds 20) "c" 1 (.ofSeconds 60) none agingDisk =
      (some (.ok ()), s₁, d₁) ∧ s₁.Rewritten d₁ ∧ s₁.entries.keys = ["b", "c"] ∧
    agingStore.insertIfAbsent (.ofSeconds 20) "a" 1 (.ofSeconds 60) none agingDisk =
      (some (.ok true), s₂, d₂) ∧ s₂.Rewritten d₂ ∧
        (∀ k e, s₂.entries.get? k = some e → e.isLive (.ofSeconds 20) = true) ∧
    agingStore.increment (.ofSeconds 20) "b" none agingDisk = (.ok (some 2), s₃, d₃) ∧
      s₃.Rewritten d₃ ∧ s₃.entries.get? "a" = some ⟨1, .utc (.ofSeconds 10)⟩ := by
  have inserted : agingStore.insert (.ofSeconds 20) "c" 1 (.ofSeconds 60) none agingDisk =
      (some (.ok ()), _, _) := rfl
  have claimed : agingStore.insertIfAbsent (.ofSeconds 20) "a" 1 (.ofSeconds 60) none agingDisk =
      (some (.ok true), _, _) := rfl
  have counted : agingStore.increment (.ofSeconds 20) "b" none agingDisk =
      (.ok (some 2), _, _) := rfl
  have first := (rewritten_by_mutations _ _ _ _ _ _ _ _ _).1 inserted
  have second := (rewritten_by_mutations _ _ _ _ _ _ _ _ _).2.1 claimed
  have third := (rewritten_by_mutations _ _ _ _ _ _ _ 0 ⟨0⟩).2.2 _ counted
  exact ⟨_, _, _, _, _, _, inserted, first.2.1, rfl, claimed, second.2.1, second.2.2, counted,
    third.2.1, (third.2.2 "a" _ rfl).mpr rfl⟩

/-- A snapshot that an increment has just written contains an entry that has expired. -/
theorem expired_in_rewritten_snapshot : ∃ s' d' contents es e,
    agingStore.increment (.ofSeconds 20) "b" none agingDisk = (.ok (some 2), s', d') ∧
    d'.find? ["ledger.json"] = some (.file contents) ∧ Snapshot.parse contents = .ok es ∧
      es.get? "a" = some e ∧ e.isLive (.ofSeconds 20) = false := by
  have counted : agingStore.increment (.ofSeconds 20) "b" none agingDisk =
      (.ok (some 2), _, _) := rfl
  obtain ⟨_, _, _, text, _, there, parsed⟩ := increment_ok counted
  exact ⟨_, _, _, _, _, counted, there, parsed, rfl, rfl⟩

end DurableStore

end RequestGuard
