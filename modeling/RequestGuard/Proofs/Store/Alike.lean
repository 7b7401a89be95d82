import RequestGuard.Proofs.Store.Turn

/-!
# Stores of both kinds side by side

Two tables of entries are alike at a moment when they show the same live entries. What has
expired may stand in one and not in the other, and is never seen again. `Mirrors` relates a
store on disk to a table of entries: the store, and its snapshot, show what the table does,
and the next snapshot can be written.

A call keeps the relation and has the same reply on both sides.
-/

namespace RequestGuard

namespace Entries

variable {now t : Instant} {es es' es'' : Entries} {key : String} {e : Entry}

/-- The tables show the same live entries. -/
def Alike (now : Instant) (es es' : Entries) : Prop :=
  ∀ key, es.live? now key = es'.live? now key

theorem Alike.refl (now : Instant) (es : Entries) : Alike now es es := fun _ => rfl

theorem Alike.symm (h : Alike now es es') : Alike now es' es := fun key => (h key).symm

theorem Alike.trans (h : Alike now es es') (h' : Alike now es' es'') : Alike now es es'' :=
  fun key => (h key).trans (h' key)

/-- Of the live entries some live on. -/
theorem live?_later (later : now ≤ t) (es : Entries) (key : String) :
    es.live? t key = (es.live? now key).filter fun e => e.isLive t := by
  simp only [live?]
  cases es.get? key with
  | none => rfl
  | some e =>
      by_cases alive : e.isLive t = true
      · have sooner : e.isLive now = true := by
          rw [Entry.isLive_iff] at alive ⊢
          exact Instant.lt_of_le_of_lt later alive
        simp [Option.filter, alive, sooner]
      · by_cases sooner : e.isLive now = true
        · simp [Option.filter, alive, sooner]
        · simp [Option.filter, alive, sooner]

theorem Alike.later (h : Alike now es es') (later : now ≤ t) : Alike t es es' := by
  intro key
  rw [live?_later later, live?_later later, h key]

theorem alike_purge (now : Instant) (es : Entries) : Alike now (es.purge now) es :=
  live?_purge es now

theorem Alike.insert (h : Alike now es es') (key : String) (e : Entry) :
    Alike now (es.insert key e) (es'.insert key e) := by
  intro key'
  simp only [live?, Table.get?_insert]
  split
  · rfl
  · exact h key'

theorem Alike.fetch (h : Alike now es es') (key : String) :
    es.fetch now key = es'.fetch now key := by
  rw [Entries.fetch, Entries.fetch, h key]

theorem Writable.empty : Writable .empty := by
  intro key e got
  cases got

theorem Writable.insert (h : es.Writable) (key : String) (last : (e.expiresAt.render?).isSome) :
    Writable (es.insert key e) := by
  intro key' e' got
  rw [Table.get?_insert] at got
  split at got
  · cases got
    exact last
  · exact h key' e' got

/-- What is live can be written if it can on the other side. -/
theorem Alike.writable_purge (h : Alike now es es') (writable : es'.Writable) :
    (es.purge now).Writable := by
  intro key e got
  have live : es.live? now key = some e := by
    rw [purge, Table.get?_filter] at got
    exact got
  rw [h key] at live
  exact writable key e (live?_eq_some_iff.mp live).1

end Entries

/-- From the year zero on, the expiry of a new entry has a text. -/
theorem Entry.render?_new? {value : SignedWord} {now : Instant} {ttl : Span} {e : Entry}
    (year : .yearZero ≤ now) (positive : ttl.Positive) (h : Entry.new? value now ttl = some e) :
    (e.expiresAt.render?).isSome := by
  obtain ⟨t, ends, rfl⟩ := Store.new?_eq_some h
  have last : t ≤ .latest := by
    unfold Instant.add? at ends
    split at ends
    · rename_i inside
      cases ends
      exact inside.2
    · cases ends
  refine Stamp.render?_utc (Int.le_trans year ?_) last
  rw [Instant.add?_eq_some ends]
  rw [Span.positive_iff] at positive
  omega

namespace DurableStore

/-- A store on disk shows what a table of entries does, also when it is opened anew, and can
be written. -/
structure Mirrors (now : Instant) (es : Entries) (s : DurableStore) (d : Disk) : Prop where
  alike : Entries.Alike now es s.entries
  kept : ∃ snapshot, s.kept? d = some snapshot ∧ Entries.Alike now snapshot s.entries
  writable : s.entries.Writable
  folder : d.Prepared s.location.folder
  draft : d.Fits s.location.draft
  file : d.Fits s.location

variable {now t : Instant} {es es' : Entries} {s : DurableStore} {d : Disk} {key : String}
  {e : Entry}

namespace Mirrors

theorem later (h : Mirrors now es s d) (later : now ≤ t) : Mirrors t es s d := by
  obtain ⟨snapshot, kept, alike⟩ := h.kept
  exact ⟨h.alike.later later, ⟨snapshot, kept, alike.later later⟩, h.writable, h.folder, h.draft,
    h.file⟩

/-- Expired entries go from memory. -/
theorem purge (h : Mirrors now es s d) :
    Mirrors now es { s with entries := s.entries.purge now } d := by
  obtain ⟨snapshot, kept, alike⟩ := h.kept
  have fresh := (Entries.alike_purge now s.entries).symm
  exact ⟨h.alike.trans fresh, ⟨snapshot, kept, alike.trans fresh⟩,
    (Entries.Alike.refl now s.entries).writable_purge h.writable, h.folder, h.draft, h.file⟩

/-- Expired entries go from the table. -/
theorem forget (h : Mirrors now es s d) : Mirrors now (es.purge now) s d :=
  { h with alike := (Entries.alike_purge now es).trans h.alike }

/-- A change of entries that can be written comes into the snapshot. -/
theorem commit {α : Type} (h : Mirrors now es s d) (answer : α) {entries : Entries}
    (alike : Entries.Alike now es' entries) (writable : entries.Writable) :
    ∃ d', ({ s with entries := entries } : DurableStore).commit answer none d =
      (.ok answer, { s with entries := entries }, d') ∧
      Mirrors now es' { s with entries := entries } d' := by
  have text := Snapshot.written?_isSome writable
  obtain ⟨d', persisted, folders, kept⟩ :=
    persist_of_fits (s := { s with entries := entries }) text h.draft h.file
  refine ⟨d', ?_, alike, ⟨entries, kept, .refl _ _⟩, writable, h.folder.mono folders.1,
    h.draft.of_sameFolders folders, h.file.of_sameFolders folders⟩
  simp only [DurableStore.commit, persisted]
  rfl

/-- An entry is added on both sides. Those that have expired go on the one only. -/
theorem add {α : Type} (h : Mirrors now es s d) (answer : α) (key : String)
    (last : (e.expiresAt.render?).isSome) :
    ∃ d', (s.add now key e).commit answer none d = (.ok answer, s.add now key e, d') ∧
      Mirrors now (es.insert key e) (s.add now key e) d' := by
  have purged := (Entries.Alike.refl now s.entries).writable_purge h.writable
  have alike : Entries.Alike now es (s.entries.purge now) :=
    h.alike.trans (Entries.alike_purge now s.entries).symm
  exact h.commit answer (alike.insert key e) (purged.insert key last)

/-- A store that is opened anew shows what it did. -/
theorem load (h : Mirrors now es s d) : ∃ s',
    DurableStore.load s.location now d = (.ok s', d) ∧ Mirrors now es s' d := by
  obtain ⟨snapshot, kept, alike⟩ := h.kept
  have fresh := Entries.alike_purge now snapshot
  exact ⟨_, load_of_prepared h.folder kept, h.alike.trans (fresh.trans alike).symm,
    ⟨snapshot, kept, fresh.symm⟩, alike.writable_purge h.writable, h.folder, h.draft, h.file⟩

section Calls

variable {m : VolatileStore} (h : Mirrors now m.entries s d)

include h

theorem insert (year : .yearZero ≤ now) (key : String) (value : SignedWord) (ttl : Span) :
    ∃ s' d', s.insert now key value ttl none d = ((m.insert now key value ttl).1, s', d') ∧
      Mirrors now (m.insert now key value ttl).2.entries s' d' := by
  unfold DurableStore.insert VolatileStore.insert
  by_cases positive : ttl.Positive
  · simp only [if_pos positive]
    cases new : Entry.new? value now ttl with
    | none => exact ⟨s, d, rfl, h⟩
    | some e =>
        obtain ⟨d', done, mirrors⟩ := h.add () key (Entry.render?_new? year positive new)
        exact ⟨s.add now key e, d', by simp only [done], mirrors⟩
  · simp only [if_neg positive]
    exact ⟨s, d, rfl, h⟩

theorem insertIfAbsent (year : .yearZero ≤ now) (key : String) (value : SignedWord) (ttl : Span) :
    ∃ s' d', s.insertIfAbsent now key value ttl none d =
        ((m.insertIfAbsent now key value ttl).1, s', d') ∧
      Mirrors now (m.insertIfAbsent now key value ttl).2.entries s' d' := by
  unfold DurableStore.insertIfAbsent VolatileStore.insertIfAbsent
  by_cases positive : ttl.Positive
  · simp only [if_pos positive, h.alike key]
    cases s.entries.live? now key with
    | some e => exact ⟨s, d, rfl, h⟩
    | none =>
        cases new : Entry.new? value now ttl with
        | none => exact ⟨_, d, rfl, h.purge⟩
        | some e =>
            obtain ⟨d', done, mirrors⟩ := h.add true key (Entry.render?_new? year positive new)
            exact ⟨s.add now key e, d', by simp only [done], mirrors⟩
  · simp only [if_neg positive]
    exact ⟨s, d, rfl, h⟩

theorem increment (key : String) :
    ∃ s' d', s.increment now key none d = ((m.increment now key).1, s', d') ∧
      Mirrors now (m.increment now key).2.entries s' d' := by
  unfold DurableStore.increment VolatileStore.increment
  rw [h.alike key]
  cases live : s.entries.live? now key with
  | none => exact ⟨s, d, rfl, h⟩
  | some e =>
      dsimp only
      cases e.value.succ? with
      | none => exact ⟨s, d, rfl, h⟩
      | some value =>
          have last := h.writable key e (Entries.live?_eq_some_iff.mp live).1
          obtain ⟨d', done, mirrors⟩ := h.commit (some value)
            (h.alike.insert key { e with value := value }) (h.writable.insert key last)
          exact ⟨_, d', done, mirrors⟩

end Calls

end Mirrors

end DurableStore

end RequestGuard
