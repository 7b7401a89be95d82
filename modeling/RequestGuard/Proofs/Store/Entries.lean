import RequestGuard.Ledger
import RequestGuard.Store.Entries

/-!
# Counters in a table of entries

The stores keep their entries in the same way, but drop expired ones at different times.
`Swept` leaves open whether they were dropped, and `Writes` is the entry that a call of a
store puts into its table.

A counter that lives up to some moment is kept, and does not get smaller, by every call
before that moment that respects it. `Respects` says which calls do so: a write under the
key of the counter must blacklist or begin a count, and must last up to that moment.
-/

namespace RequestGuard

namespace Entries

variable {now t : Instant} {es es' : Entries} {key : String}

/-- The entries as they are, or without those that have expired. -/
def Swept (now : Instant) (es es' : Entries) : Prop := es' = es ∨ es' = es.purge now

/-- The entry that a call of a store puts into its table. -/
inductive Writes (now : Instant) (es : Entries) : Call → String → Entry → Prop
  | insert {key : String} {value : SignedWord} {ttl : Span} {t : Instant}
      (positive : ttl.Positive) (ends : now.add? ttl = some t) :
      Writes now es (.insert key value ttl) key ⟨value, .utc t⟩
  | insertIfAbsent {key : String} {value : SignedWord} {ttl : Span} {t : Instant}
      (positive : ttl.Positive) (absent : es.live? now key = none)
      (ends : now.add? ttl = some t) :
      Writes now es (.insertIfAbsent key value ttl) key ⟨value, .utc t⟩
  | increment {key : String} {e : Entry} {value : SignedWord}
      (live : es.live? now key = some e) (next : e.value.succ? = some value) :
      Writes now es (.increment key) key { e with value := value }

/-- The key has a counter of at least `n` that lives up to `t`. -/
def Counts (key : String) (t : Instant) (n : Int) (es : Entries) : Prop :=
  ∃ e, es.get? key = some e ∧ n ≤ e.value.toInt ∧ t ≤ e.expiresAt.instant

/-- If the key has a counter, it lives up to `t`. -/
def Outlives (key : String) (t : Instant) (es : Entries) : Prop :=
  ∀ e, es.get? key = some e → t ≤ e.expiresAt.instant

theorem live?_eq_some_iff {e : Entry} :
    es.live? now key = some e ↔ es.get? key = some e ∧ now < e.expiresAt.instant := by
  simp [live?, Option.filter_eq_some_iff, Entry.isLive_iff]

theorem Swept.refl : Swept now es es := .inl rfl

theorem Swept.get?_eq (h : Swept now es es') {e : Entry} (got : es'.get? key = some e) :
    es.get? key = some e := by
  rcases h with rfl | rfl
  · exact got
  · simp only [purge, Table.get?_filter, Option.filter_eq_some_iff] at got
    exact got.1

theorem Swept.live?_eq (h : Swept now es es') : es'.live? now key = es.live? now key := by
  rcases h with rfl | rfl
  · rfl
  · exact live?_purge es now key

theorem Swept.outlives (h : Swept now es es') (o : Outlives key t es) : Outlives key t es' :=
  fun e got => o e (h.get?_eq got)

theorem Swept.counts {n : Int} (h : Swept now es es') (early : now < t)
    (c : Counts key t n es) : Counts key t n es' := by
  obtain ⟨e, got, many, lives⟩ := c
  have live := live?_eq_some_iff.mpr ⟨got, Instant.lt_of_lt_of_le early lives⟩
  rw [← h.live?_eq] at live
  exact ⟨e, (live?_eq_some_iff.mp live).1, many, lives⟩

theorem Outlives.empty : Outlives key t .empty := by
  intro e got
  cases got

/-- A counter is seen as long as it lives. -/
theorem Counts.live? {n : Int} (h : Counts key t n es) (early : now < t) :
    ∃ e, es.live? now key = some e ∧ n ≤ e.value.toInt ∧ t ≤ e.expiresAt.instant := by
  obtain ⟨e, got, many, lives⟩ := h
  exact ⟨e, live?_eq_some_iff.mpr ⟨got, Instant.lt_of_lt_of_le early lives⟩, many, lives⟩

theorem counts_insert {e : Entry} {n : Int} (many : n ≤ e.value.toInt)
    (lives : t ≤ e.expiresAt.instant) : Counts key t n (es.insert key e) :=
  ⟨e, by simp, many, lives⟩

end Entries

/-- The call keeps a counter that lives up to `t` from becoming smaller or expiring
sooner. What it writes under the key is the floor or, where nothing is, a one. -/
def Call.Respects (key : String) (t now : Instant) : Call → Prop
  | .insert k value ttl => k = key → value = blacklistFloor ∧ t.nanos ≤ now.nanos + ttl.nanos
  | .insertIfAbsent k value ttl => k = key → value = 1 ∧ t.nanos ≤ now.nanos + ttl.nanos
  | _ => True

namespace Entries

variable {now t : Instant} {es base : Entries} {c : Call} {key k : String} {e : Entry}

theorem lives_of_add? {ttl : Span} {u : Instant} (ends : now.add? ttl = some u)
    (long : t.nanos ≤ now.nanos + ttl.nanos) : t ≤ (Stamp.utc u).instant := by
  show t.nanos ≤ u.nanos
  rw [Instant.add?_eq_some ends]
  exact long

theorem Writes.outlives (w : Writes now es c k e) (swept : Swept now es base)
    (r : c.Respects key t now) (o : Outlives key t es) : Outlives key t (base.insert k e) := by
  intro e' got
  rw [Table.get?_insert] at got
  by_cases same : k = key
  · rw [if_pos same] at got
    cases got
    cases w with
    | insert _ ends => exact lives_of_add? ends (r same).2
    | insertIfAbsent _ _ ends => exact lives_of_add? ends (r same).2
    | increment live _ =>
        subst same
        have lives := o _ (live?_eq_some_iff.mp live).1
        exact lives
  · rw [if_neg same] at got
    exact o e' (swept.get?_eq got)

/-- A counter is kept by every write that does not cut it short. -/
theorem Writes.counts_of_long {n : Int} (w : Writes now es c k e) (swept : Swept now es base)
    (early : now < t) (long : ∀ value ttl, c = .insert key value ttl →
      n ≤ value.toInt ∧ t.nanos ≤ now.nanos + ttl.nanos)
    (h : Counts key t n es) : Counts key t n (base.insert k e) := by
  by_cases same : k = key
  · subst same
    cases w with
    | insert _ ends =>
        obtain ⟨many, lasts⟩ := long _ _ rfl
        exact counts_insert many (lives_of_add? ends lasts)
    | insertIfAbsent _ absent _ =>
        obtain ⟨e', live, _⟩ := h.live? early
        rw [absent] at live
        cases live
    | increment live next =>
        obtain ⟨e', live', many, lives⟩ := h.live? early
        rw [live] at live'
        cases live'
        refine counts_insert ?_ lives
        rw [SignedWord.toInt_of_succ? next]
        omega
  · obtain ⟨e', got, many, lives⟩ := swept.counts early h
    exact ⟨e', by simpa [same] using got, many, lives⟩

theorem Writes.counts {n : Int} (w : Writes now es c k e) (swept : Swept now es base)
    (r : c.Respects key t now) (early : now < t) (low : n ≤ blacklistFloor.toInt)
    (h : Counts key t n es) : Counts key t n (base.insert k e) := by
  refine w.counts_of_long swept early ?_ h
  rintro value ttl rfl
  obtain ⟨rfl, long⟩ := r rfl
  exact ⟨low, long⟩

end Entries

end RequestGuard
