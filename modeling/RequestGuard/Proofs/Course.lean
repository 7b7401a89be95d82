import RequestGuard.Proofs.Store.Alike
import RequestGuard.Proofs.Traffic.Calls

/-!
# The course of a call

A call to a store of either kind first settles what the entries in memory become. Only then does
a store on disk turn to the disk. `course` is that first part, and `perform_course` says for all
calls at once what becomes of it.

The stores differ in what they do with expired entries. One in memory leaves them, and one on
disk drops them before it adds another. So a course is followed by what a store shows of its
entries: all of them in memory, and only the live ones on disk. What it shows under a key is
changed by calls about this key only, and decides their replies.
-/

namespace RequestGuard

/-- The call is about another key. -/
def Call.Elsewhere (key : String) (c : Call) : Prop := ∃ k, c.key? = some k ∧ k ≠ key

namespace Entries

/-- The entries to which a store adds one: on disk only those that are alive. -/
def fresh (durable : Bool) (now : Instant) (es : Entries) : Entries :=
  if durable then es.purge now else es

/-- What counts under a key: on disk only an entry that is alive. -/
def shown (durable : Bool) (now : Instant) (es : Entries) (key : String) : Option Entry :=
  if durable then es.live? now key else es.get? key

variable {durable : Bool} {now : Instant} {key k : String} {es es' : Entries} {e : Entry}

theorem shown_fresh (durable : Bool) (now : Instant) (es : Entries) (key : String) :
    (es.fresh durable now).shown durable now key = es.shown durable now key := by
  cases durable with
  | false => rfl
  | true => exact live?_purge es now key

theorem shown_insert (durable : Bool) (now : Instant) (es es' : Entries) (key : String)
    (e : Entry) :
    shown durable now (es'.insert key e) key = shown durable now (es.insert key e) key := by
  simp only [shown, live?, Table.get?_insert, if_true]

theorem shown_insert_of_ne (durable : Bool) (now : Instant) (other : k ≠ key) (es : Entries)
    (e : Entry) : shown durable now (es.insert k e) key = es.shown durable now key := by
  simp only [shown, live?, Table.get?_insert, if_neg other]

/-- What counts tells what is alive. -/
theorem live?_of_shown (same : es'.shown durable now key = es.shown durable now key) :
    es'.live? now key = es.live? now key := by
  cases durable with
  | false =>
      have same : es'.get? key = es.get? key := same
      rw [live?, live?, same]
  | true => exact same

theorem Writable.fresh (h : es.Writable) (durable : Bool) (now : Instant) :
    (es.fresh durable now).Writable := by
  cases durable with
  | false => exact h
  | true => exact (Alike.refl now es).writable_purge h

end Entries

namespace Store

def withEntries (es : Entries) : Store → Store
  | .volatile _ => .volatile ⟨es⟩
  | .durable s d => .durable { s with entries := es } d

def persist (fault : Option WriteFault) : Store → Except StoreError Unit × Store
  | .volatile m => (.ok (), .volatile m)
  | .durable s d => ((s.persist fault d).1, .durable s (s.persist fault d).2)

end Store

namespace Services

/-- What a call comes to before the store turns to a disk. -/
inductive Course (c : Call) where
  /-- A reply at once, with the entries and the directory after it. -/
  | settled (reply : Option c.Reply) (entries : Entries) (directory : Directory)
  /-- Entries that are to be persisted, and the answer if they are. -/
  | persist (entries : Entries) (answer : c.Answer)

namespace Course

variable {c : Call}

/-- The entries to which a course comes. -/
def entries : Course c → Entries
  | .settled _ es _ => es
  | .persist es _ => es

/-- The reply to which a course comes, given how a snapshot is written. -/
def replyBy (written : Except StoreError Unit) : Course c → Option c.Reply
  | .settled reply _ _ => reply
  | .persist _ answer => some (reply (written.map fun _ => answer))

/-- The end of a course at a store. -/
def finish (store : Store) (directory : Directory) (fault : Option WriteFault) :
    Course c → Option c.Reply × Services
  | .settled reply es directory => (reply, ⟨store.withEntries es, directory⟩)
  | .persist es answer =>
    (some (reply (((store.withEntries es).persist fault).1.map fun _ => answer)),
      ⟨((store.withEntries es).persist fault).2, directory⟩)

end Course

def course (durable : Bool) (now : Instant) (es : Entries) (directory : Directory) :
    (c : Call) → Course c
  | .fetch key => .settled (some (.ok (es.fetch now key))) es directory
  | .insert key value ttl =>
    if ttl.Positive then
      match Entry.new? value now ttl with
      | none => .settled none es directory
      | some e => .persist ((es.fresh durable now).insert key e) ()
    else .settled (some (.error (.storage (Entries.refuse key)))) es directory
  | .insertIfAbsent key value ttl =>
    if ttl.Positive then
      match es.live? now key with
      | some _ => .settled (some (.ok false)) es directory
      | none => match Entry.new? value now ttl with
        | none => .settled none (es.fresh durable now) directory
        | some e => .persist ((es.fresh durable now).insert key e) true
    else .settled (some (.error (.storage (Entries.refuse key)))) es directory
  | .increment key =>
    match es.live? now key with
    | none => .settled (some (.ok none)) es directory
    | some e => match e.value.succ? with
      | none => .settled (some (.error (.storage (Entries.overflow key)))) es directory
      | some value => .persist (es.insert key { e with value := value }) (some value)
  | .currentVersion account => .settled (some (.ok (directory.currentVersion account))) es directory
  | .isLocked account => .settled (some (.ok (directory.isLocked account))) es directory
  | .lock account => .settled (some (directory.lock account).1) es (directory.lock account).2

variable {durable : Bool} {now : Instant} {fault : Option WriteFault} {c : Call} {store : Store}
  {es es' : Entries} {directory directory' : Directory} {key : String} {e : StoreError}

/-- A call takes its course. -/
theorem perform_course : perform now fault c ⟨store, directory⟩ =
    (course store.isDurable now store.entries directory c).finish store directory fault := by
  cases store with
  | volatile m =>
      cases c with
      | insert key value ttl =>
          simp only [perform, Store.insert, VolatileStore.insert, course]
          split
          · cases Entry.new? value now ttl with
            | none => rfl
            | some e => rfl
          · rfl
      | insertIfAbsent key value ttl =>
          simp only [perform, Store.insertIfAbsent, VolatileStore.insertIfAbsent, course,
            Store.entries]
          split
          · cases m.entries.live? now key with
            | some e => rfl
            | none =>
                cases Entry.new? value now ttl with
                | none => rfl
                | some e => rfl
          · rfl
      | increment key =>
          simp only [perform, Store.increment, VolatileStore.increment, course, Store.entries]
          cases m.entries.live? now key with
          | none => rfl
          | some e =>
              dsimp only
              cases e.value.succ? with
              | none => rfl
              | some value => rfl
      | fetch | currentVersion | isLocked | lock => rfl
  | durable s d =>
      cases c with
      | insert key value ttl =>
          simp only [perform, Store.insert, DurableStore.insert, course]
          split
          · cases Entry.new? value now ttl with
            | none => rfl
            | some e => rfl
          · rfl
      | insertIfAbsent key value ttl =>
          simp only [perform, Store.insertIfAbsent, DurableStore.insertIfAbsent, course,
            Store.entries]
          split
          · cases s.entries.live? now key with
            | some e => rfl
            | none =>
                cases Entry.new? value now ttl with
                | none => rfl
                | some e => rfl
          · rfl
      | increment key =>
          simp only [perform, Store.increment, DurableStore.increment, course, Store.entries]
          cases s.entries.live? now key with
          | none => rfl
          | some e =>
              dsimp only
              cases e.value.succ? with
              | none => rfl
              | some value => rfl
      | fetch | currentVersion | isLocked | lock => rfl

theorem perform_volatile {m : VolatileStore} : perform now fault c ⟨.volatile m, directory⟩ =
    (course false now m.entries directory c).finish (.volatile m) directory fault :=
  perform_course

theorem perform_durable {s : DurableStore} {d : Disk} :
    perform now fault c ⟨.durable s d, directory⟩ =
      (course true now s.entries directory c).finish (.durable s d) directory fault :=
  perform_course

/-- An error that comes before the disk leaves everything as it was. -/
theorem course_error
    (h : course durable now es directory c = .settled (some (.error (.storage e))) es' directory') :
    es' = es ∧ directory' = directory := by
  cases c with
  | fetch | currentVersion | isLocked => cases h
  | insert key value ttl =>
      simp only [course] at h
      split at h
      · split at h
        · cases h
        · cases h
      · cases h
        exact ⟨rfl, rfl⟩
  | insertIfAbsent key value ttl =>
      simp only [course] at h
      split at h
      · split at h
        · cases h
        · split at h
          · cases h
          · cases h
      · cases h
        exact ⟨rfl, rfl⟩
  | increment key =>
      simp only [course] at h
      split at h
      · cases h
      · split at h
        · cases h
          exact ⟨rfl, rfl⟩
        · cases h
  | lock account =>
      simp only [course, Directory.lock] at h
      split at h
      · cases h
      · cases h

/-- From the year zero on, entries that can be written stay so. -/
theorem course_writable (year : .yearZero ≤ now) (writable : es.Writable) :
    (course durable now es directory c).entries.Writable := by
  have fresh : (es.fresh durable now).Writable := writable.fresh durable now
  cases c with
  | fetch | currentVersion | isLocked | lock => exact writable
  | insert k value ttl =>
      simp only [course]
      split
      · rename_i positive
        cases new : Entry.new? value now ttl with
        | none => exact writable
        | some e => exact fresh.insert k (Entry.render?_new? year positive new)
      · exact writable
  | insertIfAbsent k value ttl =>
      simp only [course]
      split
      · rename_i positive
        cases es.live? now k with
        | some e => exact writable
        | none =>
            cases new : Entry.new? value now ttl with
            | none => exact fresh
            | some e => exact fresh.insert k (Entry.render?_new? year positive new)
      · exact writable
  | increment k =>
      simp only [course]
      cases live : es.live? now k with
      | none => exact writable
      | some e =>
          dsimp only
          cases e.value.succ? with
          | none => exact writable
          | some value =>
              exact writable.insert k (writable k e (Entries.live?_eq_some_iff.mp live).1)

/-- A call about another key leaves what counts under a key. -/
theorem course_elsewhere (elsewhere : c.Elsewhere key) :
    (course durable now es directory c).entries.shown durable now key =
      es.shown durable now key := by
  obtain ⟨k, about, other⟩ := elsewhere
  have dropped : (es.fresh durable now).shown durable now key = es.shown durable now key :=
    es.shown_fresh durable now key
  have added : ∀ e, Entries.shown durable now ((es.fresh durable now).insert k e) key =
      es.shown durable now key :=
    fun e => (Entries.shown_insert_of_ne durable now other _ e).trans dropped
  cases c with
  | fetch => rfl
  | insert k' value ttl =>
      cases about
      simp only [course]
      split
      · cases Entry.new? value now ttl with
        | none => rfl
        | some e => exact added e
      · rfl
  | insertIfAbsent k' value ttl =>
      cases about
      simp only [course]
      split
      · cases es.live? now k with
        | some e => rfl
        | none =>
            cases Entry.new? value now ttl with
            | none => exact dropped
            | some e => exact added e
      · rfl
  | increment k' =>
      cases about
      simp only [course]
      cases es.live? now k with
      | none => rfl
      | some e =>
          dsimp only
          cases e.value.succ? with
          | none => rfl
          | some value => exact Entries.shown_insert_of_ne durable now other es _
  | currentVersion | isLocked | lock => cases about

/-- The course of a call about a key rests on what counts under it. -/
theorem course_own (directory directory' : Directory) (about : c.key? = some key)
    (same : es'.shown durable now key = es.shown durable now key)
    (written : Except StoreError Unit) :
    (course durable now es' directory' c).replyBy written =
        (course durable now es directory c).replyBy written ∧
      (course durable now es' directory' c).entries.shown durable now key =
        (course durable now es directory c).entries.shown durable now key := by
  have live : es'.live? now key = es.live? now key := Entries.live?_of_shown same
  have added : ∀ (es es' : Entries) (e : Entry),
      Entries.shown durable now (es'.insert key e) key =
        Entries.shown durable now (es.insert key e) key :=
    fun es es' e => Entries.shown_insert durable now es es' key e
  cases c with
  | fetch k =>
      cases about
      refine ⟨?_, same⟩
      simp only [course, Course.replyBy, Entries.fetch, live]
  | insert k value ttl =>
      cases about
      simp only [course]
      split
      · cases Entry.new? value now ttl with
        | none => exact ⟨rfl, same⟩
        | some e => exact ⟨rfl, added _ _ e⟩
      · exact ⟨rfl, same⟩
  | insertIfAbsent k value ttl =>
      cases about
      simp only [course, live]
      split
      · cases es.live? now key with
        | some e => exact ⟨rfl, same⟩
        | none =>
            cases Entry.new? value now ttl with
            | none =>
                refine ⟨rfl, ?_⟩
                simp only [Course.entries, Entries.shown_fresh, same]
            | some e => exact ⟨rfl, added _ _ e⟩
      · exact ⟨rfl, same⟩
  | increment k =>
      cases about
      simp only [course, live]
      cases es.live? now key with
      | none => exact ⟨rfl, same⟩
      | some e =>
          dsimp only
          cases e.value.succ? with
          | none => exact ⟨rfl, same⟩
          | some value => exact ⟨rfl, added _ _ _⟩
  | currentVersion | isLocked | lock => cases about

/-- What a course makes of the entries: it may drop those that have expired, and may then write
an entry. -/
theorem course_entries (durable : Bool) (now : Instant) (es : Entries) (directory : Directory)
    (c : Call) : ∃ base, (base = es ∨ durable = true ∧ base = es.purge now) ∧
      ((course durable now es directory c).entries = base ∨
        ∃ key e, Entries.Writes now es c key e ∧
          (course durable now es directory c).entries = base.insert key e) := by
  have fresh : es.fresh durable now = es ∨
      durable = true ∧ es.fresh durable now = es.purge now := by
    cases durable with
    | false => exact .inl rfl
    | true => exact .inr ⟨rfl, rfl⟩
  cases c with
  | fetch | currentVersion | isLocked | lock => exact ⟨es, .inl rfl, .inl rfl⟩
  | insert key value ttl =>
      simp only [course]
      split
      · rename_i positive
        cases new : Entry.new? value now ttl with
        | none => exact ⟨es, .inl rfl, .inl rfl⟩
        | some e =>
            obtain ⟨t, ends, rfl⟩ := Store.new?_eq_some new
            exact ⟨_, fresh, .inr ⟨key, _, .insert positive ends, rfl⟩⟩
      · exact ⟨es, .inl rfl, .inl rfl⟩
  | insertIfAbsent key value ttl =>
      simp only [course]
      split
      · rename_i positive
        cases absent : es.live? now key with
        | some e => exact ⟨es, .inl rfl, .inl rfl⟩
        | none =>
            cases new : Entry.new? value now ttl with
            | none => exact ⟨_, fresh, .inl rfl⟩
            | some e =>
                obtain ⟨t, ends, rfl⟩ := Store.new?_eq_some new
                exact ⟨_, fresh, .inr ⟨key, _, .insertIfAbsent positive absent ends, rfl⟩⟩
      · exact ⟨es, .inl rfl, .inl rfl⟩
  | increment key =>
      simp only [course]
      cases live : es.live? now key with
      | none => exact ⟨es, .inl rfl, .inl rfl⟩
      | some e =>
          dsimp only
          cases next : e.value.succ? with
          | none => exact ⟨es, .inl rfl, .inl rfl⟩
          | some value => exact ⟨es, .inl rfl, .inr ⟨key, _, .increment live next, rfl⟩⟩

/-- A call leaves the entries to which its course has come. -/
theorem entries_perform (s : Services) : (s.perform now fault c).2.store.entries =
    (course s.store.isDurable now s.store.entries s.directory c).entries := by
  obtain ⟨store, directory⟩ := s
  rw [perform_course]
  cases course store.isDurable now store.entries directory c with
  | settled reply es directory => cases store <;> rfl
  | persist es answer => cases store <;> rfl

end Services

end RequestGuard
