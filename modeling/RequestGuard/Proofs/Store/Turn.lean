import RequestGuard.Proofs.Store.Durable
import RequestGuard.Proofs.Store.Entries
import RequestGuard.Services

/-!
# Calls to a store

What a call does to a store of either kind, said once for both. `Turn` lists the ways in
which a call can go, with the reply, the entries in memory and the entries that a store
opened anew would begin with. All that is known of a store in use follows from it.

A write that fails still changes the entries in memory, and only those. Stores in memory
keep what they hold, and their writes do not fail.
-/

namespace RequestGuard

namespace Store

/-- The entries that a store opened anew would begin with, expired ones among them. -/
def kept? : Store → Option Entries
  | .volatile m => some m.entries
  | .durable s d => s.kept? d

/-- A snapshot, if the store has one, is in its place. -/
def Placed : Store → Prop
  | .volatile _ => True
  | .durable s d => s.Placed d

def isDurable : Store → Bool
  | .volatile _ => false
  | .durable _ _ => true

theorem placed_of_volatile {s : Store} (volatile : s.isDurable = false) : s.Placed := by
  cases s with
  | volatile => trivial
  | durable => cases volatile

/-- A property of the entries in memory that would still hold after a restart. -/
def Holds (P : Entries → Prop) (s : Store) : Prop := P s.entries ∧ ∃ es, s.kept? = some es ∧ P es

/-- A store in memory has nothing else that could hold. -/
theorem holds_of_volatile {P : Entries → Prop} {s : Store} (volatile : s.isDurable = false)
    (memory : P s.entries) : s.Holds P := by
  cases s with
  | volatile m => exact ⟨memory, m.entries, rfl, memory⟩
  | durable => cases volatile

theorem Holds.imp {P Q : Entries → Prop} {s : Store} (h : s.Holds P) (imp : ∀ es, P es → Q es) :
    s.Holds Q := by
  obtain ⟨memory, es, kept, snapshot⟩ := h
  exact ⟨imp _ memory, es, kept, imp es snapshot⟩

/-- An entry has come into a store, and if `done` also into its snapshot. -/
structure Took (now : Instant) (key : String) (e : Entry) (s s' : Store) (done : Bool) : Prop where
  entries : ∃ base, Entries.Swept now s.entries base ∧ s'.entries = base.insert key e
  kept : s'.kept? = if done then some s'.entries else s.kept?

/-- The ways in which a call can go: its reply and the store after it. -/
inductive Turn (now : Instant) (s : Store) : (c : Call) → Option c.Reply → Store → Prop
  | fetch (key : String) : Turn now s (.fetch key) (some (.ok (s.entries.fetch now key))) s
  | insert {key : String} {value : SignedWord} {ttl : Span} {e : Entry} {s' : Store}
      (writes : Entries.Writes now s.entries (.insert key value ttl) key e)
      (took : Took now key e s s' true) : Turn now s (.insert key value ttl) (some (.ok ())) s'
  | insertIfAbsent {key : String} {value : SignedWord} {ttl : Span} {e : Entry} {s' : Store}
      (writes : Entries.Writes now s.entries (.insertIfAbsent key value ttl) key e)
      (took : Took now key e s s' true) :
      Turn now s (.insertIfAbsent key value ttl) (some (.ok true)) s'
  | present {key : String} {value : SignedWord} {ttl : Span} {e : Entry}
      (live : s.entries.live? now key = some e) :
      Turn now s (.insertIfAbsent key value ttl) (some (.ok false)) s
  | increment {key : String} {e : Entry} {value : SignedWord} {s' : Store}
      (live : s.entries.live? now key = some e) (next : e.value.succ? = some value)
      (took : Took now key { e with value := value } s s' true) :
      Turn now s (.increment key) (some (.ok (some value))) s'
  | absent {key : String} (absent : s.entries.live? now key = none) :
      Turn now s (.increment key) (some (.ok none)) s
  | refused {key : String} {value : SignedWord} {ttl : Span} {c : Call}
      (write : c = .insert key value ttl ∨ c = .insertIfAbsent key value ttl)
      (dead : ¬ ttl.Positive) : Turn now s c (some (.error (.storage (Entries.refuse key)))) s
  | overflow {key : String} {e : Entry} (live : s.entries.live? now key = some e)
      (last : e.value.succ? = none) :
      Turn now s (.increment key) (some (.error (.storage (Entries.overflow key)))) s
  /-- The entry came into memory only. -/
  | failed {c : Call} {key : String} {e : Entry} {s' : Store} (f : Failure)
      (writes : Entries.Writes now s.entries c key e) (took : Took now key e s s' false)
      (disk : s.isDurable = true) : Turn now s c (some (.error f)) s'
  /-- The call never came back. -/
  | lost {key : String} {value : SignedWord} {ttl : Span} {c : Call} {s' : Store}
      (write : c = .insert key value ttl ∨ c = .insertIfAbsent key value ttl)
      (endless : now.add? ttl = none) (swept : Entries.Swept now s.entries s'.entries)
      (kept : s'.kept? = s.kept?) : Turn now s c none s'
  | currentVersion (account : AccountId) (reply : Option (Call.currentVersion account).Reply) :
      Turn now s (.currentVersion account) reply s
  | isLocked (account : AccountId) (reply : Option (Call.isLocked account).Reply) :
      Turn now s (.isLocked account) reply s
  | lock (account : AccountId) (reply : Option (Call.lock account).Reply) :
      Turn now s (.lock account) reply s

variable {now : Instant} {key : String} {e : Entry} {fault : Option WriteFault}

theorem took_volatile (m : VolatileStore) :
    Took now key e (.volatile m) (.volatile ⟨m.entries.insert key e⟩) true :=
  ⟨⟨m.entries, .refl, rfl⟩, rfl⟩

theorem new?_eq_some {value : SignedWord} {ttl : Span} (h : Entry.new? value now ttl = some e) :
    ∃ t, now.add? ttl = some t ∧ e = ⟨value, .utc t⟩ := by
  obtain ⟨t, ends, same⟩ := Option.map_eq_some_iff.mp h
  exact ⟨t, ends, same.symm⟩

theorem new?_eq_none {value : SignedWord} {ttl : Span} (h : Entry.new? value now ttl = none) :
    now.add? ttl = none := Option.map_eq_none_iff.mp h

/-- A durable store that has changed an entry answers if it comes to persist the change. If
it does not, the change stays in memory. -/
theorem turn_commit {c : Call} {s s₁ : DurableStore} {d : Disk} {base : Entries} (a : c.Answer)
    (placed : s.Placed d) (location : s₁.location = s.location)
    (swept : Entries.Swept now s.entries base) (same : s₁.entries = base.insert key e)
    (writes : Entries.Writes now s.entries c key e)
    (done : ∀ {s'}, Took now key e (.durable s d) s' true →
      Turn now (.durable s d) c (some (.ok a)) s') :
    Turn now (.durable s d) c (some (Services.reply (s₁.commit a fault d).1))
      (.durable (s₁.commit a fault d).2.1 (s₁.commit a fault d).2.2) ∧
      (s₁.commit a fault d).2.1.Placed (s₁.commit a fault d).2.2 := by
  have placed₁ : s₁.Placed d := ⟨location ▸ placed.apart, location ▸ placed.folder⟩
  have before : s₁.kept? d = s.kept? d := by simp only [DurableStore.kept?, location]
  have took : ∀ {d' : Disk} {good : Bool},
      s₁.kept? d' = (if good then some s₁.entries else s.kept? d) →
        Took now key e (.durable s d) (.durable s₁ d') good :=
    fun kept => ⟨⟨base, swept, same⟩, kept⟩
  obtain ⟨placed', kept⟩ := DurableStore.kept?_persist fault placed₁
  have split : s₁.commit a fault d =
      ((s₁.persist fault d).1.map fun _ => a, s₁, (s₁.persist fault d).2) := rfl
  rw [split]
  cases result : (s₁.persist fault d).1 with
  | ok =>
      rw [result] at kept
      exact ⟨done (took kept), placed'⟩
  | error err =>
      rw [result] at kept
      exact ⟨.failed _ writes (took (kept.trans before)) rfl, placed'⟩

section Volatile

variable (m : VolatileStore) (key : String) (value : SignedWord) (ttl : Span)

theorem turn_insert_volatile :
    Turn now (.volatile m) (.insert key value ttl)
      ((m.insert now key value ttl).1.map Services.reply)
      (.volatile (m.insert now key value ttl).2) := by
  unfold VolatileStore.insert
  split
  · rename_i positive
    split
    · rename_i e new
      obtain ⟨t, ends, rfl⟩ := new?_eq_some new
      exact .insert (.insert positive ends) (took_volatile m)
    · rename_i new
      exact .lost (.inl rfl) (new?_eq_none new) .refl rfl
  · rename_i dead
    exact .refused (.inl rfl) dead

theorem turn_insertIfAbsent_volatile :
    Turn now (.volatile m) (.insertIfAbsent key value ttl)
      ((m.insertIfAbsent now key value ttl).1.map Services.reply)
      (.volatile (m.insertIfAbsent now key value ttl).2) := by
  unfold VolatileStore.insertIfAbsent
  split
  · rename_i positive
    split
    · rename_i e live
      exact .present live
    · rename_i absent
      split
      · rename_i e new
        obtain ⟨t, ends, rfl⟩ := new?_eq_some new
        exact .insertIfAbsent (.insertIfAbsent positive absent ends) (took_volatile m)
      · rename_i new
        exact .lost (.inr rfl) (new?_eq_none new) .refl rfl
  · rename_i dead
    exact .refused (.inr rfl) dead

theorem turn_increment_volatile :
    Turn now (.volatile m) (.increment key) (some (Services.reply (m.increment now key).1))
      (.volatile (m.increment now key).2) := by
  unfold VolatileStore.increment
  split
  · rename_i absent
    exact .absent absent
  · rename_i e live
    split
    · rename_i value next
      exact .increment live next (took_volatile m)
    · rename_i last
      exact .overflow live last

end Volatile

section Durable

variable {s : DurableStore} {d : Disk} (fault : Option WriteFault) (key : String)
  (value : SignedWord) (ttl : Span)

theorem turn_insert_durable (placed : s.Placed d) :
    Turn now (.durable s d) (.insert key value ttl)
      ((s.insert now key value ttl fault d).1.map Services.reply)
      (.durable (s.insert now key value ttl fault d).2.1
        (s.insert now key value ttl fault d).2.2) ∧
      (s.insert now key value ttl fault d).2.1.Placed
        (s.insert now key value ttl fault d).2.2 := by
  unfold DurableStore.insert
  split
  · rename_i positive
    split
    · rename_i new
      exact ⟨.lost (.inl rfl) (new?_eq_none new) .refl rfl, placed⟩
    · rename_i e new
      obtain ⟨t, ends, rfl⟩ := new?_eq_some new
      have writes : Entries.Writes now s.entries (.insert key value ttl) key ⟨value, .utc t⟩ :=
        .insert positive ends
      exact turn_commit (c := .insert key value ttl) () placed rfl (.inr rfl) rfl writes
        (.insert writes)
  · rename_i dead
    exact ⟨.refused (.inl rfl) dead, placed⟩

theorem turn_insertIfAbsent_durable (placed : s.Placed d) :
    Turn now (.durable s d) (.insertIfAbsent key value ttl)
      ((s.insertIfAbsent now key value ttl fault d).1.map Services.reply)
      (.durable (s.insertIfAbsent now key value ttl fault d).2.1
        (s.insertIfAbsent now key value ttl fault d).2.2) ∧
      (s.insertIfAbsent now key value ttl fault d).2.1.Placed
        (s.insertIfAbsent now key value ttl fault d).2.2 := by
  unfold DurableStore.insertIfAbsent
  split
  · rename_i positive
    split
    · rename_i e live
      exact ⟨.present live, placed⟩
    · rename_i absent
      split
      · rename_i new
        exact ⟨.lost (.inr rfl) (new?_eq_none new) (.inr rfl) rfl, placed.apart, placed.folder⟩
      · rename_i e new
        obtain ⟨t, ends, rfl⟩ := new?_eq_some new
        have writes : Entries.Writes now s.entries (.insertIfAbsent key value ttl) key
            ⟨value, .utc t⟩ := .insertIfAbsent positive absent ends
        exact turn_commit (c := .insertIfAbsent key value ttl) true placed rfl (.inr rfl) rfl
          writes (.insertIfAbsent writes)
  · rename_i dead
    exact ⟨.refused (.inr rfl) dead, placed⟩

theorem turn_increment_durable (placed : s.Placed d) :
    Turn now (.durable s d) (.increment key)
      (some (Services.reply (s.increment now key fault d).1))
      (.durable (s.increment now key fault d).2.1 (s.increment now key fault d).2.2) ∧
      (s.increment now key fault d).2.1.Placed (s.increment now key fault d).2.2 := by
  unfold DurableStore.increment
  split
  · rename_i absent
    exact ⟨.absent absent, placed⟩
  · rename_i e live
    split
    · rename_i last
      exact ⟨.overflow live last, placed⟩
    · rename_i value next
      exact turn_commit (c := .increment key) (some value) placed rfl .refl rfl
        (.increment live next) (.increment live next)

end Durable

end Store

/-- Every call goes in one of the ways of `Turn`. -/
theorem Services.perform_turn {now : Instant} {fault : Option WriteFault} {s : Services}
    (placed : s.store.Placed) (c : Call) :
    s.store.Turn now c (s.perform now fault c).1 (s.perform now fault c).2.store ∧
      (s.perform now fault c).2.store.Placed := by
  cases c with
  | fetch key =>
      refine ⟨?_, placed⟩
      have same : s.store.fetch now key = s.store.entries.fetch now key := by
        cases s.store <;> rfl
      simp only [perform, same]
      exact .fetch key
  | insert key value ttl =>
      cases s with
      | mk store directory =>
          cases store with
          | volatile m => exact ⟨Store.turn_insert_volatile m key value ttl, trivial⟩
          | durable m d => exact Store.turn_insert_durable fault key value ttl placed
  | insertIfAbsent key value ttl =>
      cases s with
      | mk store directory =>
          cases store with
          | volatile m => exact ⟨Store.turn_insertIfAbsent_volatile m key value ttl, trivial⟩
          | durable m d => exact Store.turn_insertIfAbsent_durable fault key value ttl placed
  | increment key =>
      cases s with
      | mk store directory =>
          cases store with
          | volatile m => exact ⟨Store.turn_increment_volatile m key, trivial⟩
          | durable m d => exact Store.turn_increment_durable fault key placed
  | currentVersion account => exact ⟨.currentVersion account _, placed⟩
  | isLocked account => exact ⟨.isLocked account _, placed⟩
  | lock account => exact ⟨.lock account _, placed⟩

/-- A store keeps its kind. -/
theorem Services.isDurable_perform {now : Instant} {fault : Option WriteFault} {s : Services}
    (c : Call) : (s.perform now fault c).2.store.isDurable = s.store.isDurable := by
  cases c with
  | insert key value ttl =>
      simp only [perform]
      cases s.store <;> rfl
  | insertIfAbsent key value ttl =>
      simp only [perform]
      cases s.store <;> rfl
  | increment key =>
      simp only [perform]
      cases s.store <;> rfl
  | fetch | currentVersion | isLocked | lock => rfl

/-- Only a lock of an account changes what is kept of it. -/
theorem Services.record?_perform {account : AccountId} {c : Call} (h : c ≠ .lock account)
    (now : Instant) (fault : Option WriteFault) (s : Services) :
    (s.perform now fault c).2.directory.record? account = s.directory.record? account := by
  cases c with
  | lock other =>
      have apart : other ≠ account := fun same => h (same ▸ rfl)
      exact (Directory.record?_lock s.directory other account).trans (if_neg apart)
  | fetch | insert | insertIfAbsent | increment | currentVersion | isLocked => rfl

end RequestGuard
