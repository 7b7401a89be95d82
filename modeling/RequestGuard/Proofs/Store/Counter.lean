import RequestGuard.Proofs.Store.Turn

/-!
# Counters in a store

A counter that lives up to some moment, once it is in a store of either kind, stays there
under all calls before that moment that respect it, and after a restart. What the store
then replies about it is never smaller.
-/

namespace RequestGuard

namespace Store

variable {now t : Instant} {s s' : Store} {c : Call} {key : String} {n : Int}

/-- A call leaves the entries in memory, or writes one. The snapshot keeps what it did, or
comes to keep what is in memory. -/
theorem Turn.cases {r : Option c.Reply} (turn : s.Turn now c r s') :
    (Entries.Swept now s.entries s'.entries ∧ s'.kept? = s.kept?) ∨
    ∃ key e base, Entries.Writes now s.entries c key e ∧ Entries.Swept now s.entries base ∧
      s'.entries = base.insert key e ∧ (s'.kept? = some s'.entries ∨ s'.kept? = s.kept?) := by
  have took_cases : ∀ {key e done}, Entries.Writes now s.entries c key e →
      Took now key e s s' done → ∃ key e base, Entries.Writes now s.entries c key e ∧
        Entries.Swept now s.entries base ∧ s'.entries = base.insert key e ∧
        (s'.kept? = some s'.entries ∨ s'.kept? = s.kept?) := by
    intro key e done writes took
    obtain ⟨base, swept, same⟩ := took.entries
    refine ⟨key, e, base, writes, swept, same, ?_⟩
    have kept := took.kept
    cases done with
    | true => exact .inl kept
    | false => exact .inr kept
  cases turn with
  | insert writes took => exact .inr (took_cases writes took)
  | insertIfAbsent writes took => exact .inr (took_cases writes took)
  | increment live next took => exact .inr (took_cases (.increment live next) took)
  | failed f writes took disk => exact .inr (took_cases writes took)
  | lost _ _ swept kept => exact .inl ⟨swept, kept⟩
  | fetch | present | absent | refused | overflow | currentVersion | isLocked | lock =>
      exact .inl ⟨.refl, rfl⟩

/-- What survives the loss of expired entries and the writes of a call survives the call. -/
theorem Turn.memory {r : Option c.Reply} {P : Entries → Prop} (turn : s.Turn now c r s')
    (swept : ∀ base, Entries.Swept now s.entries base → P s.entries → P base)
    (writes : ∀ base key e, Entries.Writes now s.entries c key e →
      Entries.Swept now s.entries base → P s.entries → P (base.insert key e))
    (h : P s.entries) : P s'.entries := by
  rcases turn.cases with ⟨left, _⟩ | ⟨key, e, base, w, left, same, _⟩
  · exact swept _ left h
  · rw [same]
    exact writes base key e w left h

theorem Turn.holds {r : Option c.Reply} {P : Entries → Prop} (turn : s.Turn now c r s')
    (swept : ∀ base, Entries.Swept now s.entries base → P s.entries → P base)
    (writes : ∀ base key e, Entries.Writes now s.entries c key e →
      Entries.Swept now s.entries base → P s.entries → P (base.insert key e))
    (h : s.Holds P) : s'.Holds P := by
  obtain ⟨memory, es, kept, snapshot⟩ := h
  have memory' := turn.memory swept writes memory
  rcases turn.cases with ⟨_, same⟩ | ⟨_, _, _, _, _, _, new | old⟩
  · exact ⟨memory', es, same.trans kept, snapshot⟩
  · exact ⟨memory', _, new, memory'⟩
  · exact ⟨memory', es, old.trans kept, snapshot⟩

theorem Turn.outlives {r : Option c.Reply} (turn : s.Turn now c r s')
    (respects : c.Respects key t now) (h : s.Holds (Entries.Outlives key t)) :
    s'.Holds (Entries.Outlives key t) :=
  turn.holds (fun _ swept => swept.outlives) (fun _ _ _ w swept => w.outlives swept respects) h

theorem Turn.counts {r : Option c.Reply} (turn : s.Turn now c r s')
    (respects : c.Respects key t now) (early : now < t) (low : n ≤ blacklistFloor.toInt)
    (h : s.Holds (Entries.Counts key t n)) : s'.Holds (Entries.Counts key t n) :=
  turn.holds (fun _ swept => swept.counts early)
    (fun _ _ _ w swept => w.counts swept respects early low) h

/-- A restart brings back the snapshot, without the entries that have expired. -/
theorem holds_load {d d' : Disk} {m m' : DurableStore} {P : Entries → Prop}
    (placed : m.Placed d) (opened : DurableStore.load m.location now d = (.ok m', d'))
    (swept : ∀ es base, Entries.Swept now es base → P es → P base)
    (h : (Store.durable m d).Holds P) :
    (Store.durable m' d').Holds P ∧ m'.Placed d' := by
  obtain ⟨_, es, kept, snapshot⟩ := h
  obtain ⟨rfl, loaded, found, rfl⟩ := DurableStore.load_ok placed.folder opened
  have same : loaded = es := by
    have : (DurableStore.loadEntries d' m.location).toOption = some es := kept
    rw [found] at this
    exact Option.some.inj this
  subst same
  exact ⟨⟨swept loaded _ (.inr rfl) snapshot, loaded, kept, snapshot⟩, placed.apart, placed.folder⟩

/-- An entry that has come into memory and snapshot is a counter in both. -/
theorem Took.counts {e : Entry} (took : Took now key e s s' true) (many : n ≤ e.value.toInt)
    (lives : t ≤ e.expiresAt.instant) : s'.Holds (Entries.Counts key t n) := by
  obtain ⟨base, _, same⟩ := took.entries
  have memory : Entries.Counts key t n s'.entries := by
    rw [same]
    exact Entries.counts_insert many lives
  exact ⟨memory, _, took.kept, memory⟩

/-- A counter that was blacklisted stays so. -/
theorem Turn.insert_counts {value : SignedWord} {ttl : Span}
    (turn : s.Turn now (.insert key value ttl) (some (.ok ())) s')
    (long : t.nanos ≤ now.nanos + ttl.nanos) : s'.Holds (Entries.Counts key t value.toInt) := by
  cases turn with
  | insert writes took =>
      cases writes with
      | insert _ ends => exact took.counts (Int.le_refl _) (Entries.lives_of_add? ends long)

/-- A counter that was moved on is one more than before, and stays so. -/
theorem Turn.increment_counts {value : SignedWord}
    (turn : s.Turn now (.increment key) (some (.ok (some value))) s')
    (h : s.Holds (Entries.Outlives key t)) : s'.Holds (Entries.Counts key t value.toInt) := by
  cases turn with
  | increment live next took =>
      have lives := h.1 _ (Entries.live?_eq_some_iff.mp live).1
      exact took.counts (Int.le_refl _) lives

/-- A fetch replies with what is live, and changes nothing. -/
theorem Turn.of_fetch {reply : Option (Call.fetch key).Reply}
    (turn : s.Turn now (.fetch key) reply s') :
    reply = some (.ok (s.entries.fetch now key)) ∧ s' = s := by
  cases turn with
  | fetch => exact ⟨rfl, rfl⟩
  | failed f writes => cases writes
  | refused write => rcases write with same | same <;> cases same
  | lost write => rcases write with same | same <;> cases same

/-- A counter that was fetched is that of a live entry. -/
theorem Turn.live_of_fetch {v : SignedWord}
    (turn : s.Turn now (.fetch key) (some (.ok (some v))) s') :
    ∃ e, s.entries.live? now key = some e ∧ e.value = v := by
  have fetched : some v = s.entries.fetch now key := Except.ok.inj (Option.some.inj turn.of_fetch.1)
  exact Option.map_eq_some_iff.mp fetched.symm

/-- A settled counter shows when it is fetched. -/
theorem Turn.fetch_shows {reply : Option (Call.fetch key).Reply} (early : now < t)
    (turn : s.Turn now (.fetch key) reply s') (h : Entries.Counts key t n s.entries) :
    ∃ v, reply = some (.ok (some v)) ∧ n ≤ v.toInt := by
  obtain ⟨e, live, many, _⟩ := h.live? early
  refine ⟨e.value, ?_, many⟩
  rw [turn.of_fetch.1, Entries.fetch, live]
  rfl

/-- An increment of a settled counter leads beyond it, or is an error. -/
theorem Turn.increment_shows {reply : Option (Call.increment key).Reply} (early : now < t)
    (turn : s.Turn now (.increment key) reply s') (h : Entries.Counts key t n s.entries) :
    (∃ v, reply = some (.ok (some v)) ∧ n < v.toInt) ∨ ∃ f, reply = some (.error f) := by
  obtain ⟨e, live, many, _⟩ := h.live? early
  cases turn with
  | increment live' next took =>
      rw [live] at live'
      cases live'
      refine .inl ⟨_, rfl, ?_⟩
      rw [SignedWord.toInt_of_succ? next]
      omega
  | absent absent =>
      rw [absent] at live
      cases live
  | overflow | failed => exact .inr ⟨_, rfl⟩
  | refused write => rcases write with same | same <;> cases same
  | lost write => rcases write with same | same <;> cases same

/-- An increment that moves a counter on answers with it, or fails. -/
theorem Turn.increment_replies {e : Entry} {value : SignedWord}
    {reply : Option (Call.increment key).Reply} (turn : s.Turn now (.increment key) reply s')
    (live : s.entries.live? now key = some e) (next : e.value.succ? = some value) :
    reply = some (.ok (some value)) ∨ ∃ f, reply = some (.error f) := by
  cases turn with
  | increment live' next' =>
      rw [live] at live'
      cases live'
      cases next.symm.trans next'
      exact .inl rfl
  | absent absent =>
      rw [absent] at live
      cases live
  | overflow | failed => exact .inr ⟨_, rfl⟩
  | refused write => rcases write with same | same <;> cases same
  | lost write => rcases write with same | same <;> cases same

end Store

end RequestGuard
