import RequestGuard.Proofs.Course
import RequestGuard.Proofs.Kinds
import RequestGuard.Proofs.Store.Draft

/-!
# Writes that fail

A call to a store on disk settles what the entries in memory become before it turns to the disk.
Hence a change that could not be persisted stays in memory, and is all that stays: the snapshot
is the one before, and a store that is opened anew goes on as if the call had not been made.
Until then later calls see the change, and the next snapshot that is written contains it.
-/

namespace RequestGuard

/-- What stands where the snapshot of a store belongs, if it has one. -/
def Store.snapshot? : Store → Option Node
  | .volatile _ => none
  | .durable s d => d.find? s.location

namespace Services

/-- What is seen of services in the course of some moves, while the medium may fail: the calls
with their replies, and the snapshot after each. Nothing if a store cannot be opened anew. -/
def seen (s : Services) :
    List (Instant × Option WriteFault × Move) → Option (List (Made × Option Node))
  | [] => some []
  | (now, fault, .call c) :: rest =>
    ((s.perform now fault c).2.seen rest).map
      ((⟨c, (s.perform now fault c).1⟩, (s.perform now fault c).2.store.snapshot?) :: ·)
  | (now, _, .purge) :: rest => seen { s with store := s.store.purge now } rest
  | (now, _, .reopen) :: rest => match s.store.reopen? now with
    | some store => seen { s with store := store } rest
    | none => none

variable {now : Instant} {fault : Option WriteFault} {c : Call} {s : DurableStore} {d d' : Disk}
  {directory : Directory} {es es' : Entries} {e : StoreError} {after : Services}

/-- Services whose stores are one in memory, on disks that differ in its draft only. -/
inductive Beside : Services → Services → Prop
  | intro {s : DurableStore} {d d' : Disk} {p : Path} (directory : Directory)
      (apart : s.location.draft ≠ s.location) (resolved : d.resolve s.location.draft = .ok p)
      (besides : Disk.Besides p d d') :
      Beside ⟨.durable s d, directory⟩ ⟨.durable s d', directory⟩

namespace Beside

variable {a b : Services}

theorem snapshot? (h : Beside a b) : b.store.snapshot? = a.store.snapshot? := by
  cases h with
  | intro directory apart resolved besides => exact besides.find? apart resolved

/-- A call has the same reply from both, and the disks differ in the draft only after it. -/
theorem perform (h : Beside a b) (now : Instant) (fault : Option WriteFault) (c : Call) :
    (b.perform now fault c).1 = (a.perform now fault c).1 ∧
      Beside (a.perform now fault c).2 (b.perform now fault c).2 := by
  cases h with
  | @intro s d d' p directory apart resolved besides =>
      rw [perform_durable, perform_durable]
      cases course true now s.entries directory c with
      | settled reply es directory' => exact ⟨rfl, .intro directory' apart resolved besides⟩
      | persist es answer =>
          obtain ⟨same, besides'⟩ :=
            DurableStore.persist_besides (s := { s with entries := es }) fault besides resolved
          have folders :=
            DurableStore.persist_sameFolders (s := { s with entries := es }) (d := d) fault apart
          simp only [Course.finish, Store.withEntries, Store.persist, same]
          exact ⟨trivial, .intro directory apart ((Disk.resolve_iff folders).mpr resolved) besides'⟩

/-- If one store can be opened anew, so can the other, and they are one in memory again. -/
theorem reopen (h : Beside a b) (now : Instant) :
    (a.store.reopen? now = none ∧ b.store.reopen? now = none) ∨
      ∃ store store', a.store.reopen? now = some store ∧ b.store.reopen? now = some store' ∧
        Beside { a with store := store } { b with store := store' } := by
  cases h with
  | @intro s d d' p directory apart resolved besides =>
      obtain ⟨opened, one, other⟩ := DurableStore.load_besides now besides apart resolved
      simp only [Store.reopen?, one, other]
      cases opened with
      | error e => exact .inl ⟨rfl, rfl⟩
      | ok s' =>
          obtain ⟨_, es, _, rfl⟩ := DurableStore.load_eq_ok one
          exact .inr ⟨_, _, rfl, rfl, .intro directory apart resolved besides⟩

/-- The same is seen of both. -/
theorem seen {moves : List (Instant × Option WriteFault × Move)} (h : Beside a b) :
    b.seen moves = a.seen moves := by
  induction moves generalizing a b with
  | nil => rfl
  | cons first rest ih =>
      obtain ⟨now, fault, move⟩ := first
      cases move with
      | call c =>
          obtain ⟨same, after⟩ := h.perform now fault c
          rw [Services.seen, Services.seen, ih after, same, after.snapshot?]
      | purge =>
          rw [Services.seen, Services.seen]
          cases h with
          | intro directory apart resolved besides =>
              exact ih (.intro directory apart resolved besides)
      | reopen =>
          rw [Services.seen, Services.seen]
          obtain ⟨one, other⟩ | ⟨store, store', one, other, after⟩ := h.reopen now
          · rw [one, other]
          · rw [one, other]
            exact ih after

end Beside

/-- A call that fails at the store has either been refused before it turned to the disk, or has
come to entries that could not be persisted. -/
theorem course_of_failed
    (failed : perform now fault c ⟨.durable s d, directory⟩ =
      (some (.error (.storage e)), after)) :
    (course true now s.entries directory c =
        .settled (some (.error (.storage e))) s.entries directory ∧
      after = ⟨.durable s d, directory⟩) ∨
    ∃ es answer d', course true now s.entries directory c = .persist es answer ∧
      ({ s with entries := es } : DurableStore).persist fault d = (.error e, d') ∧
      after = ⟨.durable { s with entries := es } d', directory⟩ := by
  rw [perform_durable] at failed
  cases taken : course true now s.entries directory c with
  | settled reply es directory' =>
      rw [taken] at failed
      cases failed
      obtain ⟨rfl, rfl⟩ := course_error taken
      exact .inl ⟨rfl, rfl⟩
  | persist es answer =>
      rw [taken] at failed
      simp only [Course.finish, Store.withEntries, Store.persist, Prod.mk.injEq] at failed
      obtain ⟨error, rfl⟩ := failed
      refine .inr ⟨es, answer, _, rfl, Prod.ext ?_ rfl, rfl⟩
      cases outcome : (({ s with entries := es } : DurableStore).persist fault d).1 with
      | ok =>
          rw [outcome] at error
          cases error
      | error e' =>
          rw [outcome] at error
          cases error
          rfl

/-- Whether they could be persisted or not, the entries to which a call has come are in memory. -/
theorem entries_of_persist {answer : c.Answer} {reply : Option c.Reply}
    (taken : course true now s.entries directory c = .persist es answer)
    (done : perform now fault c ⟨.durable s d, directory⟩ = (reply, after)) :
    after.store.entries = es := by
  rw [perform_durable, taken] at done
  cases done
  rfl

/-- A call that fails at the store leaves the snapshot as it was. A refusal leaves everything as
it was. Any other error leaves in memory what success leaves there, whatever the disk, and
nothing else: once the store is opened anew, all goes on as if the call had not been made. -/
theorem failed_call_stays_in_memory (apart : s.location.draft ≠ s.location)
    (failed : perform now fault c ⟨.durable s d, directory⟩ =
      (some (.error (.storage e)), after)) :
    after.store.snapshot? = d.find? s.location ∧
    ((∀ message, e ≠ .serialization message ∧ e ≠ .backend message) →
      after = ⟨.durable s d, directory⟩) ∧
    (∀ t fault' moves, after.seen ((t, fault', .reopen) :: moves) =
      seen ⟨.durable s d, directory⟩ ((t, fault', .reopen) :: moves)) ∧
    ∀ fault' d' answer done, perform now fault' c ⟨.durable s d', directory⟩ =
      (some (.ok answer), done) → after.store.entries = done.store.entries := by
  obtain ⟨taken, rfl⟩ | ⟨es, answer, d₁, taken, persisted, rfl⟩ := course_of_failed failed
  · refine ⟨rfl, fun _ => rfl, fun _ _ _ => rfl, ?_⟩
    intro fault' d' answer done succeeded
    rw [perform_durable, taken] at succeeded
    cases succeeded
  · obtain ⟨⟨message, kind⟩, draft⟩ := DurableStore.persist_error persisted
    refine ⟨?_, ?_, ?_, fun _ _ _ _ succeeded => (entries_of_persist taken succeeded).symm⟩
    · obtain rfl | ⟨p, resolved, besides⟩ := draft
      · rfl
      · exact besides.find? apart resolved
    · intro refusal
      obtain rfl | rfl := kind
      · exact ((refusal message).1 rfl).elim
      · exact ((refusal message).2 rfl).elim
    · intro t fault' moves
      -- Opening a store anew does not depend on its entries.
      have opened : seen ⟨.durable { s with entries := es } d₁, directory⟩
          ((t, fault', .reopen) :: moves) =
            seen ⟨.durable s d₁, directory⟩ ((t, fault', .reopen) :: moves) := by
        rw [seen, seen]
        rfl
      rw [opened]
      obtain rfl | ⟨p, resolved, besides⟩ := draft
      · rfl
      · exact (Beside.intro directory apart resolved besides).seen

/-- A store whose draft cannot be made, for a folder stands in its place. -/
def blockedStore : Services :=
  ⟨.durable ⟨["ledger.json"], .empty⟩ ((Disk.empty "disk").put ["ledger.tmp"] .folder), .empty⟩

/-- A value that could not be stored is found. -/
theorem failed_insert_is_found : ∃ e after,
    blockedStore.perform (.ofSeconds 0) none (.insert "k" 1 (.ofSeconds 60)) =
      (some (.error (.storage e)), after) ∧
    (after.perform (.ofSeconds 0) none (.fetch "k")).1 = some (.ok (some 1)) ∧
    (blockedStore.perform (.ofSeconds 0) none (.fetch "k")).1 = some (.ok none) :=
  ⟨_, _, rfl, rfl, rfl⟩

def countedStore : DurableStore :=
  ⟨["ledger.json"], Table.empty.insert "k" ⟨1, .utc (.ofSeconds 60)⟩⟩

def countedDisk : Disk := (countedStore.persist none (.empty "disk")).2

/-- A count to two that could not be persisted is in memory until the store is opened anew. -/
theorem failed_increment_stays_in_memory : ∃ e after,
    perform (.ofSeconds 0) (some .replace) (.increment "k") ⟨.durable countedStore countedDisk,
      .empty⟩ = (some (.error (.storage e)), after) ∧
    (after.perform (.ofSeconds 0) none (.fetch "k")).1 = some (.ok (some 2)) ∧
    after.store.snapshot? = countedDisk.find? ["ledger.json"] ∧
    after.seen [(.ofSeconds 0, none, .reopen), (.ofSeconds 0, none, .call (.fetch "k"))] =
      seen ⟨.durable countedStore countedDisk, .empty⟩
        [(.ofSeconds 0, none, .reopen), (.ofSeconds 0, none, .call (.fetch "k"))] := by
  have failed : perform (.ofSeconds 0) (some .replace) (.increment "k")
      ⟨.durable countedStore countedDisk, .empty⟩ = (some (.error (.storage _)), _) := rfl
  obtain ⟨snapshot, _, opened, _⟩ := failed_call_stays_in_memory (by decide) failed
  exact ⟨_, _, failed, rfl, snapshot, opened _ _ _⟩

end Services

end RequestGuard
