import RequestGuard.Proofs.History
import RequestGuard.Proofs.Store.Alike

/-!
# One store for another

A store in memory that is purged now and then, and a store on disk that is dropped and
opened anew now and then, cannot be told apart by calls. The one holds what has expired
until it is purged, the other until it is opened or written to, and keeps its entries as
text. None of this shows in a reply, as long as the clock does not go back and the disk
takes the snapshots.

The clock begins in the year zero or later, so that every expiry has a text.
-/

namespace RequestGuard

/-- What can be done with a store of either kind. -/
inductive Move where
  | call (c : Call)
  /-- Expired entries are dropped, if the store is one in memory. -/
  | purge
  /-- The store is dropped and opened anew from its snapshot, if it has one. -/
  | reopen

def Store.purge (now : Instant) : Store → Store
  | .volatile m => .volatile (m.purge now)
  | .durable s d => .durable s d

def Store.reopen? (now : Instant) : Store → Option Store
  | .volatile m => some (.volatile m)
  | .durable s d => match DurableStore.load s.location now d with
    | (.ok s, d) => some (.durable s d)
    | (.error _, _) => none

namespace Services

/-- The calls among some moves with their replies, unless a store cannot be opened anew. The
medium does not fail. -/
def replies (s : Services) : List (Instant × Move) → Option (List Made)
  | [] => some []
  | (now, .call c) :: rest =>
    ((s.perform now none c).2.replies rest).map (⟨c, (s.perform now none c).1⟩ :: ·)
  | (now, .purge) :: rest => replies { s with store := s.store.purge now } rest
  | (now, .reopen) :: rest => match s.store.reopen? now with
    | some store => replies { s with store := store } rest
    | none => none

/-- Services that differ in the kind of their store only. -/
inductive Twins (now : Instant) : Services → Services → Prop
  | intro {m : VolatileStore} {s : DurableStore} {d : Disk} (directory : Directory)
      (mirrors : s.Mirrors now m.entries d) :
      Twins now ⟨.volatile m, directory⟩ ⟨.durable s d, directory⟩

/-- The clock does not go back, neither before the moves nor between them. -/
def Ascending (now : Instant) (moves : List (Instant × Move)) : Prop :=
  (now :: moves.map (·.1)).Pairwise (· ≤ ·)

instance (now : Instant) (moves : List (Instant × Move)) : Decidable (Ascending now moves) :=
  inferInstanceAs (Decidable ((now :: moves.map (·.1)).Pairwise (· ≤ ·)))

namespace Twins

variable {now t : Instant} {a b : Services}

theorem later (h : Twins now a b) (later : now ≤ t) : Twins t a b := by
  cases h with
  | intro directory mirrors => exact .intro directory (mirrors.later later)

/-- A call has the same reply from both, and they stay twins. -/
theorem perform (h : Twins now a b) (year : .yearZero ≤ now) (c : Call) :
    (b.perform now none c).1 = (a.perform now none c).1 ∧
      Twins now (a.perform now none c).2 (b.perform now none c).2 := by
  cases h with
  | @intro m s d directory mirrors =>
      cases c with
      | fetch key =>
          have same : s.fetch now key = m.fetch now key := (mirrors.alike.fetch key).symm
          refine ⟨?_, .intro directory mirrors⟩
          simp only [Services.perform, Store.fetch, same]
      | insert key value ttl =>
          obtain ⟨s', d', done, mirrors'⟩ := mirrors.insert year key value ttl
          simp only [Services.perform, Store.insert, done]
          exact ⟨trivial, .intro directory mirrors'⟩
      | insertIfAbsent key value ttl =>
          obtain ⟨s', d', done, mirrors'⟩ := mirrors.insertIfAbsent year key value ttl
          simp only [Services.perform, Store.insertIfAbsent, done]
          exact ⟨trivial, .intro directory mirrors'⟩
      | increment key =>
          obtain ⟨s', d', done, mirrors'⟩ := mirrors.increment key
          simp only [Services.perform, Store.increment, done]
          exact ⟨trivial, .intro directory mirrors'⟩
      | currentVersion account => exact ⟨rfl, .intro directory mirrors⟩
      | isLocked account => exact ⟨rfl, .intro directory mirrors⟩
      | lock account => exact ⟨rfl, .intro _ mirrors⟩

theorem purge (h : Twins now a b) :
    Twins now { a with store := a.store.purge now } { b with store := b.store.purge now } := by
  cases h with
  | intro directory mirrors => exact .intro directory mirrors.forget

theorem reopen (h : Twins now a b) : ∃ store store', a.store.reopen? now = some store ∧
    b.store.reopen? now = some store' ∧
      Twins now { a with store := store } { b with store := store' } := by
  cases h with
  | @intro m s d directory mirrors =>
      obtain ⟨s', opened, mirrors'⟩ := mirrors.load
      refine ⟨_, .durable s' d, rfl, ?_, .intro directory mirrors'⟩
      simp only [Store.reopen?, opened]

/-- Twins have the same replies to the same moves. -/
theorem replies {moves : List (Instant × Move)} (h : Twins now a b) (year : .yearZero ≤ now)
    (ascending : Ascending now moves) :
    ∃ made, a.replies moves = some made ∧ b.replies moves = some made := by
  induction moves generalizing now a b with
  | nil => exact ⟨[], rfl, rfl⟩
  | cons first rest ih =>
      obtain ⟨t, move⟩ := first
      obtain ⟨sooner, further⟩ := List.pairwise_cons.mp ascending
      have onward : now ≤ t := sooner t List.mem_cons_self
      have twins : Twins t a b := h.later onward
      have year' : .yearZero ≤ t := Int.le_trans year onward
      cases move with
      | call c =>
          obtain ⟨same, twins'⟩ := twins.perform year' c
          obtain ⟨made, memory, disk⟩ := ih twins' year' further
          refine ⟨⟨c, (a.perform t none c).1⟩ :: made, ?_, ?_⟩
          · rw [Services.replies, memory]
            rfl
          · rw [Services.replies, disk, same]
            rfl
      | purge => exact ih twins.purge year' further
      | reopen =>
          obtain ⟨store, store', memory, disk, twins'⟩ := twins.reopen
          simp only [Services.replies, memory, disk]
          exact ih twins' year' further

end Twins

/-- A store in memory that starts empty and one that was opened on disk and is empty have the
same replies to all calls, however often the one is purged and the other is opened anew. The
disk is one on which the snapshot and its draft can stand, and opening never fails. -/
theorem replies_of_either_kind {r : Route} {now : Instant} {d d' : Disk} {s : DurableStore}
    (opened : DurableStore.load r now d = (.ok s, d')) (empty : s.entries = .empty)
    (draft : d'.Fits r.draft) (file : d'.Fits r) (year : .yearZero ≤ now)
    (directory : Directory) (moves : List (Instant × Move)) (ascending : Ascending now moves) :
    ∃ made, Services.replies ⟨.volatile .empty, directory⟩ moves = some made ∧
      Services.replies ⟨.durable s d', directory⟩ moves = some made := by
  obtain ⟨made, es, loaded, rfl⟩ := DurableStore.load_eq_ok opened
  have alike : Entries.Alike now es .empty := by
    rw [← show es.purge now = .empty from empty]
    exact (Entries.alike_purge now es).symm
  have kept : (⟨r, es.purge now⟩ : DurableStore).kept? d' = some es := by
    rw [DurableStore.kept?, loaded]
    rfl
  have mirrors : DurableStore.Mirrors now .empty ⟨r, es.purge now⟩ d' := by
    refine ⟨?_, ⟨es, kept, (Entries.alike_purge now es).symm⟩, ?_,
      Disk.prepared_of_makeFolders made, draft, file⟩
    · exact (alike.symm).trans (Entries.alike_purge now es).symm
    · exact alike.writable_purge .empty
  exact Twins.replies (.intro directory mirrors) year ascending

/-- A value is counted up before and after the store is opened anew, and another is the
largest one. Both are looked for at the moment at which they expire. -/
def sampleMoves : List (Instant × Move) :=
  [(.ofSeconds 0, .call (.insertIfAbsent "\u03ba" 1 (.ofSeconds 60))),
    (.ofSeconds 0, .call (.increment "\u03ba")), (.ofSeconds 1, .reopen),
    (.ofSeconds 1, .call (.increment "\u03ba")),
    (.ofSeconds 2, .call (.insert "most" 0x7fffffffffffffff (.ofSeconds 30))),
    (.ofSeconds 2, .call (.insert "none" 1 (.ofSeconds (-1)))),
    (.ofSeconds 2, .call (.increment "most")), (.ofSeconds 32, .purge),
    (.ofSeconds 32, .call (.fetch "most")), (.ofSeconds 59, .call (.fetch "\u03ba")),
    (.ofSeconds 60, .reopen), (.ofSeconds 60, .call (.increment "\u03ba"))]

theorem replies_on_disk :
    Services.replies ⟨.durable ⟨["ledger.json"], .empty⟩ (.empty "disk"), .empty⟩ sampleMoves =
      some [⟨.insertIfAbsent "\u03ba" 1 (.ofSeconds 60), some (.ok true)⟩,
        ⟨.increment "\u03ba", some (.ok (some 2))⟩, ⟨.increment "\u03ba", some (.ok (some 3))⟩,
        ⟨.insert "most" 0x7fffffffffffffff (.ofSeconds 30), some (.ok ())⟩,
        ⟨.insert "none" 1 (.ofSeconds (-1)), some (.error (.storage (.nonPositiveTtl "none")))⟩,
        ⟨.increment "most", some (.error (.storage (Entries.overflow "most")))⟩,
        ⟨.fetch "most", some (.ok none)⟩, ⟨.fetch "\u03ba", some (.ok (some 3))⟩,
        ⟨.increment "\u03ba", some (.ok none)⟩] := by
  have opened : DurableStore.load ["ledger.json"] (.ofSeconds 0) (.empty "disk") =
      (.ok ⟨["ledger.json"], .empty⟩, .empty "disk") := rfl
  obtain ⟨made, memory, disk⟩ := replies_of_either_kind opened rfl ⟨["ledger.tmp"], rfl, by decide⟩
    ⟨["ledger.json"], rfl, by decide⟩ (by decide) .empty sampleMoves (by decide)
  exact disk.trans (memory.symm.trans rfl)

end Services

end RequestGuard
