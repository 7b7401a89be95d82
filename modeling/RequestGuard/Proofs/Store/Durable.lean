import RequestGuard.Proofs.Store.Disk
import RequestGuard.Proofs.Store.Snapshot
import RequestGuard.Store.Durable

/-!
# What a snapshot keeps

A snapshot that was written holds the entries that the store had in memory. One that
could not be written, at whatever step, leaves the one before it as it was, for it is
written beside that one until it is complete.

Both need a store whose snapshot is not its own draft.
-/

namespace RequestGuard

namespace DurableStore

variable {r : Route} {text : List Char} {fault : Option WriteFault} {s s' : DurableStore}
  {d d' : Disk} {now : Instant}

/-- The entries that a store opened anew would begin with, expired ones among them. -/
def kept? (s : DurableStore) (d : Disk) : Option Entries := (loadEntries d s.location).toOption

/-- The snapshot is not its own draft, and the folder for it is there. -/
structure Placed (s : DurableStore) (d : Disk) : Prop where
  apart : s.location.draft ≠ s.location
  folder : d.Prepared s.location.folder

theorem orFail_eq_ok {α : Type} {failing : Bool} {x : Except DiskError α} {a : α}
    (h : orFail failing x = .ok a) : x = .ok a := by
  unfold orFail at h
  split at h
  · cases h
  · exact h

/-- The outcome of writing a text to a route: it is there, or nothing has changed there. -/
def Replaced (r : Route) (text : List Char) (d : Disk) (x : Except StoreError Unit × Disk) : Prop :=
  d.SameFolders x.2 ∧ match x.1 with
    | .ok () => x.2.find? r = some (.file (text.map some))
    | .error _ => x.2.find? r = d.find? r

theorem replaced_replace (apart : r.draft ≠ r) : Replaced r text d (replace r text fault d) := by
  unfold replace
  split
  · exact ⟨.refl d, rfl⟩
  · rename_i d₁ created
    obtain ⟨p, resolved, file, made⟩ := Disk.create_ok (orFail_eq_ok created)
    have beside := Disk.resolve_ne_of_draft apart resolved file
    have filled : ∀ contents, Disk.Wrote p contents d (d₁.fill r.draft contents) :=
      fun contents => made.fill resolved
    split
    · exact ⟨(filled _).folders, (filled _).find? beside⟩
    · dsimp only
      have written := filled (text.map some)
      split
      · exact ⟨written.folders, written.find? beside⟩
      · split
        · exact ⟨written.folders, written.find? beside⟩
        · rename_i d₂ moved
          obtain ⟨folders, there⟩ := Disk.rename_ok (orFail_eq_ok moved)
            (written.resolve resolved) written.there
            fun same => beside ((Disk.resolve_iff written.folders).mp same)
          exact ⟨written.folders.trans folders, there⟩

theorem kept?_of_file {contents : List Glyph} (h : d.find? s.location = some (.file contents)) :
    s.kept? d = (Snapshot.parse contents).toOption := by
  simp only [kept?, loadEntries, h]
  cases Snapshot.parse contents with
  | ok => rfl
  | error => rfl

theorem kept?_congr (same : d'.find? s.location = d.find? s.location) : s.kept? d' = s.kept? d := by
  simp only [kept?, loadEntries, same]
  cases d.find? s.location with
  | none => rfl
  | some n =>
      cases n with
      | folder => rfl
      | file contents =>
          dsimp only
          cases Snapshot.parse contents with
          | ok => rfl
          | error => rfl

/-- A snapshot that was written holds the entries in memory. One that could not be
written leaves the one before it. -/
theorem kept?_persist (fault : Option WriteFault) (placed : s.Placed d) :
    s.Placed (s.persist fault d).2 ∧ s.kept? (s.persist fault d).2 =
      match (s.persist fault d).1 with
      | .ok () => some s.entries
      | .error _ => s.kept? d := by
  unfold persist
  cases written : Snapshot.written? s.entries with
  | none => exact ⟨placed, rfl⟩
  | some text =>
      dsimp only
      split
      · exact ⟨placed, rfl⟩
      · have replaced : Replaced s.location text d (replace s.location text fault d) :=
          replaced_replace placed.apart
        obtain ⟨folders, outcome⟩ := replaced
        refine ⟨⟨placed.apart, placed.folder.mono folders.1⟩, ?_⟩
        cases result : (replace s.location text fault d).1 with
        | ok =>
            rw [result] at outcome
            rw [kept?_of_file outcome, Snapshot.parse_written? written]
            rfl
        | error e =>
            rw [result] at outcome
            exact kept?_congr outcome

/-- Where the draft and the file itself can be written, a text is put in place. -/
theorem replace_of_fits (text : List Char) (draft : d.Fits r.draft) (file : d.Fits r) :
    ∃ d', replace r text none d = (.ok (), d') ∧ d.SameFolders d' ∧
      d'.find? r = some (.file (text.map some)) := by
  obtain ⟨d₁, created⟩ := Disk.create_of_fits draft
  obtain ⟨p, resolved, _, made⟩ := Disk.create_ok created
  have written : Disk.Wrote p (text.map some) d (d₁.fill r.draft (text.map some)) :=
    made.fill resolved
  obtain ⟨d', moved, folders, there⟩ := Disk.rename_of_fits (written.resolve resolved)
    written.there (file.of_sameFolders written.folders)
  refine ⟨d', ?_, written.folders.trans folders, there⟩
  have begun : orFail (decide ((none : Option WriteFault) = some .create)) (d.create r.draft) =
      .ok d₁ := created
  have ended : orFail (decide ((none : Option WriteFault) = some .replace))
      ((d₁.fill r.draft (text.map some)).rename r.draft r) = .ok d' := moved
  unfold replace
  rw [begun]
  dsimp only
  rw [if_neg (by decide), ended]

/-- A snapshot that can be written holds the entries in memory. -/
theorem persist_of_fits (writable : (Snapshot.written? s.entries).isSome)
    (draft : d.Fits s.location.draft) (file : d.Fits s.location) :
    ∃ d', s.persist none d = (.ok (), d') ∧ d.SameFolders d' ∧ s.kept? d' = some s.entries := by
  obtain ⟨text, written⟩ := Option.isSome_iff_exists.mp writable
  obtain ⟨d', replaced, folders, there⟩ := replace_of_fits text draft file
  refine ⟨d', ?_, folders, ?_⟩
  · unfold persist
    rw [written]
    dsimp only
    rw [if_neg nofun, replaced]
  · rw [kept?_of_file there, Snapshot.parse_written? written]
    rfl

/-- Opening a store makes the folder for its snapshot, and reads it. -/
theorem load_eq_ok (h : load r now d = (.ok s', d')) :
    d.makeFolders r.folder = (.ok (), d') ∧
      ∃ es, loadEntries d' r = .ok es ∧ s' = ⟨r, es.purge now⟩ := by
  unfold load at h
  split at h
  · cases h
  · rename_i made
    split at h
    · cases h
    · rename_i es loaded
      cases h
      exact ⟨made, es, loaded, rfl⟩

/-- A store opened anew begins with what its snapshot keeps. -/
theorem load_ok (folder : d.Prepared r.folder) (h : load r now d = (.ok s', d')) :
    d' = d ∧ ∃ es, loadEntries d r = .ok es ∧ s' = ⟨r, es.purge now⟩ := by
  obtain ⟨made, opened⟩ := load_eq_ok h
  rw [show d.makeFolders r.folder = (.ok (), d) from folder] at made
  cases made
  exact ⟨rfl, opened⟩

/-- A store that is stopped can be opened anew. -/
theorem load_of_prepared {es : Entries} (folder : d.Prepared s.location.folder)
    (kept : s.kept? d = some es) :
    load s.location now d = (.ok ⟨s.location, es.purge now⟩, d) := by
  have loaded : loadEntries d s.location = .ok es := by
    unfold kept? at kept
    cases result : loadEntries d s.location with
    | error e =>
        rw [result] at kept
        cases kept
    | ok es' =>
        rw [result] at kept
        cases kept
        rfl
  unfold load
  rw [show d.makeFolders s.location.folder = (.ok (), d) from folder]
  simp only [loaded]

theorem load_of_kept? {es : Entries} (placed : s.Placed d) (kept : s.kept? d = some es) :
    load s.location now d = (.ok ⟨s.location, es.purge now⟩, d) :=
  load_of_prepared placed.folder kept

/-- Opening a store puts its snapshot in place. -/
theorem placed_of_load (apart : r.draft ≠ r) (h : load r now d = (.ok s', d')) :
    s'.location = r ∧ s'.Placed d' := by
  obtain ⟨made, es, _, rfl⟩ := load_eq_ok h
  exact ⟨rfl, apart, Disk.prepared_of_makeFolders made⟩

end DurableStore

end RequestGuard
