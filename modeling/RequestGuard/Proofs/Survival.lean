import RequestGuard.Proofs.Course
import RequestGuard.Proofs.Kinds
import RequestGuard.Proofs.Store.Draft
import RequestGuard.Proofs.Store.Rewritten

/-!
# The snapshot survives

Whatever steps of writing snapshots fail, and however often the store is opened anew in between,
there is one of two things where the snapshot of a store belongs: what was there at the start, as
long as no snapshot has been put in place, or the one that was put in place last, whole. Hence
the store can always be opened anew, and begins with what is alive of that snapshot.

This needs a draft beside the snapshot. Where the name of the snapshot ends in `.tmp`, the
snapshot is its own draft. It is then cut off before it is written, and what fails after that
leaves it damaged.
-/

namespace RequestGuard

/-- The medium fails when the draft has already been made anew. -/
def WriteFault.late : WriteFault → Bool
  | .compose => false
  | .create => false
  | .write _ => true
  | .sync => true
  | .replace => true

/-- Whether the reply to a call tells that a snapshot was put in place. -/
def Call.wrote : (c : Call) → Option c.Reply → Bool
  | .insert _ _ _, some (.ok ()) => true
  | .insertIfAbsent _ _ _, some (.ok true) => true
  | .increment _, some (.ok (some _)) => true
  | _, _ => false

namespace Disk

variable {d d' d'' : Disk} {p : Path} {r : Route}

/-- The same files stand on both disks. -/
def SameFiles (d d' : Disk) : Prop :=
  ∀ p contents, d'.node? p = some (.file contents) ↔ d.node? p = some (.file contents)

theorem SameFiles.refl (d : Disk) : SameFiles d d := fun _ _ => Iff.rfl

theorem SameFiles.trans (h : SameFiles d d') (h' : SameFiles d' d'') : SameFiles d d'' :=
  fun p contents => (h' p contents).trans (h p contents)

theorem sameFiles_makeFolder (h : d.makeFolder r = .ok d') : SameFiles d d' := by
  unfold makeFolder at h
  split at h
  · cases h
  · rename_i p _
    split at h
    · cases h
      exact .refl d
    · cases h
    · rename_i free
      cases h
      intro q contents
      by_cases same : p = q
      · subst same
        rw [node?_put_self (by simp [free]), free]
        simp
      · rw [node?_put_of_ne same]

theorem sameFiles_makeEach (d : Disk) (rs : List Route) : SameFiles d (d.makeEach rs).2 := by
  induction rs generalizing d with
  | nil => exact .refl d
  | cons r rest ih =>
      rw [makeEach]
      split
      · exact .refl d
      · rename_i made
        exact (sameFiles_makeFolder made).trans (ih _)

/-- Making folders leaves all files. -/
theorem sameFiles_makeFolders (d : Disk) (r : Route) : SameFiles d (d.makeFolders r).2 := by
  unfold makeFolders
  split
  · exact .refl d
  · exact sameFiles_makeEach d _

/-- What stands where a draft belongs is left when the draft is another file. -/
theorem Besides.find?_trimmed (h : Besides p d d') (apart : r.draft ≠ r.trimmed)
    (resolved : d.resolve r.draft = .ok p) : d'.find? r.trimmed = d.find? r.trimmed := by
  apply find?_congr h.folders
  intro q found
  by_cases same : q = p
  · subst same
    by_cases folder : d.node? q = some .folder
    · rw [folder, h.folders.1 q folder]
    · exact absurd found (resolve_trimmed_ne_of_draft apart resolved folder)
  · exact h.elsewhere q same

/-- A route that ends in a segment that leads nowhere leads to what it did while the folders
stay. -/
theorem find?_of_trimmed_ne (tailed : r.trimmed ≠ r) (same : SameFolders d d') :
    d'.find? r = d.find? r := by
  apply find?_congr same
  intro q found
  have folder := folder_of_trimmed_ne tailed found
  rw [folder, same.1 q folder]

end Disk

namespace DurableStore

variable {r : Route} {text : List Char} {fault : Option WriteFault} {s s' : DurableStore}
  {d d' : Disk} {now : Instant} {e : StoreError} {last : Option Entries} {es : Entries}

/-- A snapshot is written without harm to the one before: its draft is another file, or nothing
fails once its own text has been cut off. -/
def Harmless (r : Route) (fault : Option WriteFault) : Prop :=
  r.draft ≠ r.trimmed ∨ r.trimmed = r ∧ ∀ f, fault = some f → f.late = false

/-- What stands where a snapshot belongs: what stood there on an earlier disk, or the snapshot
of the entries that were written last. A store reads and replaces what stands at its route. But a
route that ends in a segment that leads nowhere, as `x.tmp/` does, leads to no file whatever is
written, while the draft is made by the name before that segment. So what stands by that name is
compared too. -/
def Standing (r : Route) (d d' : Disk) : Option Entries → Prop
  | none => d'.find? r = d.find? r ∧ d'.find? r.trimmed = d.find? r.trimmed
  | some es => Rewritten ⟨r, es⟩ d'

/-- While the folders stay, what stands by the name of a route shows what stands at the route. -/
theorem find?_of_trimmed (folders : d.SameFolders d')
    (same : d'.find? r.trimmed = d.find? r.trimmed) : d'.find? r = d.find? r := by
  by_cases whole : r.trimmed = r
  · rw [whole] at same
    exact same
  · exact Disk.find?_of_trimmed_ne whole folders

theorem Standing.of_unchanged {d'' : Disk} (h : Standing r d d' last)
    (folders : d'.SameFolders d'') (same : d''.find? r.trimmed = d'.find? r.trimmed) :
    Standing r d d'' last := by
  have here := find?_of_trimmed folders same
  cases last with
  | none => exact ⟨here.trans h.1, same.trans h.2⟩
  | some es =>
      obtain ⟨text, written, there, parsed⟩ := h
      exact ⟨text, written, here.trans there, parsed⟩

/-- A text that replaces its own draft is put in place if the draft can be made. -/
theorem replace_own (own : r.draft = r) (early : ∀ f, fault = some f → f.late = false)
    (h : replace r text fault d = (.error e, d')) : d' = d := by
  unfold replace at h
  split at h
  · cases h
    rfl
  · rename_i d₁ created
    obtain ⟨p, resolved, _, made⟩ := Disk.create_ok (orFail_eq_ok created)
    have written : Disk.Wrote p (text.map some) d (d₁.fill r.draft (text.map some)) :=
      made.fill resolved
    have stays : (d₁.fill r.draft (text.map some)).rename r.draft r =
        .ok (d₁.fill r.draft (text.map some)) :=
      Disk.rename_there (written.resolve resolved) (written.resolve (own ▸ resolved)) written.there
    cases fault with
    | none => simp [orFail, stays] at h
    | some f =>
        cases f with
        | compose => simp [orFail, stays] at h
        | create => cases created
        | write | sync | replace => cases early _ rfl

/-- A text that could not be put in place has left what stands there. -/
theorem replace_refused (harmless : Harmless r fault)
    (h : replace r text fault d = (.error e, d')) :
    d.SameFolders d' ∧ d'.find? r.trimmed = d.find? r.trimmed := by
  by_cases own : r.draft = r.trimmed
  · obtain ⟨whole, early⟩ := harmless.resolve_left fun apart => apart own
    rw [replace_own (own.trans whole) early h]
    exact ⟨.refl d, rfl⟩
  · obtain ⟨_, rfl | ⟨p, resolved, besides⟩⟩ := replace_error h
    · exact ⟨.refl _, rfl⟩
    · exact ⟨besides.folders, besides.find?_trimmed own resolved⟩

/-- A snapshot is put in place, or what stands there is left. -/
theorem persist_harmless (harmless : Harmless s.location fault) :
    d.SameFolders (s.persist fault d).2 ∧ match (s.persist fault d).1 with
      | .ok () => s.Rewritten (s.persist fault d).2
      | .error _ =>
        (s.persist fault d).2.find? s.location.trimmed = d.find? s.location.trimmed := by
  cases persisted : s.persist fault d with
  | mk outcome d' =>
      cases outcome with
      | ok => exact persist_ok persisted
      | error e =>
          unfold persist at persisted
          split at persisted
          · cases persisted
            exact ⟨.refl d, rfl⟩
          · split at persisted
            · cases persisted
              exact ⟨.refl d, rfl⟩
            · exact replace_refused harmless persisted

/-- Opening a store leaves all files, whether it succeeds or not. -/
theorem sameFiles_load (r : Route) (now : Instant) (d : Disk) :
    d.SameFiles (load r now d).2 := by
  have made := d.sameFiles_makeFolders r.folder
  unfold load
  split
  · rename_i same
    rw [same] at made
    exact made
  · rename_i same
    rw [same] at made
    split
    · exact made
    · exact made

/-- A store whose folders stay can be opened anew, and begins with the snapshot that stands. -/
theorem Standing.load {es₀ : Entries} (standing : Standing r d d' last)
    (prepared : d.Prepared r.folder) (loaded : loadEntries d r = .ok es₀)
    (same : d.SameFolders d') (now : Instant) :
    load r now d' = (.ok ⟨r, (last.getD es₀).purge now⟩, d') := by
  have folder : d'.Prepared r.folder := prepared.mono same.1
  have kept : kept? ⟨r, last.getD es₀⟩ d' = some (last.getD es₀) := by
    cases last with
    | some es =>
        obtain ⟨text, _, there, parsed⟩ := standing
        exact (kept?_of_file there).trans (congrArg Except.toOption parsed)
    | none =>
        rw [kept?_congr standing.1, kept?, loaded]
        rfl
  exact load_of_prepared (s := ⟨r, last.getD es₀⟩) folder kept

end DurableStore

/-- Services in the course of a run, with the entries of the snapshot that a call put in place
last, if one did. -/
structure Saved where
  services : Services
  last : Option Entries

namespace Saved

open DurableStore

/-- What becomes of services in a move, while the medium may fail. Nothing if the store cannot be
opened anew. -/
def move? (w : Saved) : Instant × Option WriteFault × Move → Option Saved
  | (now, fault, .call c) =>
    some ⟨(w.services.perform now fault c).2,
      if c.wrote (w.services.perform now fault c).1 then
        some (w.services.perform now fault c).2.store.entries
      else w.last⟩
  | (now, _, .purge) =>
    some { w with services := { w.services with store := w.services.store.purge now } }
  | (now, _, .reopen) => (w.services.store.reopen? now).map fun store =>
    { w with services := { w.services with store := store } }

/-- What becomes of services in some moves. -/
def moves? (w : Saved) : List (Instant × Option WriteFault × Move) → Option Saved
  | [] => some w
  | m :: rest => (w.move? m).bind fun w => w.moves? rest

/-- A store on disk at a route, where the snapshot stands that was put in place last. -/
inductive Intact (r : Route) (d : Disk) : Saved → Prop
  | intro {s : DurableStore} {d' : Disk} {last : Option Entries} (directory : Directory)
      (location : s.location = r) (folders : d.SameFolders d') (standing : Standing r d d' last) :
      Intact r d ⟨⟨.durable s d', directory⟩, last⟩

variable {r : Route} {now : Instant} {fault : Option WriteFault} {c : Call} {d : Disk}
  {es es' es₀ : Entries} {directory directory' : Directory} {w w' : Saved}

/-- A call that is settled before the disk has put no snapshot in place. -/
theorem wrote_of_settled {reply : Option c.Reply}
    (h : Services.course true now es directory c = .settled reply es' directory') :
    c.wrote reply = false := by
  cases c with
  | fetch | currentVersion | isLocked | lock => rfl
  | insert key value ttl =>
      simp only [Services.course] at h
      split at h
      · split at h
        · cases h
          rfl
        · cases h
      · cases h
        rfl
  | insertIfAbsent key value ttl =>
      simp only [Services.course] at h
      split at h
      · split at h
        · cases h
          rfl
        · split at h
          · cases h
            rfl
          · cases h
      · cases h
        rfl
  | increment key =>
      simp only [Services.course] at h
      split at h
      · cases h
        rfl
      · split at h
        · cases h
          rfl
        · cases h

/-- A call that comes to the disk tells whether a snapshot was put in place. -/
theorem wrote_of_persist {answer : c.Answer}
    (h : Services.course true now es directory c = .persist es' answer)
    (written : Except StoreError Unit) :
    c.wrote (some (Services.reply (written.map fun _ => answer))) = written.isOk := by
  cases c with
  | fetch | currentVersion | isLocked | lock => cases h
  | insert key value ttl => cases written <;> rfl
  | insertIfAbsent key value ttl =>
      simp only [Services.course] at h
      split at h
      · split at h
        · cases h
        · split at h
          · cases h
          · cases h
            cases written <;> rfl
      · cases h
  | increment key =>
      simp only [Services.course] at h
      split at h
      · cases h
      · split at h
        · cases h
        · cases h
          cases written <;> rfl

/-- A call leaves the snapshot that stands, or puts the one in place that its reply tells of. -/
theorem Intact.call (intact : Intact r d w) (harmless : Harmless r fault) (now : Instant)
    (c : Call) : ∃ w', w.move? (now, fault, .call c) = some w' ∧ Intact r d w' := by
  refine ⟨_, rfl, ?_⟩
  cases intact with
  | @intro s d' last directory location folders standing =>
      dsimp only
      rw [Services.perform_durable]
      cases taken : Services.course true now s.entries directory c with
      | settled reply es directory' =>
          simp only [Services.Course.finish, wrote_of_settled taken]
          exact .intro directory' location folders standing
      | persist es answer =>
          subst location
          obtain ⟨stay, outcome⟩ :=
            persist_harmless (s := { s with entries := es }) (d := d') harmless
          simp only [Services.Course.finish, Store.withEntries, Store.persist,
            wrote_of_persist taken]
          refine .intro directory rfl (folders.trans stay) ?_
          cases written : (({ s with entries := es } : DurableStore).persist fault d').1 with
          | ok =>
              rw [written] at outcome
              exact outcome
          | error e =>
              rw [written] at outcome
              exact standing.of_unchanged stay outcome

/-- A store whose snapshot stands can be opened anew. -/
theorem Intact.reopen (intact : Intact r d w) (prepared : d.Prepared r.folder)
    (loaded : loadEntries d r = .ok es₀) (fault : Option WriteFault) (now : Instant) :
    ∃ w', w.move? (now, fault, .reopen) = some w' ∧ Intact r d w' := by
  cases intact with
  | @intro s d' last directory location folders standing =>
      subst location
      have opened := standing.load prepared loaded folders now
      have moved : move? ⟨⟨.durable s d', directory⟩, last⟩ (now, fault, .reopen) =
          some ⟨⟨.durable ⟨s.location, (last.getD es₀).purge now⟩ d', directory⟩, last⟩ := by
        simp only [move?, Store.reopen?, opened, Option.map_some]
      exact ⟨_, moved, .intro directory rfl folders standing⟩

/-- Moves that do no harm all succeed, and leave the snapshot that stands or put another in
place. -/
theorem Intact.moves {moves : List (Instant × Option WriteFault × Move)} (intact : Intact r d w)
    (prepared : d.Prepared r.folder) (loaded : loadEntries d r = .ok es₀)
    (harmless : ∀ now fault c, (now, fault, .call c) ∈ moves → Harmless r fault) :
    ∃ w', w.moves? moves = some w' ∧ Intact r d w' := by
  induction moves generalizing w with
  | nil => exact ⟨w, rfl, intact⟩
  | cons m rest ih =>
      obtain ⟨now, fault, move⟩ := m
      have moved : ∃ w', w.move? (now, fault, move) = some w' ∧ Intact r d w' := by
        cases move with
        | call c => exact intact.call (harmless now fault c List.mem_cons_self) now c
        | purge =>
            cases intact with
            | intro directory location folders standing =>
                exact ⟨_, rfl, .intro directory location folders standing⟩
        | reopen => exact intact.reopen prepared loaded fault now
      obtain ⟨w₁, first, intact₁⟩ := moved
      obtain ⟨w', others, intact'⟩ := ih intact₁ fun now fault c member =>
        harmless now fault c (List.mem_cons_of_mem _ member)
      refine ⟨w', ?_, intact'⟩
      rw [moves?, first]
      exact others

/-- Opening a store leaves all files on any disk. Once a store was opened, all calls and all
openings anew leave what stood at its route, or the snapshot that the last call put there which
succeeded in it; at every time the store can be opened anew, and begins with what is alive of
it. Whatever steps of writing snapshots fail, this holds if the draft is another file, and also
if it is not as long as nothing fails after it was made anew. -/
theorem snapshot_survives {r : Route} {now : Instant} {d₀ d : Disk} {s : DurableStore}
    (opened : DurableStore.load r now d₀ = (.ok s, d)) (directory : Directory)
    (moves : List (Instant × Option WriteFault × Move))
    (harmless : ∀ now fault c, (now, fault, .call c) ∈ moves → Harmless r fault) :
    (∀ r now d, Disk.SameFiles d (DurableStore.load r now d).2) ∧
    ∃ es₀ s' d' directory' last, loadEntries d r = .ok es₀ ∧
      moves? ⟨⟨.durable s d, directory⟩, none⟩ moves =
        some ⟨⟨.durable s' d', directory'⟩, last⟩ ∧
      Standing r d d' last ∧
      ∀ t, DurableStore.load r t d' = (.ok ⟨r, (last.getD es₀).purge t⟩, d') := by
  refine ⟨sameFiles_load, ?_⟩
  obtain ⟨made, es₀, loaded, rfl⟩ := load_eq_ok opened
  have prepared := Disk.prepared_of_makeFolders made
  have start : Intact r d ⟨⟨.durable ⟨r, es₀.purge now⟩ d, directory⟩, none⟩ :=
    .intro directory rfl (.refl d) ⟨rfl, rfl⟩
  obtain ⟨_, moved, intact⟩ := start.moves prepared loaded harmless
  cases intact with
  | @intro s' d' last directory' location folders standing =>
      exact ⟨es₀, s', d', directory', last, loaded, moved, standing,
        standing.load prepared loaded folders⟩

/-- An entry is written, and then a write fails at each of its steps. -/
def failingMoves : List (Instant × Option WriteFault × Move) :=
  [(.ofSeconds 0, none, .call (.insert "a" 1 (.ofSeconds 60))),
    (.ofSeconds 1, some .compose, .call (.increment "a")),
    (.ofSeconds 2, some .create, .call (.insert "b" 1 (.ofSeconds 60))),
    (.ofSeconds 3, some (.write 5), .call (.increment "b")),
    (.ofSeconds 4, some .sync, .call (.insertIfAbsent "c" 1 (.ofSeconds 60))),
    (.ofSeconds 5, some .replace, .call (.increment "a"))]

/-- The entries of the only snapshot that was put in place. -/
def firstEntries : Entries := Table.empty.insert "a" ⟨1, .utc (.ofSeconds 60)⟩

theorem snapshot_survives_each_fault : ∃ s' d' directory',
    moves? ⟨⟨.durable ⟨["ledger.json"], .empty⟩ (.empty "disk"), .empty⟩, none⟩ failingMoves =
      some ⟨⟨.durable s' d', directory'⟩, some firstEntries⟩ ∧ s'.entries.keys = ["a", "b", "c"] ∧
    Rewritten ⟨["ledger.json"], firstEntries⟩ d' ∧
    DurableStore.load ["ledger.json"] (.ofSeconds 59) d' =
      (.ok ⟨["ledger.json"], firstEntries⟩, d') := by
  have opened : DurableStore.load ["ledger.json"] (.ofSeconds 0) (.empty "disk") =
      (.ok ⟨["ledger.json"], .empty⟩, .empty "disk") := rfl
  obtain ⟨_, es₀, s', d', directory', last, _, moved, standing, loads⟩ :=
    snapshot_survives opened .empty failingMoves fun _ _ _ _ => .inl (by decide)
  have run : moves? ⟨⟨.durable ⟨["ledger.json"], .empty⟩ (.empty "disk"), .empty⟩, none⟩
      failingMoves = some ⟨⟨.durable _ _, _⟩, some firstEntries⟩ := rfl
  cases moved.symm.trans run
  exact ⟨_, _, _, run, rfl, standing, loads (.ofSeconds 59)⟩

/-- The second entry is not written. -/
def cutOffMoves : List (Instant × Option WriteFault × Move) :=
  [(.ofSeconds 0, none, .call (.insert "a" 1 (.ofSeconds 60))),
    (.ofSeconds 0, some (.write 1), .call (.insert "b" 1 (.ofSeconds 60)))]

/-- A snapshot named `ledger.tmp` is its own draft. A write that fails leaves it cut off: it is
neither the snapshot before nor the one after, and the store cannot be opened any more. -/
theorem own_draft_is_damaged : ∃ s' d' directory' e,
    moves? ⟨⟨.durable ⟨["ledger.tmp"], .empty⟩ (.empty "disk"), .empty⟩, none⟩ cutOffMoves =
      some ⟨⟨.durable s' d', directory'⟩, some firstEntries⟩ ∧
    ¬ Standing ["ledger.tmp"] (.empty "disk") d' (some firstEntries) ∧
    DurableStore.load ["ledger.tmp"] (.ofSeconds 0) d' = (.error e, d') := by
  obtain ⟨s', d', directory', run, there, folder⟩ : ∃ s' d' directory',
      moves? ⟨⟨.durable ⟨["ledger.tmp"], .empty⟩ (.empty "disk"), .empty⟩, none⟩ cutOffMoves =
        some ⟨⟨.durable s' d', directory'⟩, some firstEntries⟩ ∧
      d'.find? ["ledger.tmp"] = some (.file [some '\x7b']) ∧
      d'.makeFolders (Route.folder ["ledger.tmp"]) = (.ok (), d') := ⟨_, _, _, rfl, rfl, rfl⟩
  have cut : Snapshot.parse [some '\x7b'] = .error .ended := by
    rw [Snapshot.parse, Token.scan_leftBrace, Token.scan_nil]
    rfl
  refine ⟨s', d', directory', unreadable d' ["ledger.tmp"], run, ?_, ?_⟩
  · rintro ⟨text, _, there', parsed⟩
    have same := Node.file.inj (Option.some.inj (there.symm.trans there'))
    rw [← same, cut] at parsed
    cases parsed
  · simp only [DurableStore.load, folder, loadEntries, there, cut]

end Saved

end RequestGuard
