import RequestGuard.Proofs.Store.Durable

/-!
# Drafts left behind

A snapshot that could not be put in place may leave its draft on the disk, complete or not.
`Besides` relates two disks that differ in one file. When this file is the draft of a store, the
store writes the same snapshots on both disks, fails alike on both, and reads the same: a draft
is made anew before it is filled, and from then on the disks do not differ.
-/

namespace RequestGuard

namespace Disk

variable {d d' : Disk} {p q : Path} {r : Route}

/-- The same stands at every path of the disks. -/
structure Alike (d d' : Disk) : Prop where
  root : d'.root = d.root
  nodes : ∀ q, d'.node? q = d.node? q

/-- The disks differ in a file at the path at most. -/
structure Besides (p : Path) (d d' : Disk) : Prop where
  root : d'.root = d.root
  folders : SameFolders d d'
  elsewhere : ∀ q, q ≠ p → d'.node? q = d.node? q

/-- An operation was refused on both disks for the same reason, or done on both. -/
inductive AlikeOutcomes : Except DiskError Disk → Except DiskError Disk → Prop
  | error (e : DiskError) : AlikeOutcomes (.error e) (.error e)
  | ok {d d' : Disk} (alike : Alike d d') : AlikeOutcomes (.ok d) (.ok d')

theorem Besides.of_wrote {contents : List Glyph} (root : d'.root = d.root)
    (w : Wrote p contents d d') : Besides p d d' := ⟨root, w.folders, w.elsewhere⟩

theorem node?_erase (d : Disk) (p q : Path) :
    ({ d with nodes := d.nodes.erase p } : Disk).node? q =
      if q.holdsRoot then some .folder else if p = q then none else d.node? q := by
  simp only [node?, Table.get?_erase]
  by_cases root : q.holdsRoot = true <;> simp [root]

namespace Alike

variable (h : Alike d d')

include h

theorem besides (p : Path) : Besides p d d' where
  root := h.root
  folders := ⟨fun q folder => (h.nodes q).trans folder,
    fun q folder => (h.nodes q).symm.trans folder⟩
  elsewhere q _ := h.nodes q

theorem follow (p : Path) (r : Route) : d'.follow p r = d.follow p r := by
  induction r generalizing p with
  | nil => rfl
  | cons segment rest ih => simp only [Disk.follow, h.nodes, ih]

theorem resolve (r : Route) : d'.resolve r = d.resolve r := by
  simp only [Disk.resolve, h.follow]

theorem put (p : Path) (n : Node) : Alike (d.put p n) (d'.put p n) where
  root := h.root
  nodes q := by rw [node?_put, node?_put, h.nodes]

theorem erase (p : Path) :
    Alike { d with nodes := d.nodes.erase p } { d' with nodes := d'.nodes.erase p } where
  root := h.root
  nodes q := by rw [node?_erase, node?_erase, h.nodes]

theorem fill (r : Route) (contents : List Glyph) :
    Alike (d.fill r contents) (d'.fill r contents) := by
  simp only [Disk.fill, h.resolve, h.nodes]
  split
  · exact h
  · split
    · exact h.put _ _
    · exact h

theorem rename (source target : Route) :
    AlikeOutcomes (d.rename source target) (d'.rename source target) := by
  simp only [Disk.rename, h.resolve, h.nodes]
  split
  · exact .error _
  · exact .error _
  · split
    · exact .error _
    · split
      · exact .ok h
      · exact .ok ((h.erase _).put _ _)
    · exact .error _
    · exact .error _

end Alike

/-- A file that is made anew is the same on both disks. -/
theorem Besides.create (h : Besides p d d') (resolved : d.resolve r = .ok p) :
    AlikeOutcomes (d.create r) (d'.create r) := by
  have resolved' : d'.resolve r = .ok p := (resolve_iff h.folders).mpr resolved
  by_cases folder : d.node? p = some .folder
  · have folder' : d'.node? p = some .folder := h.folders.1 p folder
    simp only [Disk.create, resolved, resolved', folder, folder']
    exact .error _
  · have folder' : d'.node? p ≠ some .folder := fun there => folder (h.folders.2 p there)
    rw [create_of_free resolved folder, create_of_free resolved' folder']
    refine .ok ⟨h.root, fun q => ?_⟩
    by_cases same : q = p
    · rw [same, node?_put_self folder, node?_put_self folder']
    · rw [node?_put_of_ne (Ne.symm same), node?_put_of_ne (Ne.symm same), h.elsewhere q same]

/-- What the route leads to whose draft the file is, is the same on both disks. -/
theorem Besides.find? (h : Besides p d d') (apart : r.draft ≠ r)
    (resolved : d.resolve r.draft = .ok p) : d'.find? r = d.find? r := by
  apply find?_congr h.folders
  intro q found
  by_cases same : q = p
  · subst same
    by_cases folder : d.node? q = some .folder
    · rw [folder, h.folders.1 q folder]
    · exact absurd found (resolve_ne_of_draft apart resolved folder)
  · exact h.elsewhere q same

/-- Where a draft leads somewhere, the folder for it is there. -/
theorem prepared_of_draft (apart : r.draft ≠ r) (resolved : d.resolve r.draft = .ok p) :
    d.Prepared r.folder := by
  obtain ⟨init, name, _, trimmed, draft⟩ := draft_of_apart apart
  obtain ⟨tail, split, _⟩ := trimmed_append init
  have folder : r.folder = init.trimmed := by
    rw [Route.folder, trimmed, List.dropLast_concat]
  rw [draft, resolve_eq_ok_iff, Route.hasNull, List.any_append, Bool.or_eq_false_iff] at resolved
  obtain ⟨⟨clean, _⟩, led⟩ := resolved
  rw [← Route.hasNull] at clean
  rw [folder]
  have clean' : ∀ {r' rest : Route}, init = r' ++ rest → r'.hasNull = false := by
    intro r' rest cut
    rw [cut, Route.hasNull, List.any_append, Bool.or_eq_false_iff] at clean
    exact clean.1
  refine makeFolders_eq_ok_iff.mpr ⟨clean' split, makeEach_of_find? fun r' station => ?_⟩
  obtain ⟨n, _, rfl⟩ := List.mem_map.mp station
  have cut : init = init.trimmed.take (n + 1) ++ (init.trimmed.drop (n + 1) ++ tail) := by
    rw [← List.append_assoc, List.take_append_drop, ← split]
  rw [cut, List.append_assoc, follow_append_iff] at led
  obtain ⟨p', here, onward⟩ := led
  have passed : d.node? p' = some .folder := by
    cases rest : init.trimmed.drop (n + 1) ++ tail with
    | nil =>
        rw [rest] at onward
        exact (follow_cons_iff.mp onward).1
    | cons segment more =>
        rw [rest] at onward
        exact (follow_cons_iff.mp onward).1
  rw [find?_of_resolve (resolve_eq_ok_iff.mpr ⟨clean' cut, here⟩)]
  exact passed

theorem root_create (h : d.create r = .ok d') : d'.root = d.root := by
  unfold create at h
  split at h
  · cases h
  · split at h
    · cases h
    · cases h
      rfl

theorem root_fill (d : Disk) (r : Route) (contents : List Glyph) :
    (d.fill r contents).root = d.root := by
  unfold fill
  split
  · rfl
  · split
    · rfl
    · rfl

theorem root_rename {source target : Route} (h : d.rename source target = .ok d') :
    d'.root = d.root := by
  unfold rename at h
  split at h
  · cases h
  · cases h
  · split at h
    · cases h
    · split at h
      · cases h
        rfl
      · cases h
        rfl
    · cases h
    · cases h

end Disk

namespace DurableStore

variable {r : Route} {text : List Char} {fault : Option WriteFault} {s : DurableStore}
  {d d' : Disk} {now : Instant} {p : Path} {e : StoreError}

theorem refused_congr (action : String) (r : Route) (e : DiskError) (root : d'.root = d.root) :
    refused action d' r e = refused action d r e := by
  simp only [refused, Disk.describe, root]

theorem orFail_alike {x y : Except DiskError Disk} (failing : Bool) (h : Disk.AlikeOutcomes x y) :
    Disk.AlikeOutcomes (orFail failing x) (orFail failing y) := by
  unfold orFail
  split
  · exact .error _
  · exact h

/-- A text that could not be put in place has changed nothing but the draft. -/
theorem replace_error (h : replace r text fault d = (.error e, d')) :
    (∃ message, e = .backend message) ∧
      (d' = d ∨ ∃ p, d.resolve r.draft = .ok p ∧ Disk.Besides p d d') := by
  unfold replace at h
  split at h
  · cases h
    exact ⟨⟨_, rfl⟩, .inl rfl⟩
  · rename_i d₁ created
    obtain ⟨p, resolved, _, made⟩ := Disk.create_ok (orFail_eq_ok created)
    have filled : ∀ contents, d₁.fill r.draft contents = d ∨
        ∃ p, d.resolve r.draft = .ok p ∧ Disk.Besides p d (d₁.fill r.draft contents) := by
      intro contents
      have root : (d₁.fill r.draft contents).root = d.root :=
        (d₁.root_fill r.draft contents).trans (Disk.root_create (orFail_eq_ok created))
      exact .inr ⟨p, resolved, .of_wrote root (made.fill resolved)⟩
    split at h
    · cases h
      exact ⟨⟨_, rfl⟩, filled _⟩
    · dsimp only at h
      split at h
      · cases h
        exact ⟨⟨_, rfl⟩, filled _⟩
      · split at h
        · cases h
          exact ⟨⟨_, rfl⟩, filled _⟩
        · cases h

/-- On disks that differ in the draft only, a text is put in place on both or on neither. -/
theorem replace_besides (b : Disk.Besides p d d') (resolved : d.resolve r.draft = .ok p) :
    (replace r text fault d').1 = (replace r text fault d).1 ∧
      Disk.Besides p (replace r text fault d).2 (replace r text fault d').2 := by
  have created := orFail_alike (fault = some .create) (b.create resolved)
  unfold replace
  generalize orFail (fault = some .create) (d.create r.draft) = x at created
  generalize orFail (fault = some .create) (d'.create r.draft) = y at created
  cases created with
  | error e => exact ⟨congrArg Except.error (refused_congr "create" r.draft e b.root), b⟩
  | @ok d₁ d₁' alike =>
      have filled := fun contents => alike.fill r.draft contents
      dsimp only
      split
      · exact ⟨congrArg Except.error (refused_congr "write" r.draft .medium alike.root),
          (filled _).besides p⟩
      · have whole := filled (text.map some)
        split
        · exact ⟨congrArg Except.error (refused_congr "sync" r.draft .medium whole.root),
            whole.besides p⟩
        · have moved := orFail_alike (fault = some .replace) (whole.rename r.draft r)
          generalize orFail (fault = some .replace)
            ((d₁.fill r.draft (text.map some)).rename r.draft r) = x at moved
          generalize orFail (fault = some .replace)
            ((d₁'.fill r.draft (text.map some)).rename r.draft r) = y at moved
          cases moved with
          | error e =>
              exact ⟨congrArg Except.error (refused_congr "replace" r e whole.root),
                whole.besides p⟩
          | ok moved => exact ⟨rfl, moved.besides p⟩

theorem persist_besides (fault : Option WriteFault) (b : Disk.Besides p d d')
    (resolved : d.resolve s.location.draft = .ok p) :
    (s.persist fault d').1 = (s.persist fault d).1 ∧
      Disk.Besides p (s.persist fault d).2 (s.persist fault d').2 := by
  unfold persist
  split
  · exact ⟨rfl, b⟩
  · split
    · exact ⟨rfl, b⟩
    · exact replace_besides b resolved

/-- Persisting makes no folders and removes none. -/
theorem persist_sameFolders (fault : Option WriteFault) (apart : s.location.draft ≠ s.location) :
    d.SameFolders (s.persist fault d).2 := by
  unfold persist
  split
  · exact .refl d
  · split
    · exact .refl d
    · exact (replaced_replace apart).1

/-- A snapshot that could not be written leaves the disk as it was but for the draft. -/
theorem persist_error (h : s.persist fault d = (.error e, d')) :
    (∃ message, e = .serialization message ∨ e = .backend message) ∧
      (d' = d ∨ ∃ p, d.resolve s.location.draft = .ok p ∧ Disk.Besides p d d') := by
  unfold persist at h
  split at h
  · cases h
    exact ⟨⟨_, .inl rfl⟩, .inl rfl⟩
  · split at h
    · cases h
      exact ⟨⟨_, .inl rfl⟩, .inl rfl⟩
    · obtain ⟨⟨message, failed⟩, rest⟩ := replace_error h
      exact ⟨⟨message, .inr failed⟩, rest⟩

/-- A store is opened alike on disks that differ in its draft only, and leaves them so. -/
theorem load_besides (now : Instant) (b : Disk.Besides p d d') (apart : r.draft ≠ r)
    (resolved : d.resolve r.draft = .ok p) :
    ∃ opened, load r now d = (opened, d) ∧ load r now d' = (opened, d') := by
  have folder : d.makeFolders r.folder = (.ok (), d) := Disk.prepared_of_draft apart resolved
  have folder' : d'.makeFolders r.folder = (.ok (), d') :=
    (Disk.prepared_of_draft apart resolved).mono b.folders.1
  have loaded : loadEntries d' r = loadEntries d r := by
    simp only [loadEntries, b.find? apart resolved, unreadable, refused, Disk.describe, b.root]
  unfold load
  rw [folder, folder']
  dsimp only
  rw [loaded]
  cases loadEntries d r with
  | error e => exact ⟨_, rfl, rfl⟩
  | ok es => exact ⟨_, rfl, rfl⟩

end DurableStore

end RequestGuard
