import RequestGuard.Store.Disk

/-!
# Routes on a changing disk

Where a route leads depends on the folders of a disk only, as long as it leads somewhere.
Writing, moving and removing files thus leaves every other route as it was. Folders that
were made once need not be made again.

The route of a draft leads beside that of its file: where a draft can be a file, the two
never lead to one place, unless they are one route.
-/

namespace RequestGuard

namespace Disk

variable {d d' d'' : Disk} {p q : Path} {r : Route}

/-- All folders of `d` are folders of `d'`. -/
def HasFolders (d d' : Disk) : Prop := ∀ p, d.node? p = some .folder → d'.node? p = some .folder

/-- Two disks that have the same folders. -/
def SameFolders (d d' : Disk) : Prop := HasFolders d d' ∧ HasFolders d' d

theorem SameFolders.refl (d : Disk) : SameFolders d d := ⟨fun _ h => h, fun _ h => h⟩

theorem SameFolders.trans (h : SameFolders d d') (h' : SameFolders d' d'') : SameFolders d d'' :=
  ⟨fun p folder => h'.1 p (h.1 p folder), fun p folder => h.2 p (h'.2 p folder)⟩

theorem node?_put (d : Disk) (p q : Path) (n : Node) :
    (d.put p n).node? q =
      if q.holdsRoot then some .folder else if p = q then some n else d.node? q := by
  simp only [node?, put, Table.get?_insert]
  by_cases root : q.holdsRoot = true <;> simp [root]

theorem node?_put_of_ne {n : Node} (h : p ≠ q) : (d.put p n).node? q = d.node? q := by
  rw [node?_put, if_neg h]
  by_cases root : q.holdsRoot = true <;> simp [root, node?]

theorem node?_put_self {n : Node} (h : d.node? p ≠ some .folder) :
    (d.put p n).node? p = some n := by
  have inside : p.holdsRoot ≠ true := fun root => h (by simp [node?, root])
  rw [node?_put, if_neg inside, if_pos rfl]

/-- Where one segment leads from a folder. -/
def next? (p : Path) (segment : String) : Option Path :=
  if Route.stays segment then some p
  else if Route.goesUp segment then some p.up
  else if nameLimit < segment.utf8ByteSize then none
  else some (p ++ [segment])

theorem next?_cases {segment : String} (h : next? p segment = some q) :
    q = p ∨ q = p.up ∨ q = p ++ [segment] := by
  unfold next? at h
  split at h
  · exact .inl (Option.some.inj h).symm
  · split at h
    · exact .inr (.inl (Option.some.inj h).symm)
    · split at h
      · cases h
      · exact .inr (.inr (Option.some.inj h).symm)

theorem next?_name {name : String} (here : Route.stays name = false)
    (down : Route.goesUp name = false) (h : next? p name = some q) : q = p ++ [name] := by
  rw [next?, here, down] at h
  simp only [Bool.false_eq_true, if_false] at h
  split at h
  · cases h
  · exact (Option.some.inj h).symm

theorem follow_cons_iff {segment : String} :
    d.follow p (segment :: r) = .ok q ↔
      d.node? p = some .folder ∧ ∃ p', next? p segment = some p' ∧ d.follow p' r = .ok q := by
  simp only [follow, next?]
  cases d.node? p with
  | none => simp
  | some n =>
      cases n with
      | file => simp
      | folder =>
          by_cases stays : Route.stays segment = true
          · simp [stays]
          by_cases up : Route.goesUp segment = true
          · simp [stays, up]
          by_cases long : nameLimit < segment.utf8ByteSize
          · simp [stays, up, long]
          · simp [stays, up, long]

theorem follow_append_iff {r' : Route} :
    d.follow p (r ++ r') = .ok q ↔ ∃ p', d.follow p r = .ok p' ∧ d.follow p' r' = .ok q := by
  induction r generalizing p with
  | nil => simp [follow]
  | cons segment rest ih =>
      simp only [List.cons_append, follow_cons_iff, ih]
      constructor
      · rintro ⟨folder, p₁, step, p₂, first, second⟩
        exact ⟨p₂, ⟨folder, p₁, step, first⟩, second⟩
      · rintro ⟨p₂, ⟨folder, p₁, step, first⟩, second⟩
        exact ⟨folder, p₁, step, p₂, first, second⟩

theorem follow_mono (folders : HasFolders d d') (h : d.follow p r = .ok q) :
    d'.follow p r = .ok q := by
  induction r generalizing p with
  | nil => exact h
  | cons segment rest ih =>
      rw [follow_cons_iff] at h ⊢
      obtain ⟨folder, p', step, onward⟩ := h
      exact ⟨folders p folder, p', step, ih onward⟩

theorem resolve_eq_ok_iff : d.resolve r = .ok q ↔ r.hasNull = false ∧ d.follow [] r = .ok q := by
  unfold resolve
  cases r.hasNull with
  | true => simp
  | false => simp

theorem resolve_mono (folders : HasFolders d d') (h : d.resolve r = .ok q) :
    d'.resolve r = .ok q := by
  rw [resolve_eq_ok_iff] at h ⊢
  exact ⟨h.1, follow_mono folders h.2⟩

theorem resolve_iff (same : SameFolders d d') : d'.resolve r = .ok q ↔ d.resolve r = .ok q :=
  ⟨resolve_mono same.2, resolve_mono same.1⟩

theorem find?_of_resolve (h : d.resolve r = .ok q) : d.find? r = d.node? q := by
  simp [find?, h]

/-- What a route leads to stays if the folders do and nothing happens where it leads. -/
theorem find?_congr (same : SameFolders d d')
    (there : ∀ q, d.resolve r = .ok q → d'.node? q = d.node? q) : d'.find? r = d.find? r := by
  cases h : d.resolve r with
  | ok q =>
      rw [find?_of_resolve h, find?_of_resolve ((resolve_iff same).mpr h)]
      exact there q h
  | error e =>
      cases h' : d'.resolve r with
      | ok q =>
          rw [(resolve_iff same).mp h'] at h
          cases h
      | error e' => simp [find?, h, h']

theorem sameFolders_put {contents : List Glyph} (h : d.node? p ≠ some .folder) :
    SameFolders d (d.put p (.file contents)) := by
  constructor
  · intro q folder
    have other : p ≠ q := fun same => h (same ▸ folder)
    rw [node?_put_of_ne other]
    exact folder
  · intro q folder
    by_cases same : p = q
    · subst same
      rw [node?_put_self h] at folder
      cases folder
    · rwa [node?_put_of_ne same] at folder

/-- A route without the segments at its end that lead nowhere, and those segments. -/
theorem trimmed_append (r : Route) :
    ∃ tail : Route, r = r.trimmed ++ tail ∧ ∀ segment ∈ tail, Route.stays segment = true := by
  refine ⟨(r.reverse.takeWhile Route.stays).reverse, ?_, fun segment member => ?_⟩
  · rw [Route.trimmed, ← List.reverse_append, List.takeWhile_append_dropWhile, List.reverse_reverse]
  · exact List.all_eq_true.mp List.all_takeWhile segment (List.mem_reverse.mp member)

theorem stays_getLast_trimmed {name : String} (h : r.trimmed.getLast? = some name) :
    Route.stays name = false := by
  rw [Route.trimmed, List.getLast?_reverse] at h
  have := List.head?_dropWhile_not Route.stays r.reverse
  rw [h] at this
  simpa using this

theorem follow_stays {tail : Route} (nowhere : ∀ segment ∈ tail, Route.stays segment = true)
    (h : d.follow p tail = .ok q) : q = p ∧ (tail = [] ∨ d.node? p = some .folder) := by
  induction tail with
  | nil =>
      cases h
      exact ⟨rfl, .inl rfl⟩
  | cons segment rest ih =>
      obtain ⟨folder, p', step, onward⟩ := follow_cons_iff.mp h
      rw [next?, if_pos (nowhere segment List.mem_cons_self)] at step
      cases step
      obtain ⟨rfl, _⟩ := ih (fun s hs => nowhere s (List.mem_cons_of_mem _ hs)) onward
      exact ⟨rfl, .inr folder⟩

/-- The folder above a folder is not reached by a name. -/
theorem up_ne_append {name : String} (h : Route.goesUp name = false) : p.up ≠ p ++ [name] := by
  intro same
  unfold Path.up at same
  split at same
  · rename_i root
    have last := congrArg List.getLast? same
    rw [List.getLast?_concat] at last
    cases p with
    | nil =>
        simp only [List.getLast?_singleton, Option.some.injEq] at last
        subst last
        exact absurd h (by decide)
    | cons s rest =>
        rw [List.getLast?_cons_cons] at last
        have member : name ∈ s :: rest := List.mem_of_getLast? (by simpa using last)
        have up := List.all_eq_true.mp root name member
        rw [h] at up
        cases up
  · have := congrArg List.length same
    simp only [List.length_dropLast, List.length_append, List.length_singleton] at this
    omega

/-- A draft that is not the route itself stands beside what it is a draft of. -/
theorem draft_of_apart (apart : r.draft ≠ r) : ∃ (init : Route) (name : String),
    Route.goesUp name = false ∧ r.trimmed = init ++ [name] ∧
      r.draft = init ++ [Route.draftName name (r.trimmed = r)] := by
  cases last : r.trimmed.getLast? with
  | none => exact absurd (by simp [Route.draft, last]) apart
  | some name =>
      obtain ⟨init, trimmed⟩ := List.getLast?_eq_some_iff.mp last
      cases up : Route.goesUp name with
      | true => exact absurd (by simp [Route.draft, last, up]) apart
      | false => exact ⟨init, name, up, trimmed, by simp [Route.draft, up, trimmed]⟩

/-- A route that ends in a segment that leads nowhere leads to a folder. -/
theorem folder_of_trimmed_ne (tailed : r.trimmed ≠ r) (h : d.resolve r = .ok p) :
    d.node? p = some .folder := by
  obtain ⟨tail, split, nowhere⟩ := trimmed_append r
  rw [resolve_eq_ok_iff, split, follow_append_iff] at h
  obtain ⟨_, p', _, onward⟩ := h
  obtain ⟨rfl, ends⟩ := follow_stays nowhere onward
  refine ends.resolve_left fun none => tailed ?_
  rw [none, List.append_nil] at split
  exact split.symm

/-- Where a draft can be a file, its route does not lead to the file it is a draft of, without
regard to the segments at the end that lead nowhere. -/
theorem resolve_trimmed_ne_of_draft (apart : r.draft ≠ r.trimmed) (h : d.resolve r.draft = .ok p)
    (file : d.node? p ≠ some .folder) : d.resolve r.trimmed ≠ .ok p := by
  intro same
  by_cases own : r.draft = r
  · rw [own] at h apart
    exact file (folder_of_trimmed_ne apart.symm h)
  obtain ⟨init, name, up, trimmed, draft⟩ := draft_of_apart own
  have last : r.trimmed.getLast? = some name := by rw [trimmed, List.getLast?_concat]
  -- Both routes pass through the folder `p₀`, and then have one name left.
  rw [draft, resolve_eq_ok_iff, follow_append_iff] at h
  obtain ⟨_, p₀, around, step⟩ := h
  obtain ⟨_, p₁, next, done⟩ := follow_cons_iff.mp step
  cases done
  rw [resolve_eq_ok_iff, trimmed, follow_append_iff] at same
  obtain ⟨_, p₀', around', onward⟩ := same
  rw [around] at around'
  cases around'
  obtain ⟨_, p₂, next', rest⟩ := follow_cons_iff.mp onward
  cases rest
  have there := next?_name (stays_getLast_trimmed last) up next'
  subst there
  rcases next?_cases next with same | same | same
  · have := congrArg List.length same
    simp at this
  · exact up_ne_append up same.symm
  · have one := List.append_cancel_left same
    simp only [List.cons.injEq, and_true] at one
    rw [← one, ← trimmed] at draft
    exact apart draft

/-- Where a draft can be a file, its route does not lead to the file it is a draft of. -/
theorem resolve_ne_of_draft (apart : r.draft ≠ r) (h : d.resolve r.draft = .ok p)
    (file : d.node? p ≠ some .folder) : d.resolve r ≠ .ok p := by
  intro same
  by_cases whole : r.trimmed = r
  · rw [← whole] at same
    exact resolve_trimmed_ne_of_draft (whole.symm ▸ apart) h file same
  · exact file (folder_of_trimmed_ne whole same)

/-- Making a folder leaves all folders, and the route then leads to one. -/
theorem makeFolder_ok (h : d.makeFolder r = .ok d') :
    HasFolders d d' ∧ d'.find? r = some .folder := by
  unfold makeFolder at h
  cases resolved : d.resolve r with
  | error => simp [resolved] at h
  | ok p =>
      simp only [resolved] at h
      cases node : d.node? p with
      | none =>
          simp only [node] at h
          cases h
          have free : d.node? p ≠ some .folder := by simp [node]
          have folders : HasFolders d (d.put p .folder) := by
            intro q folder
            have other : p ≠ q := fun same => free (same ▸ folder)
            rw [node?_put_of_ne other]
            exact folder
          refine ⟨folders, ?_⟩
          rw [find?_of_resolve (resolve_mono folders resolved), node?_put_self free]
      | some n =>
          simp only [node] at h
          cases n with
          | folder =>
              cases h
              exact ⟨fun _ folder => folder, by rw [find?_of_resolve resolved, node]⟩
          | file => cases h

theorem makeFolder_of_find? (h : d.find? r = some .folder) : d.makeFolder r = .ok d := by
  unfold find? at h
  unfold makeFolder
  cases resolved : d.resolve r with
  | error => simp [resolved] at h
  | ok p =>
      simp only [resolved] at h
      simp [h]

theorem find?_folder_mono (folders : HasFolders d d') (h : d.find? r = some .folder) :
    d'.find? r = some .folder := by
  cases resolved : d.resolve r with
  | error => simp [find?, resolved] at h
  | ok p =>
      rw [find?_of_resolve resolved] at h
      rw [find?_of_resolve (resolve_mono folders resolved)]
      exact folders p h

theorem makeEach_ok {rs : List Route} (h : d.makeEach rs = (.ok (), d')) :
    HasFolders d d' ∧ ∀ r ∈ rs, d'.find? r = some .folder := by
  induction rs generalizing d with
  | nil =>
      cases h
      exact ⟨fun _ folder => folder, fun r hr => by cases hr⟩
  | cons r rest ih =>
      simp only [makeEach] at h
      cases made : d.makeFolder r with
      | error => simp [made] at h
      | ok d₁ =>
          simp only [made] at h
          obtain ⟨folders, first⟩ := makeFolder_ok made
          obtain ⟨folders', others⟩ := ih h
          refine ⟨fun p folder => folders' p (folders p folder), fun r' hr' => ?_⟩
          rcases List.mem_cons.mp hr' with rfl | member
          · exact find?_folder_mono folders' first
          · exact others r' member

theorem makeEach_of_find? {rs : List Route} (h : ∀ r ∈ rs, d.find? r = some .folder) :
    d.makeEach rs = (.ok (), d) := by
  induction rs with
  | nil => rfl
  | cons r rest ih =>
      simp only [makeEach, makeFolder_of_find? (h r List.mem_cons_self)]
      exact ih fun r' hr' => h r' (List.mem_cons_of_mem _ hr')

/-- All folders on a route are there. -/
def Prepared (d : Disk) (r : Route) : Prop := d.makeFolders r = (.ok (), d)

theorem makeFolders_eq_ok_iff :
    d.makeFolders r = (.ok (), d') ↔ r.hasNull = false ∧ d.makeEach r.stations = (.ok (), d') := by
  unfold makeFolders
  cases r.hasNull with
  | true => simp
  | false => simp

/-- Folders that were made are there. -/
theorem prepared_of_makeFolders (h : d.makeFolders r = (.ok (), d')) : Prepared d' r := by
  rw [makeFolders_eq_ok_iff] at h
  exact makeFolders_eq_ok_iff.mpr ⟨h.1, makeEach_of_find? (makeEach_ok h.2).2⟩

theorem Prepared.mono (h : Prepared d r) (folders : HasFolders d d') : Prepared d' r := by
  obtain ⟨clean, made⟩ := makeFolders_eq_ok_iff.mp h
  refine makeFolders_eq_ok_iff.mpr ⟨clean, makeEach_of_find? fun r' hr' => ?_⟩
  exact find?_folder_mono folders ((makeEach_ok made).2 r' hr')

/-- A file at a path has these contents now, and nothing else has changed. -/
structure Wrote (p : Path) (contents : List Glyph) (d d' : Disk) : Prop where
  folders : SameFolders d d'
  there : d'.node? p = some (.file contents)
  elsewhere : ∀ q, q ≠ p → d'.node? q = d.node? q

namespace Wrote

variable {contents contents' : List Glyph}

theorem put (free : d.node? p ≠ some .folder) :
    Wrote p contents d (d.put p (.file contents)) where
  folders := sameFolders_put free
  there := node?_put_self free
  elsewhere _ other := node?_put_of_ne (Ne.symm other)

theorem trans (first : Wrote p contents d d') (second : Wrote p contents' d' d'') :
    Wrote p contents' d d'' where
  folders := first.folders.trans second.folders
  there := second.there
  elsewhere q other := (second.elsewhere q other).trans (first.elsewhere q other)

theorem resolve (w : Wrote p contents d d') (h : d.resolve r = .ok q) : d'.resolve r = .ok q :=
  (resolve_iff w.folders).mpr h

theorem fill (w : Wrote p contents d d') (h : d.resolve r = .ok p) :
    Wrote p contents' d (d'.fill r contents') := by
  have free : d'.node? p ≠ some .folder := by simp [w.there]
  have same : d'.fill r contents' = d'.put p (.file contents') := by
    simp [Disk.fill, w.resolve h, w.there]
  rw [same]
  exact w.trans (.put free)

/-- A route that leads elsewhere leads to what it did. -/
theorem find? (w : Wrote p contents d d') (apart : d.resolve r ≠ .ok p) :
    d'.find? r = d.find? r :=
  find?_congr w.folders fun q resolved => w.elsewhere q fun same => apart (same ▸ resolved)

end Wrote

theorem create_ok (h : d.create r = .ok d') :
    ∃ p, d.resolve r = .ok p ∧ d.node? p ≠ some .folder ∧ Wrote p [] d d' := by
  unfold create at h
  cases resolved : d.resolve r with
  | error => simp [resolved] at h
  | ok p =>
      simp only [resolved] at h
      split at h
      · cases h
      · rename_i free
        cases h
        exact ⟨p, rfl, free, .put free⟩

theorem sameFolders_erase (file : d.node? p ≠ some .folder) :
    SameFolders d { d with nodes := d.nodes.erase p } := by
  constructor
  · intro q folder
    have other : p ≠ q := fun same => file (same ▸ folder)
    simpa [node?, other] using folder
  · intro q folder
    simp only [node?, Table.get?_erase] at folder ⊢
    split at folder
    · rename_i root
      simp [root]
    · split at folder
      · cases folder
      · rename_i inside _
        simpa [inside] using folder

/-- A file that was moved is found on the route to which it was moved. -/
theorem rename_ok {source target : Route} {contents : List Glyph}
    (h : d.rename source target = .ok d') (resolved : d.resolve source = .ok p)
    (file : d.node? p = some (.file contents)) (apart : d.resolve target ≠ .ok p) :
    SameFolders d d' ∧ d'.find? target = some (.file contents) := by
  unfold rename at h
  cases found : d.resolve target with
  | error => simp [resolved, found] at h
  | ok q =>
      have other : p ≠ q := fun same => apart (same ▸ found)
      have gone := sameFolders_erase (d := d) (p := p) (by simp [file])
      simp only [resolved, found, file, if_neg other] at h
      split at h
      · cases h
      · rename_i same free
        cases same
        cases h
        have moved : Wrote q contents _ _ := .put fun folder => free (gone.2 q folder)
        refine ⟨gone.trans moved.folders, ?_⟩
        exact (find?_of_resolve (moved.resolve ((resolve_iff gone).mpr found))).trans moved.there
      · cases h
      · cases h

/-- A file is moved to where it stands by doing nothing. -/
theorem rename_there {source target : Route} {contents : List Glyph}
    (resolved : d.resolve source = .ok p) (same : d.resolve target = .ok p)
    (file : d.node? p = some (.file contents)) : d.rename source target = .ok d := by
  unfold rename
  simp only [resolved, same, file, if_true]

/-- A file that was moved is found where it was moved to, also if it was there before. -/
theorem rename_found {source target : Route} {contents : List Glyph}
    (h : d.rename source target = .ok d') (resolved : d.resolve source = .ok p)
    (file : d.node? p = some (.file contents)) :
    SameFolders d d' ∧ d'.find? target = some (.file contents) := by
  by_cases same : d.resolve target = .ok p
  · rw [rename_there resolved same file] at h
    cases h
    exact ⟨.refl d, (find?_of_resolve same).trans file⟩
  · exact rename_ok h resolved file same

/-- A file can stand at the end of a route: it leads somewhere, and to no folder. -/
def Fits (d : Disk) (r : Route) : Prop := ∃ p, d.resolve r = .ok p ∧ d.node? p ≠ some .folder

theorem Fits.of_sameFolders (h : d.Fits r) (same : SameFolders d d') : d'.Fits r := by
  obtain ⟨p, resolved, free⟩ := h
  exact ⟨p, (resolve_iff same).mpr resolved, fun folder => free (same.2 p folder)⟩

theorem create_of_free (resolved : d.resolve r = .ok p) (free : d.node? p ≠ some .folder) :
    d.create r = .ok (d.put p (.file [])) := by
  unfold create
  rw [resolved]
  dsimp only
  split
  · rename_i folder
    exact absurd folder free
  · rfl

theorem create_of_fits (h : d.Fits r) : ∃ d', d.create r = .ok d' := by
  obtain ⟨p, resolved, free⟩ := h
  exact ⟨_, create_of_free resolved free⟩

/-- A file can be moved to where a file can stand. -/
theorem rename_of_fits {source : Route} {contents : List Glyph}
    (resolved : d.resolve source = .ok p) (file : d.node? p = some (.file contents))
    (h : d.Fits r) :
    ∃ d', d.rename source r = .ok d' ∧ SameFolders d d' ∧ d'.find? r = some (.file contents) := by
  obtain ⟨q, found, free⟩ := h
  by_cases same : p = q
  · subst same
    exact ⟨d, rename_there resolved found file, .refl d, (find?_of_resolve found).trans file⟩
  · obtain ⟨d', moved⟩ : ∃ d', d.rename source r = .ok d' := by
      unfold rename
      simp only [resolved, found, file, if_neg same]
      exact ⟨_, rfl⟩
    refine ⟨d', moved, rename_ok moved resolved file fun there => same ?_⟩
    rw [found] at there
    exact (Except.ok.inj there).symm

end Disk

end RequestGuard
