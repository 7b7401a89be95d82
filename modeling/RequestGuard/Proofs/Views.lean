import RequestGuard.Proofs.Course
import RequestGuard.Proofs.Store.Draft

/-!
# What is seen under one key

`Agree` relates services that need not be the same but show the same under one key. A call about
that key has the same reply from both and keeps them so. A call about any other key keeps them so
even if only one of them performs it.

A store in memory agrees by its entry under the key, whatever the clock shows. A store on disk
drops what has expired with each write, so it agrees by what is still alive, and only as long as
the clock does not go back. Its disk must take the snapshots, though the medium may fail at any
write: when it does, depends on the write and not on what is written.
-/

namespace RequestGuard

namespace DurableStore

/-- The snapshot can be written: its text, its draft, and the snapshot in its place. -/
structure Ready (s : DurableStore) (d : Disk) : Prop where
  writable : s.entries.Writable
  draft : d.Fits s.location.draft
  file : d.Fits s.location

/-- How a snapshot is written that can be, while the medium may fail. -/
def verdict (r : Route) (d : Disk) : Option WriteFault → Except StoreError Unit
  | none => .ok ()
  | some .compose => .error unwritable
  | some .create => .error (refused "create" d r.draft .medium)
  | some (.write _) => .error (refused "write" d r.draft .medium)
  | some .sync => .error (refused "sync" d r.draft .medium)
  | some .replace => .error (refused "replace" d r .medium)

variable {r : Route} {text : List Char} {s : DurableStore} {d d' : Disk}

theorem verdict_congr (r : Route) (fault : Option WriteFault) (root : d'.root = d.root) :
    verdict r d' fault = verdict r d fault := by
  cases fault with
  | none => rfl
  | some f =>
      cases f with
      | compose => rfl
      | create => exact congrArg Except.error (refused_congr "create" r.draft .medium root)
      | write n => exact congrArg Except.error (refused_congr "write" r.draft .medium root)
      | sync => exact congrArg Except.error (refused_congr "sync" r.draft .medium root)
      | replace => exact congrArg Except.error (refused_congr "replace" r .medium root)

theorem Ready.mono (h : s.Ready d) (folders : d.SameFolders d') {es : Entries}
    (writable : es.Writable) : ({ s with entries := es } : DurableStore).Ready d' :=
  ⟨writable, h.draft.of_sameFolders folders, h.file.of_sameFolders folders⟩

/-- Where the draft and the snapshot have their places, only the medium decides. -/
theorem replace_verdict (draft : d.Fits r.draft) (file : d.Fits r) (fault : Option WriteFault)
    (whole : fault ≠ some .compose) :
    (replace r text fault d).1 = verdict r d fault ∧
      (replace r text fault d).2.root = d.root ∧ d.SameFolders (replace r text fault d).2 := by
  obtain ⟨d₁, created⟩ := Disk.create_of_fits draft
  obtain ⟨p, resolved, _, made⟩ := Disk.create_ok created
  have filled : ∀ contents, (d₁.fill r.draft contents).root = d.root ∧
      d.SameFolders (d₁.fill r.draft contents) := by
    intro contents
    exact ⟨(d₁.root_fill r.draft contents).trans (Disk.root_create created),
      (made.fill resolved).folders⟩
  have written : Disk.Wrote p (text.map some) d (d₁.fill r.draft (text.map some)) :=
    made.fill resolved
  obtain ⟨d₂, moved, folders, _⟩ := Disk.rename_of_fits (written.resolve resolved)
    written.there (file.of_sameFolders written.folders)
  obtain ⟨root, folders₁⟩ := filled (text.map some)
  cases fault with
  | none =>
      simp only [replace, orFail, created, moved, reduceCtorEq, decide_false, if_false]
      exact ⟨rfl, (Disk.root_rename moved).trans root, folders₁.trans folders⟩
  | some f =>
      cases f with
      | compose => exact absurd rfl whole
      | create =>
          simp only [replace, orFail, decide_true, if_true]
          exact ⟨rfl, trivial, .refl d⟩
      | write n =>
          simp only [replace, orFail, created, reduceCtorEq, Option.some.injEq, decide_false,
            if_false]
          exact ⟨congrArg Except.error (refused_congr "write" r.draft .medium
            (Disk.root_create created)), filled _⟩
      | sync =>
          simp only [replace, orFail, created, reduceCtorEq, Option.some.injEq, decide_false,
            if_false, if_true]
          exact ⟨congrArg Except.error (refused_congr "sync" r.draft .medium root), filled _⟩
      | replace =>
          simp only [replace, orFail, created, reduceCtorEq, Option.some.injEq, decide_false,
            decide_true, if_false, if_true]
          exact ⟨congrArg Except.error (refused_congr "replace" r .medium root), filled _⟩

theorem persist_verdict (ready : s.Ready d) (fault : Option WriteFault) :
    (s.persist fault d).1 = verdict s.location d fault ∧
      (s.persist fault d).2.root = d.root ∧ d.SameFolders (s.persist fault d).2 := by
  obtain ⟨text, written⟩ := Option.isSome_iff_exists.mp (Snapshot.written?_isSome ready.writable)
  unfold persist
  rw [written]
  dsimp only
  by_cases failing : fault = some .compose
  · subst failing
    exact ⟨rfl, rfl, .refl d⟩
  · rw [if_neg failing]
    exact replace_verdict ready.draft ready.file fault failing

end DurableStore

namespace Services

variable {now t : Instant} {c : Call} {es es' : Entries} {directory directory' : Directory}
  {key : String}

/-- A call to a store in memory ends as its course says. -/
theorem perform_memory (now : Instant) (fault : Option WriteFault) (c : Call)
    (m : VolatileStore) (directory : Directory) :
    ∃ directory', perform now fault c ⟨.volatile m, directory⟩ =
      ((course false now m.entries directory c).replyBy (.ok ()),
        ⟨.volatile ⟨(course false now m.entries directory c).entries⟩, directory'⟩) := by
  rw [perform_volatile]
  cases course false now m.entries directory c with
  | settled reply es after => exact ⟨after, rfl⟩
  | persist es answer => exact ⟨directory, rfl⟩

/-- A call to a store on disk that is ready ends as its course and the medium say. -/
theorem perform_ready {s : DurableStore} {d : Disk} (fault : Option WriteFault) (c : Call)
    (directory : Directory) (ready : s.Ready d) (year : .yearZero ≤ now) :
    ∃ d' directory', perform now fault c ⟨.durable s d, directory⟩ =
        ((course true now s.entries directory c).replyBy
            (DurableStore.verdict s.location d fault),
          ⟨.durable { s with entries := (course true now s.entries directory c).entries } d',
            directory'⟩) ∧
      ({ s with entries := (course true now s.entries directory c).entries } :
        DurableStore).Ready d' ∧
      d'.root = d.root := by
  have writable : (course true now s.entries directory c).entries.Writable :=
    course_writable year ready.writable
  rw [perform_durable]
  revert writable
  cases course true now s.entries directory c with
  | settled reply es after =>
      intro writable
      exact ⟨d, after, rfl, ready.mono (.refl d) writable, rfl⟩
  | persist es answer =>
      intro writable
      have ready₁ : ({ s with entries := es } : DurableStore).Ready d :=
        ready.mono (.refl d) writable
      obtain ⟨same, root, folders⟩ := DurableStore.persist_verdict ready₁ fault
      refine ⟨_, directory, ?_, ready.mono folders writable, root⟩
      simp only [Course.finish, Store.withEntries, Store.persist, same]
      rfl

/-- Services that show the same under a key: in memory at any time, and on disk from now on. -/
inductive Agree (key : String) (now : Instant) : Bool → Services → Services → Prop
  | volatile {es es' : Entries} {directory directory' : Directory}
      (same : es'.shown false now key = es.shown false now key) :
      Agree key now false ⟨.volatile ⟨es⟩, directory⟩ ⟨.volatile ⟨es'⟩, directory'⟩
  | durable {r : Route} {es es' : Entries} {d d' : Disk} {directory directory' : Directory}
      (year : .yearZero ≤ now) (same : es'.shown true now key = es.shown true now key)
      (ready : (⟨r, es⟩ : DurableStore).Ready d) (ready' : (⟨r, es'⟩ : DurableStore).Ready d')
      (root : d'.root = d.root) :
      Agree key now true ⟨.durable ⟨r, es⟩ d, directory⟩ ⟨.durable ⟨r, es'⟩ d', directory'⟩

namespace Agree

variable {durable : Bool} {a b : Services}

theorem symm (h : Agree key now durable a b) : Agree key now durable b a := by
  cases h with
  | volatile same => exact .volatile same.symm
  | durable year same ready ready' root => exact .durable year same.symm ready' ready root.symm

theorem trans {a' : Services} (h : Agree key now durable a' a) (h' : Agree key now durable a b) :
    Agree key now durable a' b := by
  cases h with
  | volatile same =>
      cases h' with
      | volatile same' => exact .volatile (same'.trans same)
  | durable year same ready _ root =>
      cases h' with
      | durable _ same' _ ready' root' =>
          exact .durable year (same'.trans same) ready ready' (root'.trans root)

theorem left (h : Agree key now durable a b) : Agree key now durable a a := h.trans h.symm

theorem later (h : Agree key now durable a b) (onward : durable = true → now ≤ t) :
    Agree key t durable a b := by
  cases h with
  | volatile same => exact .volatile same
  | @durable r es es' d d' directory directory' year same ready ready' root =>
      have onward : now ≤ t := onward rfl
      have shown : ∀ es : Entries, es.shown true t key =
          (es.shown true now key).filter fun e => e.isLive t :=
        fun es => Entries.live?_later onward es key
      refine .durable (Int.le_trans year onward) ?_ ready ready' root
      rw [shown, shown, same]

/-- A call about the key has the same reply from both, and they still agree. -/
theorem own (h : Agree key now durable a b) (fault : Option WriteFault)
    (about : c.key? = some key) :
    (b.perform now fault c).1 = (a.perform now fault c).1 ∧
      Agree key now durable (a.perform now fault c).2 (b.perform now fault c).2 := by
  cases h with
  | @volatile es es' directory directory' same =>
      obtain ⟨after, one⟩ := perform_memory now fault c ⟨es⟩ directory
      obtain ⟨after', other⟩ := perform_memory now fault c ⟨es'⟩ directory'
      obtain ⟨reply, kept⟩ := course_own directory directory' about same (.ok ())
      rw [one, other]
      exact ⟨reply, .volatile kept⟩
  | @durable r es es' d d' directory directory' year same ready ready' root =>
      obtain ⟨e, after, one, left, rooted⟩ := perform_ready fault c directory ready year
      obtain ⟨e', after', other, right, rooted'⟩ := perform_ready fault c directory' ready' year
      obtain ⟨reply, kept⟩ :=
        course_own directory directory' about same (DurableStore.verdict r d fault)
      rw [one, other]
      refine ⟨?_, .durable year kept left right ?_⟩
      · dsimp only
        rw [DurableStore.verdict_congr r fault root, reply]
      · rw [rooted', rooted, root]

/-- A call about another key that only one of them performs leaves them in agreement. -/
theorem elsewhere (h : Agree key now durable a b) (fault : Option WriteFault)
    (elsewhere : c.Elsewhere key) : Agree key now durable a (b.perform now fault c).2 := by
  cases h with
  | @volatile es es' directory directory' same =>
      obtain ⟨after, done⟩ := perform_memory now fault c ⟨es'⟩ directory'
      rw [done]
      exact .volatile ((course_elsewhere elsewhere).trans same)
  | @durable r es es' d d' directory directory' year same ready ready' root =>
      obtain ⟨e', after', done, right, rooted⟩ := perform_ready fault c directory' ready' year
      rw [done]
      exact .durable year ((course_elsewhere elsewhere).trans same) ready right
        (rooted.trans root)

end Agree

end Services

end RequestGuard
