import RequestGuard.Proofs.Traffic.Settled

/-!
# Single use on disk

Over a store on disk, whatever writes fail and however often the process stops, a token is
granted at most once while it lives. What was reported holds for good: the call that a grant
or a revocation rests on was answered, so the snapshot had it, and no later snapshot falls
below it. What was not reported may be undone by a restart, and then counts for nobody.
-/

namespace RequestGuard

namespace Traffic

variable {l : Ledger} {id : TokenId} {expiry now : Instant} {c : Claims} {w v : Traffic} {n : Nat}
  {later : List Event}

/-- Someone was told that the token is revoked. -/
def ReportedRevoked (id : TokenId) (w : Traffic) : Prop :=
  ∃ n c, c.tokenId = id ∧ (w.Answered n (.logout c) (.ok ()) ∨
    w.Answered n (.refresh c) (.ok (.denied .replay)))

theorem Guarded.revoked_of_reported (g : Guarded l id expiry w) (h : ReportedRevoked id w) :
    ∃ n, Revoked l id w.log n := by
  obtain ⟨n, c, rfl, logout | replay⟩ := h
  · cases g.presents logout rfl
    exact ⟨n, g.revoked_of_logout logout⟩
  · exact ⟨n, g.sound.revoked_of_replay replay⟩

/-- A store that was opened where no snapshot is, while a token lives. -/
private theorem run_on_disk {r : Route} {d₀ d : Disk} {s : DurableStore} {directory : Directory}
    (apart : r.draft ≠ r) (opened : DurableStore.load r now d₀ = (.ok s, d))
    (blank : d.find? r = none) (early : now < expiry)
    (reaches : Reaches l (Regular id expiry) (start now ⟨.durable s d, directory⟩) w) :
    Run l id expiry (Regular id expiry) (start now ⟨.durable s d, directory⟩) w ∧
      Store.Holds (Entries.Outlives (l.key id) expiry) (.durable s d) := by
  obtain ⟨_, placed⟩ := DurableStore.placed_of_load apart opened
  obtain ⟨_, es, loaded, rfl⟩ := DurableStore.load_eq_ok opened
  simp only [DurableStore.loadEntries, blank, Except.ok.injEq] at loaded
  subst loaded
  have kept : DurableStore.kept? ⟨r, Entries.purge .empty now⟩ d = some .empty := by
    simp only [DurableStore.kept?, DurableStore.loadEntries, blank, Except.toOption]
  exact ⟨⟨reaches, fun _ _ ok => ok, guarded_start early placed⟩, .empty, .empty, kept, .empty⟩

theorem granted_once_on_disk (l : Ledger) (id : TokenId) (expiry : Instant) {r : Route}
    {d₀ d : Disk} {s : DurableStore} (directory : Directory) (apart : r.draft ≠ r)
    (opened : DurableStore.load r now d₀ = (.ok s, d)) (blank : d.find? r = none)
    (early : now < expiry)
    (reaches : Reaches l (Regular id expiry) (start now ⟨.durable s d, directory⟩) w) :
    (∀ m n c c', c.tokenId = id → c'.tokenId = id → w.Answered m (.refresh c) (.ok .granted) →
      w.Answered n (.refresh c') (.ok .granted) → m = n) ∧
    (ReportedRevoked id w → ∀ v, Reaches l (Regular id expiry) w v →
      ∀ later, v.log = w.log ++ later → ∀ t n reply,
      Event.called t n ⟨.increment (l.key id), reply⟩ ∈ later →
      ∀ c, c.tokenId = id → ¬ v.Answered n (.refresh c) (.ok .granted)) := by
  obtain ⟨run, lives⟩ := run_on_disk apart opened blank early reaches
  have g := run.guarded_last
  constructor
  · rintro m n c c' rfl same first second
    have claimed := g.sound.claimed_of_granted second
    rw [same] at claimed
    exact run.claimed_unique (List.nil_append _).symm lives
      (g.sound.claimed_of_granted first) claimed
  · rintro reported v further later same t n reply called c rfl granted
    obtain ⟨k, revoked⟩ := g.revoked_of_reported reported
    have settled := run.settled_of_revoked (List.nil_append _).symm revoked
    have rest : Run l c.tokenId expiry _ w v := ⟨further, fun _ _ ok => ok, g⟩
    cases rest.guarded_last.presents granted rfl
    exact rest.not_granted_of_increment settled same called granted

def blankStore : DurableStore := ⟨["ledger.json"], .empty⟩

def beforeCrash : Traffic :=
  start (.ofSeconds 0) ⟨.durable blankStore (.empty "disk"), sampleDirectory⟩

/-- A presentation claims the sample token in memory, but the snapshot is not replaced. -/
def atCrash : Traffic :=
  beforeCrash.acts .standard
    [.begin 0 (.refresh sampleClaims), .proceed 0 none, .proceed 0 none, .proceed 0 none,
      .proceed 0 none, .proceed 0 none, .proceed 0 (some .replace)]

def keptAtCrash : Entries :=
  Table.empty.insert (Ledger.standard.key sampleClaims.tokenId) ⟨1, .utc (.ofSeconds 60)⟩

/-- The disk at that moment, and the store as it is opened again. -/
def diskAtCrash : Disk :=
  match atCrash.services.store with
  | .durable _ d => d
  | .volatile _ => .empty "disk"

def afterCrash : Traffic :=
  atCrash.restart ⟨.durable ⟨["ledger.json"], keptAtCrash.purge (.ofSeconds 0)⟩ diskAtCrash,
    sampleDirectory⟩

theorem reopened_after_crash :
    DurableStore.load ["ledger.json"] (.ofSeconds 0) diskAtCrash =
      (.ok ⟨["ledger.json"], keptAtCrash.purge (.ofSeconds 0)⟩, diskAtCrash) := by
  obtain ⟨text, written, there⟩ : ∃ text, Snapshot.written? keptAtCrash = some text ∧
      diskAtCrash.find? ["ledger.json"] = some (.file (text.map some)) := ⟨_, rfl, rfl⟩
  have placed : blankStore.Placed diskAtCrash := ⟨by decide, rfl⟩
  refine DurableStore.load_of_kept? placed ?_
  rw [DurableStore.kept?_of_file there, Snapshot.parse_written? written]
  rfl

/-- Of two more presentations one claims the token again, and is granted; then there is a
logout. -/
def afterGrant : Traffic :=
  afterCrash.acts .standard
    [.begin 1 (.refresh sampleClaims), .begin 2 (.refresh sampleClaims), .proceed 1 none,
      .proceed 1 none, .proceed 1 none, .proceed 1 none, .proceed 2 none, .proceed 2 none,
      .proceed 2 none, .proceed 2 none, .proceed 1 none, .begin 3 (.logout sampleClaims),
      .proceed 3 none]

def afterLate : Traffic := afterGrant.acts .standard [.proceed 2 none]

theorem granted_once_across_crash :
    afterGrant.Answered 1 (.refresh sampleClaims) (.ok .granted) ∧
      (∀ n, afterGrant.Answered n (.refresh sampleClaims) (.ok .granted) → n = 1) ∧
      ¬ afterLate.Answered 2 (.refresh sampleClaims) (.ok .granted) := by
  have crash : Reaches .standard (Regular sampleClaims.tokenId sampleClaims.expiresAt)
      beforeCrash atCrash :=
    reaches_acts (.refl _) ⟨fun _ => rfl, trivial, trivial, trivial, trivial, trivial, trivial,
      trivial⟩
  obtain ⟨entries, held⟩ : ∃ entries,
      atCrash.services.store = .durable ⟨["ledger.json"], entries⟩ diskAtCrash := ⟨_, rfl⟩
  have reopened := Reaches.restart sampleDirectory crash held reopened_after_crash
  have first : Reaches .standard (Regular sampleClaims.tokenId sampleClaims.expiresAt)
      beforeCrash afterGrant :=
    reaches_acts reopened ⟨fun _ => rfl, fun _ => rfl, trivial, trivial, trivial, trivial,
      trivial, trivial, trivial, trivial, trivial, fun _ => rfl, trivial, trivial⟩
  have second : Reaches .standard (Regular sampleClaims.tokenId sampleClaims.expiresAt)
      afterGrant afterLate :=
    reaches_acts (.refl _) ⟨trivial, trivial⟩
  have granted : afterGrant.Answered 1 (.refresh sampleClaims) (.ok .granted) :=
    show afterGrant.flights.get? 1 = _ from rfl
  have loggedOut : afterGrant.Answered 3 (.logout sampleClaims) (.ok ()) :=
    show afterGrant.flights.get? 3 = _ from rfl
  have opened : DurableStore.load ["ledger.json"] (.ofSeconds 0) (.empty "disk") =
      (.ok blankStore, .empty "disk") := rfl
  obtain ⟨once, final⟩ := granted_once_on_disk .standard sampleClaims.tokenId
    sampleClaims.expiresAt sampleDirectory (by decide) opened rfl (by decide) first
  refine ⟨granted, fun n other => once n 1 _ _ rfl rfl other granted, ?_⟩
  exact final ⟨3, sampleClaims, rfl, .inl loggedOut⟩ afterLate second _ rfl _ 2 _ List.mem_cons_self
    sampleClaims rfl

end Traffic

end RequestGuard
