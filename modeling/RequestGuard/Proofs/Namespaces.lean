import RequestGuard.Proofs.Views

/-!
# Ledgers over one store

Ledgers of different namespaces may share a store. A key is the namespace, a colon and the token,
and either may contain colons. So the key of one ledger may be a key of another: the namespace
`a` with the token `b:x` has the key of the namespace `a:b` with the token `x`. `Confused` says
when this happens, and that it happens in no other way.

Where it does not, an operation of one ledger shows in no later result of the other. Operations
of any ledgers may come between, the clock moves from call to call, and the medium may fail.
-/

namespace RequestGuard

namespace Ledger

variable {l l' : Ledger} {t t' : TokenId}

/-- The namespace of the second ledger goes on where that of the first ends, and the token of
the first begins with what is more. -/
def Overlaps (l : Ledger) (t : TokenId) (l' : Ledger) (t' : TokenId) : Prop :=
  ∃ middle, l'.space = l.space ++ ":" ++ middle ∧ t.text = middle ++ ":" ++ t'.text

/-- A token of one ledger is taken for a token of another. -/
def Confused (l : Ledger) (t : TokenId) (l' : Ledger) (t' : TokenId) : Prop :=
  Overlaps l t l' t' ∨ Overlaps l' t' l t

theorem key_of_overlaps (h : Overlaps l t l' t') : l.key t = l'.key t' := by
  obtain ⟨middle, space, text⟩ := h
  simp only [key, space, text, String.append_assoc]

/-- Where two texts can be parted at one sign, either at the same or one later than the other. -/
private theorem append_cons_eq {α : Type} {a b c d : List α} {x : α}
    (h : a ++ x :: b = c ++ x :: d) :
    (a = c ∧ b = d) ∨ (∃ m, c = a ++ x :: m ∧ b = m ++ x :: d) ∨
      ∃ m, a = c ++ x :: m ∧ d = m ++ x :: b := by
  obtain ⟨m, longer, rest⟩ | ⟨m, longer, rest⟩ := List.append_eq_append_iff.mp h
  · cases m with
    | nil =>
        cases rest
        exact .inl ⟨(longer.trans (List.append_nil a)).symm, rfl⟩
    | cons y m =>
        cases rest
        exact .inr (.inl ⟨m, longer, rfl⟩)
  · cases m with
    | nil =>
        cases rest
        exact .inl ⟨longer.trans (List.append_nil c), rfl⟩
    | cons y m =>
        cases rest
        exact .inr (.inr ⟨m, longer, rfl⟩)

theorem overlaps_of_lists {m : List Char} (space : l'.space.toList = l.space.toList ++ ':' :: m)
    (text : t.text.toList = m ++ ':' :: t'.text.toList) : Overlaps l t l' t' := by
  refine ⟨String.ofList m, String.toList_injective ?_, String.toList_injective ?_⟩
  · simp [space]
  · simp [text]

/-- Two tokens share a key only as one token of one namespace, or where they are confused. -/
theorem key_eq_iff : l.key t = l'.key t' ↔ (l.space = l'.space ∧ t = t') ∨ Confused l t l' t' := by
  constructor
  · intro same
    have parted : l.space.toList ++ ':' :: t.text.toList =
        l'.space.toList ++ ':' :: t'.text.toList := by
      simpa [key] using congrArg String.toList same
    obtain ⟨space, _⟩ | ⟨m, space, text⟩ | ⟨m, space, text⟩ := append_cons_eq parted
    · have space : l.space = l'.space := String.toList_injective space
      have renamed : l'.key t' = l.key t' := by rw [key, key, space]
      exact .inl ⟨space, l.key_injective (same.trans renamed)⟩
    · exact .inr (.inl (overlaps_of_lists space text))
    · exact .inr (.inr (overlaps_of_lists space text))
  · rintro (⟨space, rfl⟩ | overlaps | overlaps)
    · rw [key, key, space]
    · exact key_of_overlaps overlaps
    · exact (key_of_overlaps overlaps).symm

/-- Only a namespace that contains a colon goes on where another ends. -/
theorem Confused.colon (h : Confused l t l' t') :
    ':' ∈ l.space.toList ∨ ':' ∈ l'.space.toList := by
  obtain ⟨middle, space, _⟩ | ⟨middle, space, _⟩ := h
  · exact .inr (by simp [space])
  · exact .inl (by simp [space])

end Ledger

/-- An operation of a ledger on a token, with what the clock shows at each of its calls and how
the medium fails at it. -/
structure Job where
  ledger : Ledger
  id : TokenId
  step : Scenario.LedgerStep
  clock : Nat → Instant
  faults : Nat → Option WriteFault

namespace Job

/-- How a job may end. -/
abbrev Outcome (j : Job) : Type := Option (Except Failure (Operation.ledger j.id j.step).Answer)

/-- The calls of a job. -/
def program (j : Job) : Program (Operation.ledger j.id j.step).Answer :=
  (Operation.ledger j.id j.step).program j.ledger (j.clock 0)

/-- The reply to a call of a job, which has made so many before. -/
def reply (j : Job) (c : Call) (s : Nat × Services) : Option c.Reply × Nat × Services :=
  let (r, services) := s.2.perform (j.clock s.1) (j.faults s.1) c
  (r, s.1 + 1, services)

/-- The outcome of a job, and the services after it. -/
def run (j : Job) (s : Services) : j.Outcome × Services :=
  let (r, _, services) := j.program.run j.reply (0, s)
  (r, services)

def runAll (jobs : List Job) (s : Services) : Services :=
  jobs.foldl (fun s j => (j.run s).2) s

/-- The moment is in the year zero or later, and after all the jobs. -/
def After (jobs : List Job) (t : Instant) : Prop :=
  .yearZero ≤ t ∧ ∀ j ∈ jobs, ∀ n, j.clock n ≤ t

/-- The clock does not go back in the course of a job. -/
def Steady (j : Job) : Prop := ∀ n, j.clock n ≤ j.clock (n + 1)

/-- After those that are done, the jobs come one after the other. -/
def InOrder (done : List Job) : List Job → Prop
  | [] => True
  | j :: rest => After done (j.clock 0) ∧ j.Steady ∧ InOrder (done ++ [j]) rest

end Job

/-- A store in memory carries all jobs. One on disk carries jobs that come in order, if its
snapshot can be written. -/
def Services.Carries (s : Services) (jobs : List Job) : Prop :=
  match s.store with
  | .volatile _ => True
  | .durable store d => store.Ready d ∧ Job.InOrder [] jobs

/-- Whatever is done with the first token through the first ledger shows in no later result about
the second token through the second ledger. -/
def Ledger.Isolated (l : Ledger) (t : TokenId) (l' : Ledger) (t' : TokenId) : Prop :=
  ∀ (s : Services) (first last : Job) (between : List Job),
    first.ledger = l → first.id = t → last.ledger = l' → last.id = t' →
    s.Carries (first :: (between ++ [last])) →
    (last.run (Job.runAll between (first.run s).2)).1 = (last.run (Job.runAll between s)).1

namespace Services

namespace Agree

variable {key k : String} {now t : Instant} {durable : Bool} {a b : Services} {α : Type}
  {p : Program α} {j : Job} {n : Nat}

theorem refl_of_carries {s : Services} {jobs : List Job} (key : String) (h : s.Carries jobs) :
    ∃ durable, (durable = true → Job.InOrder [] jobs) ∧
      ∀ t, (durable = true → .yearZero ≤ t) → Agree key t durable s s := by
  obtain ⟨store, directory⟩ := s
  cases store with
  | volatile m => exact ⟨false, nofun, fun _ _ => .volatile rfl⟩
  | durable store d =>
      obtain ⟨ready, order⟩ := h
      exact ⟨true, fun _ => order, fun t year => .durable (year rfl) rfl ready ready rfl⟩

/-- A program about the key ends alike on both sides, and they still agree when it has ended. -/
theorem run_own (h : Agree key now durable a b) (uses : p.Uses fun c => c.key? = some key)
    (start : durable = true → now ≤ j.clock n) (steady : durable = true → j.Steady) :
    (p.run j.reply (n, b)).1 = (p.run j.reply (n, a)).1 ∧
      ∀ t, (durable = true → now ≤ t ∧ ∀ m, j.clock m ≤ t) →
        Agree key t durable (p.run j.reply (n, a)).2.2 (p.run j.reply (n, b)).2.2 := by
  induction p generalizing now a b n with
  | pure x => exact ⟨rfl, fun t past => h.later fun disk => (past disk).1⟩
  | fail f => exact ⟨rfl, fun t past => h.later fun disk => (past disk).1⟩
  | call c next ih =>
      obtain ⟨about, further⟩ := uses
      obtain ⟨same, agree⟩ := (h.later start).own (j.faults n) about
      simp only [Program.run, Job.reply, same]
      cases (a.perform (j.clock n) (j.faults n) c).1 with
      | none => exact ⟨rfl, fun t past => agree.later fun disk => (past disk).2 n⟩
      | some reply =>
          cases reply with
          | error f => exact ⟨rfl, fun t past => agree.later fun disk => (past disk).2 n⟩
          | ok x =>
              obtain ⟨outcome, ends⟩ := ih x agree (further x) fun disk => steady disk n
              refine ⟨outcome, ?_⟩
              intro t past
              apply ends
              intro disk
              exact ⟨(past disk).2 n, (past disk).2⟩

/-- A program about another key, run on one side only, leaves the two in agreement. -/
theorem run_elsewhere (h : Agree key now durable a b)
    (uses : p.Uses fun c => c.key? = some k) (other : k ≠ key)
    (start : durable = true → now ≤ j.clock n) (steady : durable = true → j.Steady)
    (past : durable = true → now ≤ t ∧ ∀ m, j.clock m ≤ t) :
    Agree key t durable a (p.run j.reply (n, b)).2.2 := by
  induction p generalizing now b n with
  | pure x => exact h.later fun disk => (past disk).1
  | fail f => exact h.later fun disk => (past disk).1
  | call c next ih =>
      obtain ⟨about, further⟩ := uses
      have agree : Agree key (j.clock n) durable a (b.perform (j.clock n) (j.faults n) c).2 :=
        (h.later start).elsewhere (j.faults n) ⟨k, about, other⟩
      simp only [Program.run, Job.reply]
      cases (b.perform (j.clock n) (j.faults n) c).1 with
      | none => exact agree.later fun disk => (past disk).2 n
      | some reply =>
          cases reply with
          | error f => exact agree.later fun disk => (past disk).2 n
          | ok x =>
              apply ih x agree (further x)
              · intro disk
                exact steady disk n
              · intro disk
                exact ⟨(past disk).2 n, (past disk).2⟩

end Agree

/-- Services that show the same under a key from the end of some jobs on. -/
def AgreeAfter (key : String) (durable : Bool) (done : List Job) (a b : Services) : Prop :=
  ∀ t, (durable = true → Job.After done t) → Agree key t durable a b

namespace AgreeAfter

variable {key : String} {durable : Bool} {done jobs : List Job} {a b : Services} {j : Job}

theorem past_of_after {t : Instant} (later : Job.After (done ++ [j]) t) (n : Nat) :
    j.clock n ≤ t := later.2 j (List.mem_append_right done List.mem_cons_self) n

/-- A job about the key ends alike on both sides. -/
theorem job_own (h : AgreeAfter key durable done a b) (own : j.ledger.key j.id = key)
    (turn : durable = true → Job.After done (j.clock 0) ∧ j.Steady) :
    (j.run b).1 = (j.run a).1 ∧
      AgreeAfter key durable (done ++ [j]) (j.run a).2 (j.run b).2 := by
  subst own
  have start : Agree (j.ledger.key j.id) (j.clock 0) durable a b :=
    h (j.clock 0) fun disk => (turn disk).1
  obtain ⟨outcome, ends⟩ := start.run_own (n := 0) (Operation.uses_ledger j.id j.step)
    (fun _ => Int.le_refl _) fun disk => (turn disk).2
  refine ⟨outcome, ?_⟩
  intro t later
  apply ends
  intro disk
  exact ⟨past_of_after (later disk) 0, past_of_after (later disk)⟩

/-- A job about another key may be left out on one side. -/
theorem job_elsewhere (h : AgreeAfter key durable done a b) (other : j.ledger.key j.id ≠ key)
    (turn : durable = true → Job.After done (j.clock 0) ∧ j.Steady) :
    AgreeAfter key durable (done ++ [j]) a (j.run b).2 := by
  intro t later
  have start : Agree key (j.clock 0) durable a b := h (j.clock 0) fun disk => (turn disk).1
  apply start.run_elsewhere (n := 0) (Operation.uses_ledger j.id j.step) other
  · intro disk
    exact Int.le_refl _
  · intro disk
    exact (turn disk).2
  · intro disk
    exact ⟨past_of_after (later disk) 0, past_of_after (later disk)⟩

/-- A job leaves services in agreement, whatever key it is about. -/
theorem job (h : AgreeAfter key durable done a b)
    (turn : durable = true → Job.After done (j.clock 0) ∧ j.Steady) :
    AgreeAfter key durable (done ++ [j]) (j.run a).2 (j.run b).2 := by
  by_cases own : j.ledger.key j.id = key
  · exact (h.job_own own turn).2
  · have unchanged : AgreeAfter key durable done a a := fun t later => (h t later).left
    intro t later
    have one : Agree key t durable a (j.run a).2 := unchanged.job_elsewhere own turn t later
    have other : Agree key t durable a (j.run b).2 := h.job_elsewhere own turn t later
    exact one.symm.trans other

theorem runAll (h : AgreeAfter key durable done a b)
    (order : durable = true → Job.InOrder done jobs) :
    AgreeAfter key durable (done ++ jobs) (Job.runAll jobs a) (Job.runAll jobs b) := by
  induction jobs generalizing done a b with
  | nil =>
      rw [List.append_nil]
      exact h
  | cons j rest ih =>
      have turn : durable = true → Job.After done (j.clock 0) ∧ j.Steady :=
        fun disk => ⟨(order disk).1, (order disk).2.1⟩
      rw [List.append_cons]
      exact ih (h.job turn) fun disk => (order disk).2.2

end AgreeAfter

end Services

theorem Job.inOrder_append {done jobs : List Job} {last : Job}
    (h : InOrder done (jobs ++ [last])) :
    InOrder done jobs ∧ After (done ++ jobs) (last.clock 0) ∧ last.Steady := by
  induction jobs generalizing done with
  | nil =>
      obtain ⟨after, steady, _⟩ := h
      rw [List.append_nil]
      exact ⟨trivial, after, steady⟩
  | cons j rest ih =>
      obtain ⟨after, steady, further⟩ := h
      rw [List.append_cons]
      obtain ⟨order, turn⟩ := ih further
      exact ⟨⟨after, steady, order⟩, turn⟩

/-- A job without delay and without a failure of the medium. -/
def Job.prompt (now : Instant) (l : Ledger) (t : TokenId) (step : Scenario.LedgerStep) : Job :=
  ⟨l, t, step, fun _ => now, fun _ => none⟩

namespace Ledger

variable {l l' : Ledger} {t t' : TokenId}

theorem isolated_of_key_ne (apart : l.key t ≠ l'.key t') : l.Isolated t l' t' := by
  rintro s first last between rfl rfl rfl rfl carries
  obtain ⟨durable, order, same⟩ := Services.Agree.refl_of_carries (last.ledger.key last.id) carries
  have begin : Services.AgreeAfter (last.ledger.key last.id) durable [] s s :=
    fun t later => same t fun disk => (later disk).1
  have after : Services.AgreeAfter (last.ledger.key last.id) durable [first] s (first.run s).2 :=
    begin.job_elsewhere apart fun disk => ⟨(order disk).1, (order disk).2.1⟩
  have further : durable = true → Job.InOrder [first] between ∧
      Job.After ([first] ++ between) (last.clock 0) ∧ last.Steady :=
    fun disk => Job.inOrder_append (order disk).2.2
  have met := after.runAll fun disk => (further disk).1
  exact (met.job_own rfl fun disk => (further disk).2).1

/-- Blacklisting one of two tokens that share a key blacklists the other. -/
theorem state_of_shared_key (shared : l.key t = l'.key t') :
    ((Job.prompt (.ofSeconds 0) l' t' .state).run .inMemory).1 = some (.ok .unseen) ∧
    ((Job.prompt (.ofSeconds 0) l' t' .state).run
      ((Job.prompt (.ofSeconds 0) l t (.invalidate (.ofSeconds 60))).run .inMemory).2).1 =
        some (.ok .blacklisted) := by
  have listed : ((Job.prompt (.ofSeconds 0) l t (.invalidate (.ofSeconds 60))).run .inMemory).2 =
      ⟨.volatile ⟨Table.empty.insert (l.key t) ⟨blacklistFloor, .utc (.ofSeconds 60)⟩⟩, .empty⟩ :=
    rfl
  have found : Entries.fetch (Table.empty.insert (l.key t) ⟨blacklistFloor, .utc (.ofSeconds 60)⟩)
      (.ofSeconds 0) (l'.key t') = some blacklistFloor := by
    simp only [Entries.fetch, Entries.live?, Table.get?_insert, if_pos shared]
    rfl
  refine ⟨rfl, ?_⟩
  rw [listed]
  simp only [Job.run, Job.program, Job.prompt, Operation.program, Ledger.state, Call.ask, bind,
    Program.call_bind, Program.pure_bind, Program.run, Job.reply, Services.perform, Store.fetch,
    VolatileStore.fetch, found]
  rfl

theorem Isolated.key_ne (h : l.Isolated t l' t') : l.key t ≠ l'.key t' := by
  intro shared
  obtain ⟨before, after⟩ := state_of_shared_key shared
  have same := h .inMemory (.prompt (.ofSeconds 0) l t (.invalidate (.ofSeconds 60)))
    (.prompt (.ofSeconds 0) l' t' .state) [] rfl rfl rfl rfl trivial
  cases after.symm.trans (same.trans before)

/-- Ledgers of different namespaces over one store are isolated in two tokens, unless one of the
tokens is taken for the other. This needs a colon in one of the namespaces. -/
theorem isolated_iff_not_confused (t t' : TokenId) (spaces : l.space ≠ l'.space) :
    (l.Isolated t l' t' ↔ ¬ l.Confused t l' t') ∧
      (':' ∉ l.space.toList → ':' ∉ l'.space.toList → l.Isolated t l' t') := by
  have isolated : ¬ l.Confused t l' t' → l.Isolated t l' t' := by
    intro distinct
    apply isolated_of_key_ne
    intro shared
    obtain ⟨same, _⟩ | confused := key_eq_iff.mp shared
    · exact spaces same
    · exact distinct confused
  constructor
  · constructor
    · intro apart confused
      exact apart.key_ne (key_eq_iff.mpr (.inr confused))
    · exact isolated
  · intro plain plain'
    apply isolated
    intro confused
    obtain colon | colon := confused.colon
    · exact plain colon
    · exact plain' colon

/-- A ledger whose namespace begins with that of another. -/
def nested : Ledger := ⟨"refresh:admin", by decide⟩

def sharedToken : TokenId := ⟨"shared", by decide⟩

/-- The token is blacklisted through one ledger while the medium fails. -/
def failingJob : Job :=
  ⟨standard, sharedToken, .invalidate (.ofSeconds 60), fun _ => .ofSeconds 0,
    fun _ => some .replace⟩

def emptyOnDisk : Services := ⟨.durable ⟨["ledger.json"], .empty⟩ (.empty "disk"), .empty⟩

theorem emptyOnDisk_carries :
    emptyOnDisk.Carries [failingJob, .prompt (.ofSeconds 1) nested sharedToken .state] := by
  have ready : (⟨["ledger.json"], .empty⟩ : DurableStore).Ready (.empty "disk") :=
    ⟨.empty, ⟨["ledger.tmp"], rfl, by decide⟩, ⟨["ledger.json"], rfl, by decide⟩⟩
  have onward : Instant.ofSeconds 0 ≤ .ofSeconds 1 := by decide
  refine ⟨ready, ⟨by decide, nofun⟩, fun _ => Int.le_refl _, ⟨by decide, ?_⟩,
    fun _ => Int.le_refl _, trivial⟩
  intro j first _
  cases List.mem_singleton.mp first
  exact onward

/-- The failed entry stays in memory. Through the other ledger the token is not seen. -/
theorem unseen_in_nested_namespace : standard.space ≠ nested.space ∧
    standard.Isolated sharedToken nested sharedToken ∧
    ((Job.prompt (.ofSeconds 1) nested sharedToken .state).run (failingJob.run emptyOnDisk).2).1 =
      some (.ok .unseen) := by
  have apart : standard.key sharedToken ≠ nested.key sharedToken := by decide
  have isolated : standard.Isolated sharedToken nested sharedToken :=
    (isolated_iff_not_confused sharedToken sharedToken (by decide)).1.mpr
      fun confused => apart (key_eq_iff.mpr (.inr confused))
  have same := isolated emptyOnDisk failingJob
    (.prompt (.ofSeconds 1) nested sharedToken .state) [] rfl rfl rfl rfl emptyOnDisk_carries
  exact ⟨by decide, isolated, same.trans rfl⟩

def shorter : Ledger := ⟨"a", by decide⟩

def longer : Ledger := ⟨"a:b", by decide⟩

/-- The namespace `a` with the token `b:x` and the namespace `a:b` with the token `x`. -/
theorem blacklisted_through_other_namespace :
    ∃ t t' : TokenId, t.text = "b:x" ∧ t'.text = "x" ∧ shorter.space ≠ longer.space ∧
      ¬ shorter.Isolated t longer t' ∧
      ((Job.prompt (.ofSeconds 0) longer t' .state).run .inMemory).1 = some (.ok .unseen) ∧
      ((Job.prompt (.ofSeconds 0) longer t' .state).run
        ((Job.prompt (.ofSeconds 0) shorter t (.invalidate (.ofSeconds 60))).run .inMemory).2).1 =
          some (.ok .blacklisted) := by
  have shared : shorter.key ⟨"b:x", by decide⟩ = longer.key ⟨"x", by decide⟩ := by decide
  exact ⟨_, _, rfl, rfl, by decide, fun isolated => isolated.key_ne shared,
    state_of_shared_key shared⟩

end Ledger

end RequestGuard
