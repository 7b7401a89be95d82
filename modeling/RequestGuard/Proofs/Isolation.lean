import RequestGuard.Proofs.Traffic.Accounts
import RequestGuard.Proofs.Views

/-!
# Accounts that keep apart

All accounts share one gate, one store and one directory. Still an operation reads and writes
no more than the record of its own token and the account of its own subject. So if the tokens
of an account have ids of their own, a gate over a store in memory shows the account the same
whether or not anything else is going on.

`only` takes a run and leaves what concerns one account. `Mirrors` relates the two runs, and
every action keeps it: one that concerns the account is made in both, and any other in the
first one only.
-/

namespace RequestGuard

/-- The account that a call asks about or locks. -/
def Call.account? : Call → Option AccountId
  | .currentVersion account => some account
  | .isLocked account => some account
  | .lock account => some account
  | .fetch _ | .insert _ _ _ | .insertIfAbsent _ _ _ | .increment _ => none

/-- A call is about a key or about an account. -/
theorem Call.key?_or_account? (c : Call) :
    (∃ key, c.key? = some key) ∨ ∃ account, c.account? = some account := by
  cases c with
  | fetch | insert | insertIfAbsent | increment => exact .inl ⟨_, rfl⟩
  | currentVersion | isLocked | lock => exact .inr ⟨_, rfl⟩

namespace Operation

def subject? : Operation → Option AccountId
  | .refresh c => some c.subject
  | .logout c => some c.subject
  | .ledger _ _ => none

/-- An operation calls the directory about the account of its own token only. -/
theorem call_account {l : Ledger} {t : Instant} {h : List Made} {o : Operation} {x : Call}
    {next : x.Answer → Program o.Answer} {account : AccountId}
    (leads : Program.Leads (some (o.program l t)) h (some (.call x next)))
    (about : x.account? = some account) : o.subject? = some account := by
  cases o with
  | refresh c =>
      cases (stage_of_leads leads).2 with
      | fetch | record | claim | invalidate => cases about
      | version | locked | lock => exact about
  | logout c =>
      obtain ⟨_, rfl⟩ := call_of_logout leads
      cases about
  | ledger id step =>
      have own := (Program.Uses.of_leads leads (uses_ledger id step)).1
      cases x with
      | fetch | insert | insertIfAbsent | increment => cases about
      | currentVersion | isLocked | lock => cases own

end Operation

namespace Services

variable {now : Instant} {key : String} {a b : Services} {c : Call} {account other : AccountId}

/-- A call about an account leaves the store. -/
theorem store_perform (about : c.account? = some account) (now : Instant)
    (fault : Option WriteFault) (s : Services) : (s.perform now fault c).2.store = s.store := by
  cases c with
  | fetch | insert | insertIfAbsent | increment => cases about
  | currentVersion | isLocked | lock => rfl

/-- What services show under a key does not rest on their directories. -/
theorem Agree.of_stores {a' b' : Services} {durable : Bool} (h : Agree key now durable a b)
    (left : a'.store = a.store) (right : b'.store = b.store) : Agree key now durable a' b' := by
  obtain ⟨store, directory⟩ := a'
  obtain ⟨store', directory'⟩ := b'
  cases left
  cases right
  cases h with
  | volatile same => exact .volatile same
  | durable year same ready ready' root => exact .durable year same ready ready' root

/-- Stores in memory that agree on a key have the same entry under it. -/
theorem Agree.get?_eq (h : Agree key now false a b) :
    b.store.entries.get? key = a.store.entries.get? key := by
  cases h with
  | volatile same => exact same

/-- Whatever a call that both perform is about, it leaves them in agreement. -/
theorem Agree.both (h : Agree key now false a b) (fault : Option WriteFault) (c : Call) :
    Agree key now false (a.perform now fault c).2 (b.perform now fault c).2 := by
  obtain ⟨k, about⟩ | ⟨account, about⟩ := c.key?_or_account?
  · by_cases same : k = key
    · subst same
      exact (h.own fault about).2
    · exact ((h.elsewhere fault ⟨k, about, same⟩).symm.elsewhere fault ⟨k, about, same⟩).symm
  · exact h.of_stores (store_perform about now fault a) (store_perform about now fault b)

/-- A call of the store leaves the directory. -/
theorem record?_perform_store {s : Services} {fault : Option WriteFault}
    (about : c.key? = some key) :
    (s.perform now fault c).2.directory.record? account = s.directory.record? account := by
  refine record?_perform ?_ now fault s
  rintro rfl
  cases about

/-- A call about another account leaves the record of an account. -/
theorem record?_perform_other (about : c.account? = some other) (apart : other ≠ account)
    (now : Instant) (fault : Option WriteFault) (s : Services) :
    (s.perform now fault c).2.directory.record? account = s.directory.record? account := by
  refine record?_perform ?_ now fault s
  rintro rfl
  exact apart (Option.some.inj about).symm

/-- A call about an account is replied to by its record, and what it leaves of the record rests
on nothing else. -/
theorem perform_account (about : c.account? = some account)
    (same : b.directory.record? account = a.directory.record? account) (now : Instant)
    (fault : Option WriteFault) : (b.perform now fault c).1 = (a.perform now fault c).1 ∧
      (b.perform now fault c).2.directory.record? account =
        (a.perform now fault c).2.directory.record? account := by
  cases c with
  | fetch | insert | insertIfAbsent | increment => cases about
  | currentVersion =>
      cases about
      simp only [perform, Directory.currentVersion, same, and_self]
  | isLocked =>
      cases about
      simp only [perform, Directory.isLocked, same, and_self]
  | lock =>
      cases about
      refine ⟨?_, ?_⟩
      · simp only [perform, Directory.lock, same]
        cases a.directory.record? account with
        | none => rfl
        | some r => rfl
      · simp only [perform, Directory.record?_lock, if_true, same]

end Services

/-- Whether a flight is about a token of the account. -/
def Flight.isOf (account : AccountId) (f : Flight) : Bool :=
  decide (f.operation.subject? = some account)

/-- Whether an action concerns an account: the clock does, and whatever changes the account or
belongs to a presentation or logout of one of its tokens. -/
def Action.concerns (account : AccountId) (w : Traffic) : Action → Bool
  | .wait _ => true
  | .begin n o => !w.hasBegun n && decide (o.subject? = some account)
  | .proceed n _ => (w.flights.get? n).any (Flight.isOf account)
  | .change other _ => decide (other = account)

namespace Traffic

/-- Of a run, the actions that concern an account. -/
def only (l : Ledger) (account : AccountId) : Traffic → List Action → List Action
  | _, [] => []
  | w, a :: as => if a.concerns account w then a :: only l account (w.act l a) as
    else only l account (w.act l a) as

/-- The second traffic is what the first one is for an account, whose tokens are the ones with
`own` ids. -/
structure Mirrors (l : Ledger) (account : AccountId) (own : TokenId → Prop) (w w' : Traffic) :
    Prop where
  sound : Sound l w
  sound' : Sound l w'
  told : ∀ t n o, Event.begun t n o ∈ w.log → (o.subject? = some account ↔ own o.tokenId)
  clock : w'.now = w.now
  flights : ∀ n, w'.flights.get? n = (w.flights.get? n).filter (Flight.isOf account)
  calls : ∀ n f, w.flights.get? n = some f → f.isOf account = true →
    callsOf n w'.log = callsOf n w.log
  unused : ∀ n, w.hasBegun n = false → w'.hasBegun n = false
  record : w'.services.directory.record? account = w.services.directory.record? account
  entries : ∀ id, own id → Services.Agree (l.key id) w.now false w.services w'.services

theorem mirrors_start {l : Ledger} {account : AccountId} {own : TokenId → Prop} (now : Instant)
    (m : VolatileStore) (d : Directory) : Mirrors l account own
      (start now ⟨.volatile m, d⟩) (start now ⟨.volatile m, d⟩) where
  sound := sound_start _ _
  sound' := sound_start _ _
  told := by
    intro t n o begun
    cases begun
  clock := rfl
  flights := fun _ => rfl
  calls := fun _ _ _ _ => rfl
  unused := fun _ unused => unused
  record := rfl
  entries := fun _ _ => .volatile rfl

namespace Mirrors

variable {l : Ledger} {account other : AccountId} {own : TokenId → Prop} {w w' : Traffic} {n : Nat}
  {o : Operation} {x : Call} {next : x.Answer → Program o.Answer}

theorem wait (m : Mirrors l account own w w') (now : Instant) :
    Mirrors l account own { w with now := now } { w' with now := now } :=
  { m with
    sound := m.sound.step (.wait now)
    sound' := m.sound'.step (.wait now)
    clock := rfl
    entries := fun id mine => (m.entries id mine).later nofun }

/-- An operation on a token of the account begins in both. -/
theorem begin_own (m : Mirrors l account own w w') (new : w.hasBegun n = false)
    (mine : o.subject? = some account) (told : own o.tokenId) :
    Mirrors l account own (w.begin l n o) (w'.begin l n o) := by
  have new' : w'.hasBegun n = false := m.unused n new
  have isOf : Flight.isOf account ⟨o, some (o.program l w.now)⟩ = true := decide_eq_true mine
  have sound : Sound l (w.begin l n o) := m.sound.step (act_step (.begin n o))
  have sound' : Sound l (w'.begin l n o) := m.sound'.step (act_step (.begin n o))
  rw [begin_of_new new] at sound ⊢
  rw [begin_of_new new', m.clock] at sound' ⊢
  refine { m with
    sound := sound, sound' := sound', clock := rfl, told := ?_, flights := ?_, calls := ?_,
    unused := ?_ }
  · intro t k p begun
    obtain old | latest := List.mem_append.mp begun
    · exact m.told t k p old
    · cases List.mem_singleton.mp latest
      exact iff_of_true mine told
  · intro k
    rw [Table.get?_insert, Table.get?_insert]
    by_cases same : n = k
    · rw [if_pos same, if_pos same, Option.filter_some, if_pos isOf]
    · rw [if_neg same, if_neg same, m.flights k]
  · intro k f flight isOf
    rw [callsOf_begun, callsOf_begun]
    rw [Table.get?_insert] at flight
    by_cases same : n = k
    · subst same
      rw [m.sound.callsOf_eq_nil new, m.sound'.callsOf_eq_nil new']
    · rw [if_neg same] at flight
      exact m.calls k f flight isOf
  · intro k
    simp only [hasBegun, List.any_append, Bool.or_eq_false_iff]
    exact fun unused => ⟨m.unused k unused.1, unused.2⟩

/-- Any other operation begins in the first one only. -/
theorem begin_other (m : Mirrors l account own w w') (new : w.hasBegun n = false)
    (alien : o.subject? ≠ some account) (told : ¬ own o.tokenId) :
    Mirrors l account own (w.begin l n o) w' := by
  have isOf : Flight.isOf account ⟨o, some (o.program l w.now)⟩ = false := decide_eq_false alien
  have sound : Sound l (w.begin l n o) := m.sound.step (act_step (.begin n o))
  rw [begin_of_new new] at sound ⊢
  refine { m with
    sound := sound, told := ?_, flights := ?_, calls := ?_, unused := ?_ }
  · intro t k p begun
    obtain old | latest := List.mem_append.mp begun
    · exact m.told t k p old
    · cases List.mem_singleton.mp latest
      exact iff_of_false alien told
  · intro k
    rw [Table.get?_insert]
    by_cases same : n = k
    · -- No flight of that name has begun in the second either.
      subst same
      rw [if_pos rfl, Option.filter_some, isOf, if_neg Bool.false_ne_true, m.flights n,
        m.sound.flights_of_new new, Option.filter_none]
    · rw [if_neg same, m.flights k]
  · intro k f flight mine
    rw [callsOf_begun]
    rw [Table.get?_insert] at flight
    by_cases same : n = k
    · rw [if_pos same] at flight
      cases flight
      rw [isOf] at mine
      cases mine
    · rw [if_neg same] at flight
      exact m.calls k f flight mine
  · intro k
    simp only [hasBegun, List.any_append, Bool.or_eq_false_iff]
    exact fun unused => m.unused k unused.1

/-- A flight of the account makes the same call in both, and hears the same. -/
theorem call_own (m : Mirrors l account own w w') (fault : Option WriteFault)
    (coming : w.flights.get? n = some ⟨o, some (.call x next)⟩)
    (mine : o.subject? = some account) :
    Mirrors l account own (w.call n fault o x next) (w'.call n fault o x next) := by
  obtain ⟨t, begun, leads⟩ := m.sound.history n _ coming
  have isOf : Flight.isOf account ⟨o, some (.call x next)⟩ = true := decide_eq_true mine
  have coming' : w'.flights.get? n = some ⟨o, some (.call x next)⟩ := by
    rw [m.flights n, coming, Option.filter_some, if_pos isOf]
  have told : own o.tokenId := (m.told t n o begun).mp mine
  have reply : (w'.services.perform w'.now fault x).1 = (w.services.perform w.now fault x).1 := by
    rw [m.clock]
    obtain ⟨key, about⟩ | ⟨a, about⟩ := x.key?_or_account?
    · cases Operation.call_key leads about
      exact ((m.entries _ told).own fault about).1
    · cases mine.symm.trans (Operation.call_account leads about)
      exact (Services.perform_account about m.record w.now fault).1
  have record : (w'.services.perform w'.now fault x).2.directory.record? account =
      (w.services.perform w.now fault x).2.directory.record? account := by
    rw [m.clock]
    obtain ⟨key, about⟩ | ⟨a, about⟩ := x.key?_or_account?
    · rw [Services.record?_perform_store about, Services.record?_perform_store about, m.record]
    · cases mine.symm.trans (Operation.call_account leads about)
      exact (Services.perform_account about m.record w.now fault).2
  refine { m with
    sound := m.sound.step (.called coming), sound' := m.sound'.step (.called coming')
    told := ?_, flights := ?_, calls := ?_, unused := ?_, record := record, entries := ?_ }
  · intro t' k p begun
    exact m.told t' k p (by simpa [call_log] using begun)
  · intro k
    simp only [call, Table.get?_insert]
    by_cases same : n = k
    · rw [if_pos same, if_pos same, reply, Option.filter_some, if_pos]
      exact decide_eq_true mine
    · rw [if_neg same, if_neg same, m.flights k]
  · intro k f flight isOf'
    rw [callsOf_call, callsOf_call, reply]
    simp only [call, Table.get?_insert] at flight
    by_cases same : n = k
    · subst same
      rw [if_pos rfl, if_pos rfl, m.calls n _ coming isOf]
    · rw [if_neg same] at flight
      rw [if_neg same, if_neg same, m.calls k f flight isOf']
  · intro k
    simp only [hasBegun, call_log, List.any_append, Bool.or_eq_false_iff]
    exact fun unused => ⟨m.unused k unused.1, unused.2⟩
  · intro id told
    show Services.Agree (l.key id) w.now false _ (w'.services.perform w'.now fault x).2
    rw [m.clock]
    exact (m.entries id told).both fault x

/-- A call of any other flight touches nothing of the account. -/
theorem call_other (m : Mirrors l account own w w') (fault : Option WriteFault)
    (coming : w.flights.get? n = some ⟨o, some (.call x next)⟩)
    (alien : o.subject? ≠ some account) :
    Mirrors l account own (w.call n fault o x next) w' := by
  obtain ⟨t, begun, leads⟩ := m.sound.history n _ coming
  have told : ¬ own o.tokenId := fun mine => alien ((m.told t n o begun).mpr mine)
  have isOf : ∀ rest, Flight.isOf account ⟨o, rest⟩ = false := fun _ => decide_eq_false alien
  have record : (w.services.perform w.now fault x).2.directory.record? account =
      w.services.directory.record? account := by
    obtain ⟨key, about⟩ | ⟨other, about⟩ := x.key?_or_account?
    · exact Services.record?_perform_store about
    · refine Services.record?_perform_other about ?_ w.now fault w.services
      rintro rfl
      exact alien (Operation.call_account leads about)
  refine { m with
    sound := m.sound.step (.called coming)
    told := ?_, flights := ?_, calls := ?_, unused := ?_, record := m.record.trans record.symm
    entries := ?_ }
  · intro t' k p begun
    exact m.told t' k p (by simpa [call_log] using begun)
  · intro k
    simp only [call, Table.get?_insert]
    by_cases same : n = k
    · subst same
      rw [if_pos rfl, Option.filter_some, isOf, if_neg Bool.false_ne_true, m.flights n, coming,
        Option.filter_some, isOf, if_neg Bool.false_ne_true]
    · rw [if_neg same, m.flights k]
  · intro k f flight mine
    rw [callsOf_call]
    simp only [call, Table.get?_insert] at flight
    by_cases same : n = k
    · rw [if_pos same] at flight
      cases flight
      rw [isOf] at mine
      cases mine
    · rw [if_neg same] at flight
      rw [if_neg same]
      exact m.calls k f flight mine
  · intro k
    simp only [hasBegun, call_log, List.any_append, Bool.or_eq_false_iff]
    exact fun unused => m.unused k unused.1
  · intro id mine
    obtain ⟨key, about⟩ | ⟨other, about⟩ := x.key?_or_account?
    · refine ((m.entries id mine).symm.elsewhere fault ⟨key, about, ?_⟩).symm
      rintro rfl
      rw [l.key_injective (Operation.call_key leads about)] at mine
      exact told mine
    · exact (m.entries id mine).of_stores (Services.store_perform about _ _ _) rfl

/-- The account is changed in both. -/
theorem change_own (m : Mirrors l account own w w') (change : AccountChange) :
    Mirrors l account own (w.act l (.change account change))
      (w'.act l (.change account change)) := by
  refine { m with
    sound := m.sound.step (act_step _), sound' := m.sound'.step (act_step _)
    told := ?_, calls := ?_, unused := ?_
    record := Directory.record?_change_congr m.record change
    entries := fun id mine => (m.entries id mine).of_stores rfl rfl }
  · intro t k p begun
    exact m.told t k p (by simpa [act] using begun)
  · intro k f flight isOf
    simp only [act, callsOf_changed]
    exact m.calls k f flight isOf
  · intro k
    simp only [act, hasBegun, List.any_append, Bool.or_eq_false_iff]
    exact fun unused => ⟨m.unused k unused.1, unused.2⟩

/-- Another account is changed in the first only. -/
theorem change_other (m : Mirrors l account own w w') (apart : other ≠ account)
    (change : AccountChange) : Mirrors l account own (w.act l (.change other change)) w' := by
  refine { m with
    sound := m.sound.step (act_step _), told := ?_, calls := ?_, unused := ?_
    record := m.record.trans (Directory.record?_change apart change).symm
    entries := fun id mine => (m.entries id mine).of_stores rfl rfl }
  · intro t k p begun
    exact m.told t k p (by simpa [act] using begun)
  · intro k f flight isOf
    simp only [act, callsOf_changed]
    exact m.calls k f flight isOf
  · intro k
    simp only [act, hasBegun, List.any_append, Bool.or_eq_false_iff]
    exact fun unused => m.unused k unused.1

/-- What concerns the account happens in both, and anything else in the first only. -/
theorem act (m : Mirrors l account own w w') (a : Action)
    (told : ∀ n o, a = .begin n o → (o.subject? = some account ↔ own o.tokenId)) :
    Mirrors l account own (w.act l a) (if a.concerns account w then w'.act l a else w') := by
  cases a with
  | wait now => exact m.wait now
  | change other change =>
      by_cases same : other = account
      · subst same
        rw [Action.concerns, decide_eq_true rfl, if_pos rfl]
        exact m.change_own change
      · rw [Action.concerns, decide_eq_false same, if_neg Bool.false_ne_true]
        exact m.change_other same change
  | begin n o =>
      have told := told n o rfl
      cases used : w.hasBegun n with
      | true =>
          have same : w.act l (.begin n o) = w := by simp [Traffic.act, begin, used]
          rw [same, Action.concerns, used]
          exact m
      | false =>
          by_cases mine : o.subject? = some account
          · rw [Action.concerns, used, decide_eq_true mine]
            exact m.begin_own used mine (told.mp mine)
          · rw [Action.concerns, used, decide_eq_false mine]
            exact m.begin_other used mine (fun own => mine (told.mpr own))
  | proceed n fault =>
      by_cases calls : ∃ o x next, w.flights.get? n = some ⟨o, some (.call x next)⟩
      · obtain ⟨o, x, next, coming⟩ := calls
        have concerns : Action.concerns account w (.proceed n fault) =
            decide (o.subject? = some account) := by
          rw [Action.concerns, coming]
          rfl
        rw [concerns, act_proceed coming]
        by_cases mine : o.subject? = some account
        · have coming' : w'.flights.get? n = some ⟨o, some (.call x next)⟩ := by
            rw [m.flights n, coming, Option.filter_some, if_pos]
            exact decide_eq_true mine
          rw [if_pos (decide_eq_true mine), act_proceed coming']
          exact m.call_own fault coming mine
        · rw [decide_eq_false mine, if_neg Bool.false_ne_true]
          exact m.call_other fault coming mine
      · -- Neither has a call to make.
        have still : w.act l (.proceed n fault) = w :=
          act_proceed_still fun o x next coming => calls ⟨o, x, next, coming⟩
        have still' : w'.act l (.proceed n fault) = w' := by
          refine act_proceed_still fun o x next coming => ?_
          rw [m.flights n, Option.filter_eq_some_iff] at coming
          exact calls ⟨o, x, next, coming.1⟩
        rw [still, still', ite_self]
        exact m

/-- So for a whole run. -/
theorem acts {as : List Action} (m : Mirrors l account own w w')
    (told : ∀ n o, Action.begin n o ∈ as → (o.subject? = some account ↔ own o.tokenId)) :
    Mirrors l account own (w.acts l as) (w'.acts l (only l account w as)) := by
  induction as generalizing w w' with
  | nil => exact m
  | cons a as ih =>
      have next := m.act a fun n o same => told n o (same ▸ List.mem_cons_self)
      have further := ih next fun n o member => told n o (List.mem_cons_of_mem _ member)
      by_cases concerns : a.concerns account w = true
      · simp only [only, concerns, if_true] at further ⊢
        exact further
      · simp only [only, concerns] at further ⊢
        exact further

end Mirrors

/-- No token of the account has an id in common with any other token that is used. -/
def Apart (account : AccountId) (as : List Action) : Prop :=
  ∀ n o m p, Action.begin n o ∈ as → Action.begin m p ∈ as → o.tokenId = p.tokenId →
    o.subject? = some account → p.subject? = some account

/-- Accounts do not interfere. Take any run at a gate over a store in memory, and leave out of it
whatever concerns other accounts than a given one, whose tokens have ids of their own. Then the
operations on its tokens come as far as before, make the same calls with the same replies, and
come to the same answers. The account has the same record, so that further changes of it are
answered in the same way, and its tokens have the same counters. -/
theorem unchanged_without_others (l : Ledger) (account : AccountId) (now : Instant)
    (m : VolatileStore) (d : Directory) (as : List Action) (apart : Apart account as) :
    let first := start now ⟨.volatile m, d⟩
    let w := first.acts l as
    let w' := first.acts l (only l account first as)
    w'.now = w.now ∧
    (∀ n, w'.flights.get? n = (w.flights.get? n).filter (Flight.isOf account)) ∧
    (∀ n f, w.flights.get? n = some f → f.isOf account = true →
      callsOf n w'.log = callsOf n w.log) ∧
    w'.services.directory.record? account = w.services.directory.record? account ∧
    (w'.services.directory.bump account).1 = (w.services.directory.bump account).1 ∧
    (w'.services.directory.lock account).1 = (w.services.directory.lock account).1 ∧
    (∀ n o, Action.begin n o ∈ as → o.subject? = some account →
      w'.services.store.entries.get? (l.key o.tokenId) =
        w.services.store.entries.get? (l.key o.tokenId)) := by
  intro first w w'
  -- The ids of the account's tokens.
  let own : TokenId → Prop := fun id =>
    ∃ n o, Action.begin n o ∈ as ∧ o.tokenId = id ∧ o.subject? = some account
  have told : ∀ n o, Action.begin n o ∈ as → (o.subject? = some account ↔ own o.tokenId) := by
    intro n o member
    constructor
    · exact fun mine => ⟨n, o, member, rfl, mine⟩
    · rintro ⟨k, p, member', same, mine⟩
      exact apart k p n o member' member same mine
  have mirrors : Mirrors l account own w w' := Mirrors.acts (mirrors_start now m d) told
  have record := mirrors.record
  refine ⟨mirrors.clock, mirrors.flights, mirrors.calls, record, ?_, ?_, ?_⟩
  · simp only [Directory.bump, record]
    cases w.services.directory.record? account with
    | none => rfl
    | some r => rfl
  · simp only [Directory.lock, record]
    cases w.services.directory.record? account with
    | none => rfl
    | some r => rfl
  · intro n o member mine
    exact (mirrors.entries _ ((told n o member).mp mine)).get?_eq

def neighbourClaims : Claims :=
  { sampleClaims with tokenId := ⟨"other", by decide⟩, subject := ⟨"neighbour", by decide⟩ }

/-- Both accounts are registered. -/
def neighbours : Traffic :=
  start (.ofSeconds 0) ⟨.volatile .empty,
    sampleDirectory.register neighbourClaims.subject neighbourClaims.version⟩

/-- The sample token is presented. Between any two of its calls the neighbour presents a token,
and then presents it again. -/
def amongNeighbours : List Action :=
  [.begin 0 (.refresh sampleClaims), .begin 1 (.refresh neighbourClaims)] ++
    (List.replicate 6 [.proceed 1 none, .proceed 0 none]).flatten ++
    .begin 2 (.refresh neighbourClaims) :: List.replicate 4 (.proceed 2 none)

theorem apart_amongNeighbours : Apart sampleClaims.subject amongNeighbours := by
  intro n o m p begun begun' same mine
  have cases : ∀ n o, Action.begin n o ∈ amongNeighbours →
      o = .refresh sampleClaims ∨ o = .refresh neighbourClaims := by
    intro n o begun
    simp [amongNeighbours, List.replicate] at begun
    rcases begun with ⟨_, rfl⟩ | ⟨_, rfl⟩ | ⟨_, rfl⟩
    · exact .inl rfl
    · exact .inr rfl
    · exact .inr rfl
  obtain rfl | rfl := cases n o begun
  · obtain rfl | rfl := cases m p begun'
    · exact mine
    · exact absurd same (by decide)
  · exact absurd mine (by decide)

/-- The neighbour is found out and locked, and the sample token is granted as if it had been
presented alone. -/
theorem granted_among_neighbours :
    Apart sampleClaims.subject amongNeighbours ∧
      (neighbours.acts .standard amongNeighbours).Answered 2 (.refresh neighbourClaims)
        (.ok (.denied .replay)) ∧
      only .standard sampleClaims.subject neighbours amongNeighbours =
        .begin 0 (.refresh sampleClaims) :: List.replicate 6 (.proceed 0 none) ∧
      (neighbours.acts .standard (only .standard sampleClaims.subject neighbours
        amongNeighbours)).Answered 0 (.refresh sampleClaims) (.ok .granted) := by
  have granted : (neighbours.acts .standard amongNeighbours).Answered 0 (.refresh sampleClaims)
      (.ok .granted) := show Table.get? _ 0 = _ from rfl
  refine ⟨apart_amongNeighbours, show Table.get? _ 2 = _ from rfl, rfl, ?_⟩
  obtain ⟨_, flights, _⟩ := unchanged_without_others .standard sampleClaims.subject (.ofSeconds 0)
    .empty (sampleDirectory.register neighbourClaims.subject neighbourClaims.version)
    amongNeighbours apart_amongNeighbours
  exact (flights 0).trans (congrArg (Option.filter (Flight.isOf sampleClaims.subject)) granted)

end Traffic

end RequestGuard
