import RequestGuard.Proofs.Standing
import RequestGuard.Proofs.Traffic.Accounted
import RequestGuard.Proofs.Traffic.Alone

/-!
# A change of credentials

A token carries the version that its account had when the token was issued. A change of the
credentials moves the account on to a later version, and nothing but another registration takes
it back. So every token of an earlier version is outdated for good, while one of the current
version is granted, if nothing else speaks against it.

The first part holds whatever the store replies, since the version is asked for before any
grant. The second part rests on `Accounted`: in a store that only the gate has written to, a
counter beyond one comes from a claim or a logout.
-/

namespace RequestGuard

namespace Directory

variable {d : Directory} {account : AccountId} {version : Version}

/-- The account is at a later version than the given one. -/
def Beyond (version : Version) (account : AccountId) (d : Directory) : Prop :=
  ∃ current, d.currentVersion account = some current ∧
    version.number.toNat < current.number.toNat

/-- A change of the credentials leads beyond every version but the last. -/
theorem beyond_bump (h : d.currentVersion account = some version)
    (more : version.number.toNat < Word.max.toNat) :
    (d.bump account).2.Beyond version account := by
  obtain ⟨r, record, rfl⟩ := Option.map_eq_some_iff.mp h
  have largest : Word.max.toNat = 0xffffffffffffffff := rfl
  refine ⟨r.version.next, ?_, ?_⟩
  · rw [currentVersion, record?_bump, if_pos rfl, record]
    rfl
  · rw [Version.next, Word.toNat_saturatingSucc]
    omega

/-- No event leads back, but for another registration. -/
theorem Beyond.meet {event : Event} (h : d.Beyond version account)
    (kept : ∀ t v, event ≠ .changed t account (.register v)) :
    (d.meet event).Beyond version account := by
  obtain ⟨current, same, later⟩ := h
  by_cases renews : event.Renews account
  · cases renews with
    | register t v => exact absurd rfl (kept t v)
    | bump t =>
        obtain ⟨r, record, rfl⟩ := Option.map_eq_some_iff.mp same
        refine ⟨r.version.next, ?_, ?_⟩
        · show ((d.bump account).2.record? account).map _ = _
          rw [record?_bump, if_pos rfl, record]
          rfl
        · have fits := r.version.number.upper
          rw [Version.next, Word.toNat_saturatingSucc]
          omega
  · exact ⟨current, (currentVersion_meet renews).trans same, later⟩

end Directory

/-- A token that was recorded at most, of an unlocked account at its version, is granted. -/
theorem Exchange.run_decide_granted {l : Ledger} {c : Claims} {now : Instant} {es : Entries}
    {d : Directory} {r : AccountRecord} (early : now < c.expiresAt)
    (calendar : c.expiresAt.InCalendar) (record : d.record? c.subject = some r)
    (unlocked : r.locked = false) (current : r.version = c.version)
    (one : ∀ e, es.live? now (l.key c.tokenId) = some e → e.value = 1) :
    ∃ services, Services.run ⟨.volatile ⟨es⟩, d⟩ now (decide l c now) =
      (some (.ok .granted), services) := by
  rw [decide, (c.remaining?_eq_some_iff now _).mpr ⟨early, rfl⟩]
  have checked : ∀ {es : Entries} {e : Entry}, es.live? now (l.key c.tokenId) = some e →
      e.value = 1 → ∃ services, Services.run ⟨.volatile ⟨es⟩, d⟩ now
        (checkAccount l c (c.expiresAt.since now)) = (some (.ok .granted), services) := by
    intro es e live one
    rw [run_checkAccount live one, record]
    simp only [unlocked, current, ne_eq, not_true_eq_false, if_false, Bool.false_eq_true]
    exact ⟨_, rfl⟩
  cases live : es.live? now (l.key c.tokenId) with
  | some e =>
      simp only [run_check_first live (one e live)]
      exact checked live (one e live)
  | none =>
      have recorded : Entries.live? (es.insert (l.key c.tokenId) ⟨1, .utc c.expiresAt⟩) now
          (l.key c.tokenId) = some ⟨1, .utc c.expiresAt⟩ := by
        rw [Entries.live?_eq_some_iff, Table.get?_insert, if_pos rfl]
        exact ⟨rfl, early⟩
      simp only [run_check_unseen early calendar live]
      exact checked recorded rfl

namespace Traffic

variable {l : Ledger} {allowed : Traffic → Action → Prop} {w v : Traffic} {account : AccountId}
  {version : Version}

/-- What may happen where the store is written through the gate only. -/
def ThroughGate (_ : Traffic) : Action → Prop
  | .begin _ o => o.AtGate
  | .wait _ | .proceed _ _ | .change _ _ => True

/-- The same, and the account is not registered again. -/
def WithoutRegistering (account : AccountId) (w : Traffic) (a : Action) : Prop :=
  ThroughGate w a ∧ ∀ v, a ≠ .change account (.register v)

theorem Grant.asked_mem {c : Claims} {n : Nat} {log : List Event} (g : Grant l c n log) :
    Event.called g.asked n ⟨.currentVersion c.subject, some (.ok (some c.version))⟩ ∈ log := by
  obtain ⟨early, asked, middle, checked, late, claimed, value, rest, two, rfl⟩ := g
  exact List.mem_append_right _ List.mem_cons_self

/-- Once an account is beyond a version it stays so, unless it is registered again. -/
theorem beyond_reaches (r : Reaches l allowed w v) (volatile : w.services.store.isDurable = false)
    (kept : ∀ u v, ¬ allowed u (.change account (.register v)))
    (h : w.services.directory.Beyond version account) :
    v.services.directory.Beyond version account := by
  refine r.induct_volatile (P := fun u => u.services.directory.Beyond version account)
    volatile h ?_
  intro u a _ ok beyond
  have step := act_step (l := l) (w := u) a
  revert step
  generalize u.act l a = u'
  intro step
  cases step with
  | wait | begun | nothing => exact beyond
  | called coming =>
      show (u.services.perform u.now _ _).2.directory.Beyond version account
      rw [Services.directory_perform u.services u.now u.now _ 0 _ none]
      exact beyond.meet nofun
  | changed other change =>
      have other : ∀ t v, Event.changed u.now other change ≠ .changed t account (.register v) := by
        intro t v same
        cases same
        exact kept u v ok
      exact beyond.meet other

/-- Nobody is granted a token of a version that the account was beyond when the presentation
began. -/
theorem not_granted_of_beyond {n : Nat} {c : Claims} (s : Sound l w) (r : Reaches l allowed w v)
    (volatile : w.services.store.isDurable = false)
    (kept : ∀ u v, ¬ allowed u (.change c.subject (.register v)))
    (beyond : w.services.directory.Beyond version c.subject) (new : w.hasBegun n = false)
    (outdated : c.version.number.toNat ≤ version.number.toNat) :
    ¬ v.Answered n (.refresh c) (.ok .granted) := by
  intro granted
  obtain ⟨grant⟩ := (r.sound s).grant granted
  obtain ⟨later, log⟩ := r.log_grows
  have asked : Event.called grant.asked n
      ⟨.currentVersion c.subject, some (.ok (some c.version))⟩ ∈ w.log ++ later := by
    rw [← log]
    exact grant.asked_mem
  obtain old | recent := List.mem_append.mp asked
  · rw [s.known _ n _ old] at new
    cases new
  · obtain ⟨m⟩ := r.moment log recent
    obtain ⟨current, same, more⟩ := beyond_reaches m.reached volatile kept beyond
    have reply : some (.ok (some c.version)) =
        (m.before.services.perform m.before.now m.fault (.currentVersion c.subject)).1 := m.reply
    have shown : some c.version = m.before.services.directory.currentVersion c.subject :=
      Except.ok.inj (Option.some.inj reply)
    rw [same] at shown
    cases shown
    omega

/-- A token of the current version of an unlocked account that was neither claimed nor logged
out is granted to a presentation that is left alone. -/
theorem granted_alone {n : Nat} {c : Claims} (a : Accounted l c.tokenId w)
    (volatile : w.services.store.isDurable = false)
    (version : w.services.directory.currentVersion c.subject = some c.version)
    (unlocked : w.services.directory.isLocked c.subject = false) (early : w.now < c.expiresAt)
    (calendar : c.expiresAt.InCalendar) (unspent : ¬ Spent l c.tokenId w.log)
    (new : w.hasBegun n = false) :
    ∃ k, (w.acts l (.begin n (.refresh c) :: List.replicate k (.proceed n none))).Answered n
      (.refresh c) (.ok .granted) := by
  obtain ⟨r, record, current⟩ := Option.map_eq_some_iff.mp version
  rw [Directory.isLocked, record] at unlocked
  have run : ∃ services, w.services.run w.now (Exchange.decide l c w.now) =
      (some (.ok .granted), services) := by
    have one : ∀ e, w.services.store.entries.live? w.now (l.key c.tokenId) = some e →
        e.value = 1 := by
      intro e live
      obtain ⟨got, _⟩ := Entries.live?_eq_some_iff.mp live
      have positive := a.positive e got
      have low : ¬ 1 < e.value.toInt := fun high => unspent (a.high e got high)
      refine SignedWord.eq_of_toInt_eq ?_
      rw [SignedWord.toInt_one]
      omega
    revert volatile record one
    obtain ⟨store, directory⟩ := w.services
    intro volatile record one
    cases store with
    | durable s d => cases volatile
    | volatile m => exact Exchange.run_decide_granted early calendar record unlocked current one
  obtain ⟨services, run⟩ := run
  obtain ⟨k, answered, _⟩ := begins_alone (o := .refresh c) new run
  exact ⟨k, answered⟩

/-- A change of the credentials of an account outdates every token that it has issued so far: no
presentation that begins after the change is granted a token of the old version or an earlier
one, whatever its id and whatever the store holds. A token of the current version stays good. It
is granted, if it lives, was neither claimed nor logged out, finds the account unlocked, and is
left alone. -/
theorem outdated_by_new_credentials (l : Ledger) (now : Instant) (d : Directory)
    (account : AccountId) (version : Version) :
    ∀ w, Reaches l ThroughGate (start now ⟨.volatile .empty, d⟩) w →
      w.services.directory.currentVersion account = some version →
      version.number.toNat < Word.max.toNat →
      ∀ v, Reaches l (WithoutRegistering account) (w.act l (.change account .bump)) v →
        (∀ n c, w.hasBegun n = false → c.subject = account →
          c.version.number.toNat ≤ version.number.toNat →
            ¬ v.Answered n (.refresh c) (.ok .granted)) ∧
        (∀ n c, v.hasBegun n = false → c.subject = account →
          v.services.directory.currentVersion account = some c.version →
          v.services.directory.isLocked account = false →
          v.now < c.expiresAt → c.expiresAt.InCalendar →
          (¬ ∃ f, Claimed l c.tokenId v.log f) → (¬ ∃ f, LoggedOut l c.tokenId v.log f) →
            ∃ k, (v.acts l (.begin n (.refresh c) ::
              List.replicate k (.proceed n none))).Answered n (.refresh c) (.ok .granted)) := by
  intro w before current more v after
  have volatile : w.services.store.isDurable = false := before.volatile rfl
  have sound : Sound l (w.act l (.change account .bump)) :=
    (before.sound (sound_start _ _)).step (act_step _)
  constructor
  · rintro n c new rfl outdated
    refine not_granted_of_beyond sound after volatile (fun _ v ok => ok.2 v rfl) ?_ ?_ outdated
    · exact Directory.beyond_bump current more
    · simpa [act, hasBegun, Event.begins] using new
  · rintro n c new rfl version unlocked early calendar unclaimed kept
    have whole : Reaches l ThroughGate (start now ⟨.volatile .empty, d⟩) v := by
      refine Reaches.trans (.act (a := .change c.subject .bump) before trivial) ?_
      exact after.mono fun _ _ ok => ok.1
    have accounted : Accounted l c.tokenId v :=
      (accounted_start now d).reaches (gated_start _ _) rfl whole fun _ _ _ ok _ => ok
    refine granted_alone accounted (whole.volatile rfl) version unlocked early calendar ?_ new
    rintro (claimed | loggedOut)
    · exact unclaimed claimed
    · exact kept loggedOut

/-- The credentials of the sample account are changed, and the sample token is presented. -/
def outdatedSample : Traffic :=
  ((start (.ofSeconds 0) ⟨.volatile .empty, sampleDirectory⟩).act .standard
    (.change sampleClaims.subject .bump)).acts .standard
      (.begin 0 (.refresh sampleClaims) :: List.replicate 5 (.proceed 0 none))

def renewedClaims : Claims :=
  { sampleClaims with tokenId := ⟨"renewed", by decide⟩, version := ⟨⟨2, by decide⟩⟩ }

theorem outdatedSample_reached :
    Reaches .standard (WithoutRegistering sampleClaims.subject)
      ((start (.ofSeconds 0) ⟨.volatile .empty, sampleDirectory⟩).act .standard
        (.change sampleClaims.subject .bump)) outdatedSample := by
  refine reaches_acts (.refl _) ?_
  have ok : ∀ u : Traffic, WithoutRegistering sampleClaims.subject u (.proceed 0 none) :=
    fun _ => ⟨trivial, nofun⟩
  exact ⟨⟨trivial, nofun⟩, ok _, ok _, ok _, ok _, ok _, trivial⟩

/-- No call so far was about the renewed token. -/
theorem renewed_untouched {t : Instant} {f : Nat} {made : Made}
    (called : Event.called t f made ∈ outdatedSample.log) :
    made.call.key? ≠ some (Ledger.standard.key renewedClaims.tokenId) := by
  have none : outdatedSample.log.all (fun event =>
      decide (event.key? ≠ some (Ledger.standard.key renewedClaims.tokenId))) = true := rfl
  exact of_decide_eq_true (List.all_eq_true.mp none _ called)

/-- The sample token is denied as stale, and the renewed one will be granted. -/
theorem stale_then_renewed :
    outdatedSample.Answered 0 (.refresh sampleClaims) (.ok (.denied .staleVersion)) ∧
      ¬ outdatedSample.Answered 0 (.refresh sampleClaims) (.ok .granted) ∧
      ∃ k, (outdatedSample.acts .standard (.begin 1 (.refresh renewedClaims) ::
        List.replicate k (.proceed 1 none))).Answered 1 (.refresh renewedClaims)
          (.ok .granted) := by
  obtain ⟨outdated, current⟩ := outdated_by_new_credentials .standard (.ofSeconds 0)
    sampleDirectory sampleClaims.subject sampleClaims.version _ (.refl _) rfl (by decide)
    outdatedSample outdatedSample_reached
  refine ⟨show Table.get? _ 0 = _ from rfl, outdated 0 sampleClaims rfl rfl (Nat.le_refl _),
    current 1 renewedClaims rfl rfl rfl rfl (by decide) (by decide) ?_ ?_⟩
  · rintro ⟨f, t, value, called, _⟩
    exact renewed_untouched called rfl
  · rintro ⟨f, _, t, value, ttl, called⟩
    exact renewed_untouched called rfl

end Traffic

end RequestGuard
