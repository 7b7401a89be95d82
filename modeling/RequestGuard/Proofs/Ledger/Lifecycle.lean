import RequestGuard.Proofs.Exchange
import RequestGuard.Proofs.Traffic.Basic

/-!
# The life of a token

What the ledger is meant to do with one token, one operation after the other, without counters
or a marker for blacklisted tokens. An unseen token is recorded, and then counts its uses from
two on. It is blacklisted from any phase, and nothing but the end of its lifetime leads out of
that. At the end of its lifetime it is unseen again.

A ledger keeps one number for each token. `Phase.counter` is the number for a phase, and the
lemmas about it say that the ledger reads the phase back, as long as the token was not marked
more often than there are numbers below the floor.
-/

namespace RequestGuard

/-- What a token has come to. A blacklisted one counts the marks that came too late. -/
inductive Phase where
  | firstUse
  | used (uses : Nat)
  | blacklisted (late : Nat)

/-- The phase of a token with the end of its lifetime, if it was seen. -/
abbrev Life : Type := Option (Phase × Instant)

namespace Phase

def mark : Phase → Phase
  | .firstUse => .used 2
  | .used uses => .used (uses + 1)
  | .blacklisted late => .blacklisted (late + 1)

/-- The number that stands for a phase. -/
def number : Phase → Nat
  | .firstUse => 1
  | .used uses => uses
  | .blacklisted late => 0x100000000 + late

def counter (p : Phase) : SignedWord := OfNat.ofNat p.number

/-- Whether a token in that phase may be exchanged. -/
def useCount : Phase → UseCount
  | .firstUse => .fresh
  | p => .tooManyUses p.counter

/-- What is said of a mark that has led to the phase. -/
def outcome : Phase → MarkOutcome
  | .blacklisted _ => .blacklisted
  | p => .recorded p.counter

def status : Phase → BlacklistStatus
  | .blacklisted _ => .blacklisted
  | .firstUse | .used _ => .clear

def state : Phase → TokenState
  | .firstUse => .firstUse
  | .used uses => .used (Phase.used uses).counter
  | .blacklisted _ => .blacklisted

/-- The phases to which a token can come with so many marks. -/
def Within (marks : Nat) : Phase → Prop
  | .firstUse => True
  | .used uses => 2 ≤ uses ∧ uses ≤ marks + 1
  | .blacklisted late => late ≤ marks

variable {p : Phase} {marks : Nat}

theorem Within.mono {more : Nat} (h : p.Within marks) (le : marks ≤ more) : p.Within more := by
  cases p with
  | firstUse => trivial
  | used uses => exact ⟨h.1, Nat.le_trans h.2 (Nat.succ_le_succ le)⟩
  | blacklisted late => exact Nat.le_trans h le

theorem Within.mark (h : p.Within marks) : p.mark.Within (marks + 1) := by
  cases p with
  | firstUse => exact ⟨Nat.le_refl 2, by omega⟩
  | used uses => exact ⟨Nat.le_succ_of_le h.1, Nat.succ_le_succ h.2⟩
  | blacklisted late => exact Nat.succ_le_succ h

theorem number_mark (p : Phase) : p.mark.number = p.number + 1 := by
  cases p <;> rfl

theorem number_lt (h : p.Within marks) (few : marks < 0xffffffff) : p.number < 0x200000000 := by
  cases p with
  | firstUse => decide
  | used uses =>
      have := h.2
      simp only [number]
      omega
  | blacklisted late =>
      have : late ≤ marks := h
      simp only [number]
      omega

/-- A number below the end of the words is kept. -/
theorem toInt_counter (small : p.number < 0x8000000000000000) : p.counter.toInt = p.number := by
  show ((p.number % 0x8000000000000000 : Nat) : Int) = p.number
  rw [Nat.mod_eq_of_lt small]

theorem toInt_counter_of_within (h : p.Within marks) (few : marks < 0xffffffff) :
    p.counter.toInt = p.number :=
  toInt_counter (Nat.lt_trans (number_lt h few) (by decide))

theorem counter_blacklisted : (Phase.blacklisted 0).counter = blacklistFloor :=
  SignedWord.eq_of_toInt_eq ((toInt_counter (by decide)).trans Exchange.toInt_blacklistFloor.symm)

/-- A mark moves the counter on by one. -/
theorem succ?_counter (h : p.Within marks) (few : marks < 0xffffffff) :
    p.counter.succ? = some p.mark.counter := by
  have small := number_lt h few
  have here := toInt_counter_of_within h few
  have next : p.mark.counter.toInt = p.mark.number := by
    refine toInt_counter ?_
    rw [number_mark]
    omega
  rw [number_mark] at next
  cases moved : p.counter.succ? with
  | none =>
      rw [SignedWord.succ?_eq_none_iff] at moved
      omega
  | some value =>
      refine congrArg some (SignedWord.eq_of_toInt_eq ?_)
      rw [SignedWord.toInt_of_succ? moved, here, next]
      omega

/-- A ledger reads the phase back from its counter. -/
theorem interpret_counter (key : String) (h : p.Within marks) (few : marks < 0xffffffff) :
    Ledger.interpret key p.counter = .ok p.state := by
  have number := toInt_counter_of_within h few
  have floor := Exchange.toInt_blacklistFloor
  unfold Ledger.interpret
  cases p with
  | firstUse => rfl
  | used uses =>
      have many := h.1
      have most := h.2
      simp only [Phase.number] at number
      rw [if_neg (by omega), if_neg (by omega), if_pos (by omega)]
      rfl
  | blacklisted late =>
      simp only [Phase.number] at number
      rw [if_pos (by omega)]
      rfl

theorem judge_counter (key : String) (h : p.Within marks) (few : marks < 0xffffffff) :
    Ledger.judge key p.counter = .ok p.useCount := by
  rw [Ledger.judge, interpret_counter key h few]
  cases p <;> rfl

theorem marked_counter (key : String) (h : p.Within marks) (few : marks < 0xffffffff) :
    Ledger.marked key (some p.counter) = .ok p.outcome := by
  simp only [Ledger.marked, interpret_counter key h few]
  cases p <;> rfl

theorem listed_counter (h : p.Within marks) (few : marks < 0xffffffff) :
    Ledger.listed (some p.counter) = p.status := by
  have number := toInt_counter_of_within h few
  have floor := Exchange.toInt_blacklistFloor
  simp only [Ledger.listed]
  cases p with
  | firstUse => rfl
  | used uses =>
      have most := h.2
      simp only [Phase.number] at number
      rw [if_neg (by omega)]
      rfl
  | blacklisted late =>
      simp only [Phase.number] at number
      rw [if_pos (by omega)]
      rfl

end Phase

namespace Life

/-- The phase that is seen at `now`. -/
def seen (now : Instant) (life : Life) : Option Phase :=
  (life.filter fun x => now < x.2).map Prod.fst

/-- The token was seen, and its lifetime does not end by `t`. -/
def Lasts (t : Instant) (life : Life) : Prop := ∃ p ends, life = some (p, ends) ∧ t < ends

/-- The life of a token that is recorded, unless it is seen. -/
def record (now : Instant) (ttl : Span) (life : Life) : Life :=
  match life.seen now with
  | some _ => life
  | none => some (.firstUse, ⟨now.nanos + ttl.nanos⟩)

/-- What an operation of the ledger answers, and what it makes of the life of its token. -/
def apply (l : Ledger) (id : TokenId) (now : Instant) (life : Life) :
    (step : Scenario.LedgerStep) →
      Except Failure (Operation.ledger id step).Answer × Life
  | .recordFirstUse ttl =>
    if ttl.Positive then (.ok (), life.record now ttl)
    else (.error (.storage (Entries.refuse (l.key id))), life)
  | .checkUseCount ttl =>
    match life.seen now with
    | some p => (.ok p.useCount, life)
    | none =>
      if ttl.Positive then (.ok .fresh, life.record now ttl)
      else (.error (.storage (Entries.refuse (l.key id))), life)
  | .invalidate ttl =>
    if ttl.Positive then (.ok (), some (.blacklisted 0, ⟨now.nanos + ttl.nanos⟩))
    else (.error (.storage (Entries.refuse (l.key id))), life)
  | .markUsed =>
    match life.seen now with
    | some p => (.ok p.mark.outcome, life.map fun x => (x.1.mark, x.2))
    | none =>
      (.error (.storage (.malformedValue (l.key id) "no use count recorded for this token")), life)
  | .checkBlacklist =>
    (.ok (match life.seen now with | some p => p.status | none => .clear), life)
  | .state => (.ok (match life.seen now with | some p => p.state | none => .unseen), life)

/-- The entry that stands for a phase and the end of a lifetime. -/
def entry (x : Phase × Instant) : Entry := ⟨x.1.counter, .utc x.2⟩

variable {now t : Instant} {life life' : Life} {p : Phase}

theorem seen_eq_some_iff : life.seen now = some p ↔ ∃ ends, life = some (p, ends) ∧ now < ends := by
  simp only [seen, Option.map_eq_some_iff, Option.filter_eq_some_iff, decide_eq_true_eq]
  constructor
  · rintro ⟨⟨q, ends⟩, ⟨rfl, early⟩, rfl⟩
    exact ⟨ends, rfl, early⟩
  · rintro ⟨ends, rfl, early⟩
    exact ⟨(p, ends), ⟨rfl, early⟩, rfl⟩

theorem lasts_of_seen (seen : life.seen now = some p) : life.Lasts now := by
  obtain ⟨ends, same, early⟩ := seen_eq_some_iff.mp seen
  exact ⟨p, ends, same, early⟩

theorem seen_eq_none_iff : life.seen now = none ↔ ∀ p ends, life = some (p, ends) → ends ≤ now := by
  simp only [Option.eq_none_iff_forall_not_mem, Option.mem_def, seen_eq_some_iff, not_exists,
    not_and, Instant.not_lt]

variable {l : Ledger} {id : TokenId} {step : Scenario.LedgerStep} {marks : Nat} {ttl : Span}
  {ends : Instant}

/-- A life that lasts beyond a moment of the past does so after an operation. -/
theorem lasts_apply (past : t ≤ now) (lasts : life.Lasts t) :
    (apply l id now life step).2.Lasts t := by
  have fresh : ∀ {ttl : Span}, ttl.Positive → t < ⟨now.nanos + ttl.nanos⟩ := by
    intro ttl positive
    rw [Span.positive_iff] at positive
    rw [Instant.le_iff] at past
    rw [Instant.lt_iff]
    show t.nanos < now.nanos + ttl.nanos
    omega
  have recorded : ∀ {ttl : Span}, ttl.Positive → (life.record now ttl).Lasts t := by
    intro ttl positive
    unfold record
    split
    · exact lasts
    · exact ⟨_, _, rfl, fresh positive⟩
  cases step with
  | recordFirstUse ttl =>
      simp only [apply]
      split
      · exact recorded ‹_›
      · exact lasts
  | checkUseCount ttl =>
      simp only [apply]
      split
      · exact lasts
      · split
        · exact recorded ‹_›
        · exact lasts
  | invalidate ttl =>
      simp only [apply]
      split
      · exact ⟨_, _, rfl, fresh ‹_›⟩
      · exact lasts
  | markUsed =>
      simp only [apply]
      split
      · obtain ⟨p, ends, rfl, later⟩ := lasts
        exact ⟨_, _, rfl, later⟩
      · exact lasts
  | checkBlacklist | state => exact lasts

/-- An operation leads to a phase that so many marks allow, one more if it is a mark. -/
theorem apply_within (within : ∀ p ends, life = some (p, ends) → p.Within marks)
    {p : Phase} (after : (apply l id now life step).2 = some (p, ends)) :
    p.Within (if step matches .markUsed then marks + 1 else marks) := by
  have recorded : ∀ {ttl : Span}, life.record now ttl = some (p, ends) → p.Within marks := by
    intro ttl after
    unfold record at after
    split at after
    · exact within p ends after
    · cases after
      trivial
  cases step with
  | recordFirstUse ttl =>
      simp only [apply] at after
      split at after
      · exact recorded after
      · exact within p ends after
  | checkUseCount ttl =>
      simp only [apply] at after
      split at after
      · exact within p ends after
      · split at after
        · exact recorded after
        · exact within p ends after
  | invalidate ttl =>
      simp only [apply] at after
      split at after
      · cases after
        exact Nat.zero_le marks
      · exact within p ends after
  | markUsed =>
      simp only [apply] at after
      split at after
      · obtain ⟨⟨q, _⟩, same, moved⟩ := Option.map_eq_some_iff.mp after
        cases moved
        exact (within q _ same).mark
      · exact (within p ends after).mono (Nat.le_succ marks)
  | checkBlacklist | state => exact within p ends after

end Life

end RequestGuard
