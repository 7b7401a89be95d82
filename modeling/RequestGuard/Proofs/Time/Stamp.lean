import RequestGuard.Proofs.Text.Digits
import RequestGuard.Proofs.Time.Calendar
import RequestGuard.Time.Stamp

/-!
# Reading time stamps back

Every stamp that can be written is read back as it was: the same moment, to the nanosecond,
in the same offset. The seconds on the local clock are split into a date and a second of the
day, and put together again. A stamp that was read, be it in a form that is never written,
can be written too.
-/

namespace RequestGuard

def Instant.yearZero : Instant := .ofSeconds (86400 * Date.dayNumber ⟨0, 1, 1⟩)

namespace Stamp

def year (s : Stamp) : Int := (Date.ofDayNumber (s.localSeconds / 86400)).year

section Bind

variable {α : Type} {n : Nat} (c : Char) (cs : List Char)

theorem readFixed_bind (width : Nat) (h : n < Nat.pow 10 width) (cs : List Char)
    (f : Nat × List Char → Option α) :
    (readFixed width 0 (fixedDigits width n ++ cs) >>= f) = f (n, cs) := by
  rw [readFixed_fixedDigits width h]
  rfl

theorem expect_bind (f : List Char → Option α) : (expect c (c :: cs) >>= f) = f cs := by
  rw [expect, if_pos rfl]
  rfl

theorem readSeparator_bind (f : List Char → Option α) : (readSeparator ('T' :: cs) >>= f) = f cs :=
  rfl

end Bind

theorem renderOffset_head (o : Offset) :
    ∃ c cs, renderOffset o = c :: cs ∧ (c = 'Z' ∨ c = '-' ∨ c = '+') := by
  unfold renderOffset
  split
  · exact ⟨_, _, rfl, .inl rfl⟩
  · split
    · exact ⟨_, _, rfl, .inr (.inl rfl)⟩
    · exact ⟨_, _, rfl, .inr (.inr rfl)⟩

theorem noDigitAhead_renderOffset (o : Offset) : NoDigitAhead (renderOffset o) := by
  obtain ⟨c, cs, offset, sign⟩ := renderOffset_head o
  rw [offset]
  rintro _ ⟨⟩
  rcases sign with rfl | rfl | rfl <;> rfl

theorem readNanos_renderFraction {nanos : Nat} (h : nanos < 1000000000) (o : Offset) :
    readNanos (renderFraction nanos ++ renderOffset o) = some (nanos, renderOffset o) := by
  unfold renderFraction
  split
  · rename_i whole
    obtain ⟨c, cs, offset, sign⟩ := renderOffset_head o
    rw [offset, whole]
    rcases sign with rfl | rfl | rfl <;> rfl
  · rename_i part
    have read := readFraction_fractionDigits 9 h (noDigitAhead_renderOffset o)
    have digit : nanos / Nat.pow 10 8 < 10 := by
      show nanos / 100000000 < 10
      omega
    rw [fractionDigits, if_neg part, List.cons_append] at read
    rw [fractionDigits, if_neg part, List.cons_append, List.cons_append, readNanos,
      if_pos (isDecimal_digitChar digit), read]

theorem readOffset_clock {sign : Char} {hours minutes : Nat} (signed : sign = '+' ∨ sign = '-')
    (h : hours < 100) (m : minutes < 100) :
    readOffset (sign :: fixedDigits 2 hours ++ ':' :: fixedDigits 2 minutes) =
      Offset.ofClock? (sign == '+') hours minutes := by
  have last := readFixed_fixedDigits 2 m []
  rw [List.append_nil] at last
  rcases signed with rfl | rfl
  · refine (readFixed_bind 2 h _ _).trans ((expect_bind ':' _ _).trans ?_)
    rw [last]
    rfl
  · refine (readFixed_bind 2 h _ _).trans ((expect_bind ':' _ _).trans ?_)
    rw [last]
    rfl

theorem readOffset_renderOffset (o : Offset) : readOffset (renderOffset o) = some o := by
  obtain ⟨n, lower, upper⟩ := o
  have hours : n.natAbs / 60 < 24 := by omega
  have minutes : n.natAbs % 60 < 60 := by omega
  simp only [renderOffset]
  split
  · rename_i none
    subst none
    rfl
  · rw [readOffset_clock (by split <;> simp) (by omega) (by omega), Offset.ofClock?,
      dif_pos ⟨hours, minutes⟩]
    split
    · rename_i behind
      simp only [Char.reduceBEq, Bool.false_eq_true, if_false, Option.some.injEq,
        Offset.mk.injEq]
      omega
    · rename_i ahead
      simp only [beq_self_eq_true, if_true, Option.some.injEq, Offset.mk.injEq]
      omega

/-- The moment that a stamp shows on its local clock is the one that it stands for. -/
theorem ofLocal_localSeconds (s : Stamp) :
    ofLocal (Date.ofDayNumber (s.localSeconds / 86400)) (s.localSeconds % 86400).toNat
      s.instant.subseconds.toNat s.offset = s := by
  obtain ⟨⟨nanos⟩, offset⟩ := s
  simp only [ofLocal, Date.dayNumber_ofDayNumber, localSeconds, Instant.seconds,
    Instant.subseconds, nanosPerSecond, mk.injEq, Instant.mk.injEq, and_true]
  omega

/-- The fields of a stamp are read back one after the other. -/
theorem parse?_fields {date : Date} {second nanos : Nat} (o : Offset)
    (years : 0 ≤ date.year ∧ date.year ≤ 9999) (real : date.Exists) (small : second < 86400)
    (fraction : nanos < 1000000000) :
    parse? (fixedDigits 4 date.year.toNat ++ '-' :: fixedDigits 2 date.month ++
      '-' :: fixedDigits 2 date.day ++
      'T' :: fixedDigits 2 (second / 3600) ++ ':' :: fixedDigits 2 (second / 60 % 60) ++
      ':' :: fixedDigits 2 (second % 60) ++ renderFraction nanos ++ renderOffset o) =
      some (ofLocal date second nanos o) := by
  have year : date.year.toNat < 10000 := by omega
  have ⟨_, _, _, _⟩ := real
  have month : date.month < 100 := by omega
  have day : date.day < 100 := by
    have := Date.monthLength_le date.year date.month
    omega
  have hour : second / 3600 < 100 := by omega
  have minute : second / 60 % 60 < 100 := by omega
  have inMinute : second % 60 < 100 := by omega
  have clock : second / 3600 < 24 ∧ second / 60 % 60 < 60 := by omega
  have same : (⟨date.year.toNat, date.month, date.day⟩ : Date) = date := by
    rw [Int.toNat_of_nonneg years.1]
  have whole : 60 * (60 * (second / 3600) + second / 60 % 60) + second % 60 = second := by omega
  simp only [List.append_assoc, List.cons_append, parse?]
  rw [readFixed_bind 4 year, expect_bind, readFixed_bind 2 month, expect_bind,
    readFixed_bind 2 day, readSeparator_bind, readFixed_bind 2 hour, expect_bind,
    readFixed_bind 2 minute, expect_bind, readFixed_bind 2 inMinute,
    readNanos_renderFraction fraction, Option.bind_eq_bind, Option.bind_some,
    readOffset_renderOffset, Option.bind_eq_bind, Option.bind_some, same]
  rw [if_pos ⟨real, clock⟩, if_pos (Nat.mod_lt _ (by decide)), whole]

/-- A stamp that was written is read back. -/
theorem parse?_render? {s : Stamp} {text : List Char} (h : s.render? = some text) :
    parse? text = some s := by
  have small : (s.localSeconds % 86400).toNat < 86400 := by omega
  have fraction : s.instant.subseconds.toNat < 1000000000 := by
    rw [Instant.subseconds, nanosPerSecond]
    omega
  simp only [render?] at h
  split at h
  · rename_i years
    cases h
    rw [parse?_fields s.offset years (Date.exists_ofDayNumber _) small fraction,
      s.ofLocal_localSeconds]
  · cases h

/-- A moment from the year zero up to the end of the calendar can be written in UTC. -/
theorem render?_utc {t : Instant} (first : .yearZero ≤ t) (last : t ≤ .latest) :
    ((Stamp.utc t).render?).isSome := by
  have zero : Date.dayNumber ⟨0, 1, 1⟩ = -719528 := by decide
  have most : Date.dayNumber ⟨9999, 12, 31⟩ = 2932896 := by decide
  have local_eq : (Stamp.utc t).localSeconds = t.nanos / 1000000000 := Int.add_zero _
  simp only [Instant.le_iff, Instant.yearZero, Instant.ofSeconds, Instant.latest, zero,
    nanosPerSecond] at first last
  have years := Date.year_ofDayNumber_bounds (n := (Stamp.utc t).localSeconds / 86400)
    (by rw [local_eq, zero]; omega) (by rw [local_eq, most]; omega)
  simp only [render?, if_pos years, Option.isSome_some]

/-- A stamp can be written when the year on its local clock has four digits. -/
theorem render?_isSome_iff {s : Stamp} : (s.render?).isSome ↔ 0 ≤ s.year ∧ s.year ≤ 9999 := by
  simp only [render?, year]
  split
  · rename_i years
    simp [years]
  · rename_i years
    simp [years]

theorem readNanos_lt {nanos : Nat} {cs rest : List Char} (h : readNanos cs = some (nanos, rest)) :
    nanos < 1000000000 := by
  unfold readNanos at h
  split at h
  · rename_i c cs
    split at h
    · injection h with h
      have read := readFraction_lt 9 (c :: cs)
      rw [h] at read
      exact read
    · cases h
  · cases h
  · cases h
    decide

/-- The local clock of a stamp made from a date of the years 0 to 9999 shows such a year. -/
theorem year_ofLocal {date : Date} {second nanos : Nat} (o : Offset) (real : date.Exists)
    (years : 0 ≤ date.year ∧ date.year ≤ 9999) (small : second < 86400)
    (fraction : nanos < 1000000000) :
    0 ≤ (ofLocal date second nanos o).year ∧ (ofLocal date second nanos o).year ≤ 9999 := by
  have day : (ofLocal date second nanos o).localSeconds / 86400 = date.dayNumber := by
    simp only [localSeconds, ofLocal, Instant.seconds, nanosPerSecond]
    omega
  obtain ⟨first, last⟩ := Date.dayNumber_bounds real years
  rw [year, day]
  exact Date.year_ofDayNumber_bounds first last

/-- A stamp that was read can be written. -/
theorem render?_of_parse? {cs : List Char} {s : Stamp} (h : parse? cs = some s) :
    (s.render?).isSome := by
  unfold parse? at h
  obtain ⟨⟨year, _⟩, readYear, h⟩ := Option.bind_eq_some_iff.mp h
  obtain ⟨_, _, h⟩ := Option.bind_eq_some_iff.mp h
  obtain ⟨⟨month, _⟩, _, h⟩ := Option.bind_eq_some_iff.mp h
  obtain ⟨_, _, h⟩ := Option.bind_eq_some_iff.mp h
  obtain ⟨⟨day, _⟩, _, h⟩ := Option.bind_eq_some_iff.mp h
  obtain ⟨_, _, h⟩ := Option.bind_eq_some_iff.mp h
  obtain ⟨⟨hour, _⟩, _, h⟩ := Option.bind_eq_some_iff.mp h
  obtain ⟨_, _, h⟩ := Option.bind_eq_some_iff.mp h
  obtain ⟨⟨minute, _⟩, _, h⟩ := Option.bind_eq_some_iff.mp h
  obtain ⟨_, _, h⟩ := Option.bind_eq_some_iff.mp h
  obtain ⟨⟨second, _⟩, _, h⟩ := Option.bind_eq_some_iff.mp h
  obtain ⟨⟨nanos, _⟩, readNanos, h⟩ := Option.bind_eq_some_iff.mp h
  obtain ⟨offset, _, h⟩ := Option.bind_eq_some_iff.mp h
  dsimp only at h
  have years : (0 : Int) ≤ year ∧ (year : Int) ≤ 9999 := by
    have := readFixed_lt readYear
    omega
  have fraction := readNanos_lt readNanos
  rw [render?_isSome_iff]
  split at h
  · rename_i fields
    obtain ⟨real, hours, minutes⟩ := fields
    split at h
    · cases h
      exact year_ofLocal offset real years (by omega) fraction
    · split at h
      · split at h
        · -- A leap second counts as the last nanosecond before it.
          cases h
          exact year_ofLocal offset real years (by omega) (by decide)
        · cases h
      · cases h
  · cases h

end Stamp

end RequestGuard
