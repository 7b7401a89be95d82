import RequestGuard.Time.Calendar

/-!
# Dates and counts of days

A count of days splits into whole periods of four hundred years, a hundred, four and one,
and the days that are left of a year from March on. The date that it stands for is put
together from these parts; so that the date exists, and that its count is the one from which
it came, are facts about a linear sum within bounds.
-/

namespace RequestGuard

namespace Date

/-- A count of days in its parts, from March 0000 on. Only the last of four years has a
leap day, and of the last years of a century only that of the last century has one. -/
structure Parts where
  era : Int
  century : Int
  cycle : Int
  year : Int
  inYear : Int
  century_bounds : 0 ≤ century ∧ century ≤ 3
  cycle_bounds : 0 ≤ cycle ∧ cycle ≤ 24
  year_bounds : 0 ≤ year ∧ year ≤ 3
  inYear_bounds : 0 ≤ inYear ∧ inYear ≤ 365
  leap : inYear = 365 → year = 3 ∧ (cycle = 24 → century = 3)

namespace Parts

/-- The count itself. -/
def days (p : Parts) : Int :=
  146097 * p.era + 36524 * p.century + 1461 * p.cycle + 365 * p.year + p.inYear

def month (p : Parts) : Int := (5 * p.inYear + 2) / 153

def date (p : Parts) : Date where
  year := 400 * p.era + 100 * p.century + 4 * p.cycle + p.year + (if p.month < 10 then 0 else 1)
  month := (if p.month < 10 then p.month + 3 else p.month - 9).toNat
  day := (p.inYear - (153 * p.month + 2) / 5 + 1).toNat

theorem dayNumber_date (p : Parts) : p.date.dayNumber + epochDay = p.days := by
  have month : p.month = (5 * p.inYear + 2) / 153 := rfl
  have := p.century_bounds
  have := p.cycle_bounds
  have := p.year_bounds
  have := p.inYear_bounds
  -- January and February belong to the year before.
  by_cases early : p.month < 10
  · have late : ¬ (p.month + 3).toNat ≤ 2 := by omega
    have place : ((p.month + 3).toNat + 9) % 12 = p.month.toNat := by omega
    simp only [dayNumber, date, days, if_pos early, if_neg late, place]
    omega
  · have late : (p.month - 9).toNat ≤ 2 := by omega
    have place : ((p.month - 9).toNat + 9) % 12 = p.month.toNat := by omega
    simp only [dayNumber, date, days, if_neg early, if_pos late, place]
    omega

theorem exists_date (p : Parts) : p.date.Exists := by
  have month : p.month = (5 * p.inYear + 2) / 153 := rfl
  have := p.century_bounds
  have := p.cycle_bounds
  have := p.year_bounds
  have := p.inYear_bounds
  have := p.leap
  by_cases early : p.month < 10
  · simp only [Exists, date, if_pos early, monthLength]
    refine ⟨by omega, by omega, by omega, ?_⟩
    split
    · omega
    · split
      · omega
      · omega
  · simp only [Exists, date, if_neg early, monthLength]
    refine ⟨by omega, by omega, by omega, ?_⟩
    split
    · split
      · omega
      · rename_i common
        simp only [isLeapYear, Bool.and_eq_true, Bool.or_eq_true, beq_iff_eq, bne_iff_ne] at common
        omega
    · split
      · omega
      · omega

end Parts

theorem monthLength_le (year : Int) (month : Nat) : monthLength year month ≤ 31 := by
  unfold monthLength
  split
  · split
    · decide
    · decide
  · split
    · decide
    · decide

theorem exists_parts (n : Int) : ∃ p : Parts, ofDayNumber n = p.date ∧ n + epochDay = p.days := by
  obtain ⟨days, hdays⟩ : ∃ days, days = n + epochDay := ⟨_, rfl⟩
  obtain ⟨inEra, hinEra⟩ : ∃ x, x = days % 146097 := ⟨_, rfl⟩
  obtain ⟨century, hcentury⟩ : ∃ x, x = min 3 (inEra / 36524) := ⟨_, rfl⟩
  obtain ⟨inCentury, hinCentury⟩ : ∃ x, x = inEra - 36524 * century := ⟨_, rfl⟩
  obtain ⟨cycle, hcycle⟩ : ∃ x, x = inCentury / 1461 := ⟨_, rfl⟩
  obtain ⟨inCycle, hinCycle⟩ : ∃ x, x = inCentury - 1461 * cycle := ⟨_, rfl⟩
  obtain ⟨year, hyear⟩ : ∃ x, x = min 3 (inCycle / 365) := ⟨_, rfl⟩
  obtain ⟨inYear, hinYear⟩ : ∃ x, x = inCycle - 365 * year := ⟨_, rfl⟩
  have : 0 ≤ inEra ∧ inEra ≤ 146096 := by omega
  have : 0 ≤ inCentury ∧ inCentury ≤ 36524 ∧ (inCentury = 36524 → century = 3) := by omega
  have : 0 ≤ inCycle ∧ inCycle ≤ 1460 := by omega
  refine ⟨⟨days / 146097, century, cycle, year, inYear, by omega, by omega, by omega, by omega,
    by omega⟩, ?_, ?_⟩
  · subst hinYear hyear hinCycle hcycle hinCentury hcentury hinEra hdays
    rfl
  · simp only [Parts.days]
    omega

/-- The date of a count of days has that count. -/
@[simp] theorem dayNumber_ofDayNumber (n : Int) : (ofDayNumber n).dayNumber = n := by
  obtain ⟨p, date, days⟩ := exists_parts n
  rw [date]
  have := p.dayNumber_date
  omega

/-- Every count of days is that of a date. -/
theorem exists_ofDayNumber (n : Int) : (ofDayNumber n).Exists := by
  obtain ⟨p, date, _⟩ := exists_parts n
  rw [date]
  exact p.exists_date

/-- The days from the first of the year 0 to the last of the year 9999 have years of these. -/
theorem year_ofDayNumber_bounds {n : Int} (first : dayNumber ⟨0, 1, 1⟩ ≤ n)
    (last : n ≤ dayNumber ⟨9999, 12, 31⟩) :
    0 ≤ (ofDayNumber n).year ∧ (ofDayNumber n).year ≤ 9999 := by
  obtain ⟨p, date, days⟩ := exists_parts n
  rw [date]
  have zero : dayNumber ⟨0, 1, 1⟩ = -719528 := by decide
  have most : dayNumber ⟨9999, 12, 31⟩ = 2932896 := by decide
  have epoch : epochDay = 719468 := rfl
  have month : p.month = (5 * p.inYear + 2) / 153 := rfl
  have := p.century_bounds
  have := p.cycle_bounds
  have := p.year_bounds
  have := p.inYear_bounds
  simp only [Parts.days] at days
  simp only [Parts.date]
  have era : -1 ≤ p.era ∧ p.era ≤ 24 := by omega
  -- Only January and February of the year zero lie in the era before it.
  by_cases before : p.era = -1
  · have last : p.century = 3 ∧ p.cycle = 24 ∧ p.year = 3 ∧ 306 ≤ p.inYear := by omega
    rw [if_neg (by omega)]
    omega
  · split
    · omega
    · omega

/-- A date of the years 0 to 9999 is none before the first day of these and none after the
last. -/
theorem dayNumber_bounds {d : Date} (real : d.Exists) (years : 0 ≤ d.year ∧ d.year ≤ 9999) :
    dayNumber ⟨0, 1, 1⟩ ≤ d.dayNumber ∧ d.dayNumber ≤ dayNumber ⟨9999, 12, 31⟩ := by
  obtain ⟨year, month, day⟩ := d
  obtain ⟨first, last, one, length⟩ := real
  have short := Nat.le_trans length (monthLength_le year month)
  have zero : dayNumber ⟨0, 1, 1⟩ = -719528 := by decide
  have most : dayNumber ⟨9999, 12, 31⟩ = 2932896 := by decide
  have epoch : epochDay = 719468 := rfl
  rw [zero, most]
  dsimp only at first last one short years
  simp only [dayNumber]
  -- The outermost years are looked at alone, where the count of their leap days is a number.
  by_cases early : month ≤ 2
  · have place : (month + 9) % 12 = month + 9 := by omega
    simp only [if_pos early, place]
    by_cases outermost : year = 0
    · subst outermost
      omega
    · omega
  · have place : (month + 9) % 12 = month - 3 := by omega
    simp only [if_neg early, place]
    by_cases outermost : year = 9999
    · subst outermost
      omega
    · omega

end Date

end RequestGuard
