import RequestGuard.Time.Calendar
import RequestGuard.Time.Instant
import RequestGuard.Text.Digits

/-!
# Time stamps

A stamp is a moment together with the offset from UTC in which it is written. Its
text follows RFC 3339. Writing needs a year of four digits in that offset; reading
takes any ASCII character between date and time and any number of digits in the
fraction, of which nine count.

A leap second is taken for the last nanosecond before it, where one may fall: at the
end of a month in UTC.
-/

namespace RequestGuard

/-- How far a local clock is ahead of UTC: less than a day, in whole minutes. -/
structure Offset where
  minutes : Int
  lower : -1440 < minutes
  upper : minutes < 1440
deriving DecidableEq

namespace Offset

def utc : Offset := ⟨0, by decide, by decide⟩

instance : Inhabited Offset := ⟨utc⟩

/-- An offset as written: a sign, hours below 24 and minutes below 60. -/
def ofClock? (ahead : Bool) (hours minutes : Nat) : Option Offset :=
  if h : hours < 24 ∧ minutes < 60 then
    if ahead then some ⟨60 * hours + minutes, by omega, by omega⟩
    else some ⟨-(60 * hours + minutes), by omega, by omega⟩
  else none

end Offset

/-- A moment, written in some offset from UTC. -/
structure Stamp where
  instant : Instant
  offset : Offset
deriving DecidableEq, Inhabited

namespace Stamp

def utc (t : Instant) : Stamp := ⟨t, .utc⟩

/-- Seconds since 1970 began on the local clock, cut off downwards. -/
def localSeconds (s : Stamp) : Int := s.instant.seconds + 60 * s.offset.minutes

/-- The offset as written: `Z` for none, else a sign, hours and minutes. -/
def renderOffset (o : Offset) : List Char :=
  if o.minutes = 0 then ['Z']
  else
    let n := o.minutes.natAbs
    (if o.minutes < 0 then '-' else '+') :: fixedDigits 2 (n / 60) ++ ':' :: fixedDigits 2 (n % 60)

/-- The fraction as written: nothing for a whole second. -/
def renderFraction (nanos : Nat) : List Char :=
  if nanos = 0 then [] else '.' :: fractionDigits 9 nanos

/-- The text of a stamp, if the year has four digits in its offset. -/
def render? (s : Stamp) : Option (List Char) :=
  let date := Date.ofDayNumber (s.localSeconds / 86400)
  let second := (s.localSeconds % 86400).toNat
  if 0 ≤ date.year ∧ date.year ≤ 9999 then
    some (fixedDigits 4 date.year.toNat ++ '-' :: fixedDigits 2 date.month ++
      '-' :: fixedDigits 2 date.day ++
      'T' :: fixedDigits 2 (second / 3600) ++ ':' :: fixedDigits 2 (second / 60 % 60) ++
      ':' :: fixedDigits 2 (second % 60) ++
      renderFraction s.instant.subseconds.toNat ++ renderOffset s.offset)
  else none

def expect (c : Char) : List Char → Option (List Char)
  | [] => none
  | x :: cs => if x = c then some cs else none

/-- Passes over the character between date and time. -/
def readSeparator : List Char → Option (List Char)
  | [] => none
  | c :: cs => if c.toNat < 128 then some cs else none

/-- Reads a fraction, if a point begins one; a point needs a digit after it. -/
def readNanos : List Char → Option (Nat × List Char)
  | '.' :: c :: cs => if isDecimal c then some (readFraction 9 (c :: cs)) else none
  | ['.'] => none
  | cs => some (0, cs)

def readOffset : List Char → Option Offset
  | ['Z'] => some .utc
  | ['z'] => some .utc
  | [] => none
  | sign :: cs =>
    if sign = '+' ∨ sign = '-' then do
      let (hours, cs) ← readFixed 2 0 cs
      let cs ← expect ':' cs
      let (minutes, cs) ← readFixed 2 0 cs
      if cs.isEmpty then Offset.ofClock? (sign == '+') hours minutes else none
    else none

/-- The moment that a local clock shows at the given second of the day. -/
def ofLocal (date : Date) (second nanos : Nat) (offset : Offset) : Stamp :=
  let seconds := 86400 * date.dayNumber + second - 60 * offset.minutes
  ⟨⟨seconds * nanosPerSecond + nanos⟩, offset⟩

/-- Whether the moment lies in the last second of a month in UTC. -/
def endsMonth (s : Stamp) : Bool :=
  s.instant.seconds % 86400 == 86399 && (Date.ofDayNumber (s.instant.seconds / 86400)).isMonthEnd

def parse? (cs : List Char) : Option Stamp := do
  let (year, cs) ← readFixed 4 0 cs
  let cs ← expect '-' cs
  let (month, cs) ← readFixed 2 0 cs
  let cs ← expect '-' cs
  let (day, cs) ← readFixed 2 0 cs
  let cs ← readSeparator cs
  let (hour, cs) ← readFixed 2 0 cs
  let cs ← expect ':' cs
  let (minute, cs) ← readFixed 2 0 cs
  let cs ← expect ':' cs
  let (second, cs) ← readFixed 2 0 cs
  let (nanos, cs) ← readNanos cs
  let offset ← readOffset cs
  let date : Date := ⟨year, month, day⟩
  if date.Exists ∧ hour < 24 ∧ minute < 60 then
    let minutes := 60 * hour + minute
    if second < 60 then some (ofLocal date (60 * minutes + second) nanos offset)
    else if second = 60 then
      let stamp := ofLocal date (60 * minutes + 59) 999999999 offset
      if stamp.endsMonth then some stamp else none
    else none
  else none

end Stamp

end RequestGuard
