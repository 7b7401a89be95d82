/-!
# Decimal digits

Numbers as decimal digits, in three layouts: without leading zeros, in a fixed
width, and as the fraction of a whole that has so many places. The last leaves out
the zeros at its end, and reading it back ignores digits beyond the last place.
-/

namespace RequestGuard

def digitValue (c : Char) : Nat := c.toNat - '0'.toNat

def isDecimal (c : Char) : Bool := '0' ≤ c && c ≤ '9'

/-- The digits of `n` without leading zeros. -/
def decimal (n : Nat) : List Char := Nat.toDigits 10 n

/-- A whole number, with a sign in front if it is negative. -/
def signedDecimal (i : Int) : List Char :=
  if i < 0 then '-' :: decimal i.natAbs else decimal i.natAbs

/-- The last `width` digits of `n`, with zeros in front where it has fewer. -/
def fixedDigits : Nat → Nat → List Char
  | 0, _ => []
  | width + 1, n => fixedDigits width (n / 10) ++ [Nat.digitChar (n % 10)]

/-- The digits after the point of `n` parts of a whole that has `10 ^ places` of
them. A part that is nothing has no digits, so no zero ends the result. -/
def fractionDigits : Nat → Nat → List Char
  | 0, _ => []
  | places + 1, n =>
    if n = 0 then []
    else Nat.digitChar (n / Nat.pow 10 places) :: fractionDigits places (n % Nat.pow 10 places)

/-- Reads exactly `width` digits on top of the value read so far. -/
def readFixed : Nat → Nat → List Char → Option (Nat × List Char)
  | 0, value, cs => some (value, cs)
  | _ + 1, _, [] => none
  | width + 1, value, c :: cs =>
    if isDecimal c then readFixed width (10 * value + digitValue c) cs else none

/-- Reads the digits of a fraction with so many places, and passes over the rest of
the digits. -/
def readFraction : Nat → List Char → Nat × List Char
  | _, [] => (0, [])
  | 0, c :: cs => if isDecimal c then readFraction 0 cs else (0, c :: cs)
  | places + 1, c :: cs =>
    if isDecimal c then
      let (value, rest) := readFraction places cs
      (digitValue c * Nat.pow 10 places + value, rest)
    else (0, c :: cs)

end RequestGuard
