import RequestGuard.Text.Digits
import RequestGuard.Text.Glyph

/-!
# Number literals

A number literal is an integer when it is written without fraction or exponent and
fits into a signed or an unsigned word of 64 bits. Every other one stands for a
floating-point number, of which only this is kept: whether it has a finite value.

That value is the product of two roundings, of the leading digits as far as they fit
into a word, and of a power of ten; so a literal is too large when the product of the
rounded parts is, not when its exact value is.
-/

namespace RequestGuard

/-- How a text that should continue fails to. -/
inductive Breach where
  /-- It is over too early. -/
  | ended
  /-- It goes on in a way that no text of the format does. -/
  | malformed
deriving DecidableEq, Inhabited

/-- What a number literal stands for. -/
inductive Numeral where
  | integer (n : Int)
  | float
  /-- Larger than every floating-point number. -/
  | tooLarge
deriving DecidableEq, Inhabited

namespace Numeral

/-- The nearest number with at most 53 binary digits before its zeros; a tie goes to
the one whose last such digit is even. -/
def roundToDouble (n : Nat) : Nat :=
  let shift := n.log2 - 52
  let unit := 1 <<< shift
  let whole := n / unit
  let twice := 2 * (n % unit)
  let up := twice > unit ∨ (twice = unit ∧ whole % 2 = 1)
  (if up then whole + 1 else whole) * unit

/-- The least number that rounds to infinity. -/
def infinityBound : Nat := (1 <<< 1024) - (1 <<< 970)

abbrev maxWord : Nat := 0xffffffffffffffff

/-- Appends digits to a word while it has room: the word, and how many digits it took. -/
def fill (word : Nat) : List Char → Nat × Nat
  | [] => (word, 0)
  | c :: cs =>
    if 10 * word + digitValue c ≤ maxWord then
      let (word, taken) := fill (10 * word + digitValue c) cs
      (word, taken + 1)
    else (word, 0)

/-- Whether `word * 10 ^ power` has no finite value. -/
def overflows (word : Nat) (power : Int) : Bool :=
  word ≠ 0 && 0 ≤ power &&
    (308 < power || infinityBound ≤ roundToDouble word * roundToDouble (Nat.pow 10 power.toNat))

/-- The meaning of a literal with the given digits before and after the point, and
its exponent. -/
def ofParts (whole fraction : List Char) (power : Int) : Numeral :=
  let (word, taken) := fill 0 whole
  let (word, taken') := fill word fraction
  let unread : Int := whole.length - taken
  if overflows word (unread - taken' + power) then .tooLarge else .float

/-- The meaning of a literal of digits alone. A negated zero is no integer. -/
def ofDigits (negative : Bool) (whole : List Char) : Numeral :=
  let n := Nat.ofDigitChars 10 whole 0
  if negative then
    if 0 < n ∧ n ≤ 0x8000000000000000 then .integer (-n) else ofParts whole [] 0
  else
    if n ≤ maxWord then .integer n else ofParts whole [] 0

/-- A literal that breaks off: how it fails as a number to be read, and as one to be
passed over. Only a reader tells a break at the end from any other. -/
structure Break where
  read : Breach
  passed : Breach
deriving DecidableEq

/-- A literal breaks where a digit should stand: at the end of the text or before it. -/
def breakAt : List Glyph → Break
  | [] => ⟨.ended, .malformed⟩
  | _ :: _ => ⟨.malformed, .malformed⟩

def isDigitGlyph : Glyph → Bool
  | some c => isDecimal c
  | none => false

def digits (s : List Glyph) : List Char := (s.takeWhile isDigitGlyph).filterMap id

def afterDigits (s : List Glyph) : List Glyph := s.dropWhile isDigitGlyph

/-- The sign that an exponent may have: whether it is negative, and what follows. -/
def readSign : List Glyph → Bool × List Glyph
  | some '-' :: rest => (true, rest)
  | some '+' :: rest => (false, rest)
  | rest => (false, rest)

/-- Reads the exponent that may follow the digits of a literal; `plain` is what the
literal means without one. -/
def readExponent (whole fraction : List Char) (plain : Numeral) :
    List Glyph → Except Break (Numeral × List Glyph)
  | [] => .ok (plain, [])
  | g :: rest =>
    if g = some 'e' ∨ g = some 'E' then
      if digits (readSign rest).2 = [] then .error (breakAt (readSign rest).2)
      else
        let size : Int := Nat.ofDigitChars 10 (digits (readSign rest).2) 0
        .ok (ofParts whole fraction (if (readSign rest).1 then -size else size),
          afterDigits (readSign rest).2)
    else .ok (plain, g :: rest)

/-- Reads what follows the digits before the point. -/
def readFractional (whole : List Char) (plain : Numeral) :
    List Glyph → Except Break (Numeral × List Glyph)
  | [] => .ok (plain, [])
  | g :: rest =>
    if g = some '.' then
      if digits rest = [] then .error (breakAt rest)
      else readExponent whole (digits rest) (ofParts whole (digits rest) 0) (afterDigits rest)
    else readExponent whole [] plain (g :: rest)

/-- Reads a literal from its first digit on. A zero has no digit after it. -/
def readUnsigned (negative : Bool) (s : List Glyph) : Except Break (Numeral × List Glyph) :=
  if digits s = [] then .error (breakAt s)
  else if (digits s).head? = some '0' ∧ digits s ≠ ['0'] then
    .error ⟨.malformed, .malformed⟩
  else readFractional (digits s) (ofDigits negative (digits s)) (afterDigits s)

/-- Reads a literal from its sign or first digit on. -/
def read : List Glyph → Except Break (Numeral × List Glyph)
  | some '-' :: rest => readUnsigned true rest
  | s => readUnsigned false s

theorem length_afterDigits_le (s : List Glyph) : (afterDigits s).length ≤ s.length :=
  (List.dropWhile_sublist _).length_le

/-- A text that begins with a digit is longer than what follows its digits. -/
theorem length_afterDigits_lt {s : List Glyph} (h : digits s ≠ []) :
    (afterDigits s).length < s.length := by
  cases s with
  | nil => simp [digits] at h
  | cons g rest =>
    have := length_afterDigits_le rest
    by_cases hg : isDigitGlyph g = true
    · simp only [afterDigits, List.dropWhile_cons, hg, if_true, List.length_cons]
      simp only [afterDigits] at this
      omega
    · simp [digits, hg] at h

theorem length_readSign_le (s : List Glyph) : (readSign s).2.length ≤ s.length := by
  unfold readSign
  split <;> simp

theorem length_readExponent_le {whole fraction : List Char} {plain n : Numeral}
    {s rest : List Glyph} (h : readExponent whole fraction plain s = .ok (n, rest)) :
    rest.length ≤ s.length := by
  cases s with
  | nil =>
    simp only [readExponent, Except.ok.injEq, Prod.mk.injEq] at h
    simp [← h.2]
  | cons g tail =>
    simp only [readExponent] at h
    split at h
    · split at h
      · contradiction
      · simp only [Except.ok.injEq, Prod.mk.injEq] at h
        have sign := length_readSign_le tail
        have digits := length_afterDigits_le (readSign tail).2
        simp only [← h.2, List.length_cons]
        omega
    · simp only [Except.ok.injEq, Prod.mk.injEq] at h
      simp [← h.2]

theorem length_readFractional_le {whole : List Char} {plain n : Numeral} {s rest : List Glyph}
    (h : readFractional whole plain s = .ok (n, rest)) : rest.length ≤ s.length := by
  cases s with
  | nil =>
    simp only [readFractional, Except.ok.injEq, Prod.mk.injEq] at h
    simp [← h.2]
  | cons g tail =>
    simp only [readFractional] at h
    split at h
    · split at h
      · contradiction
      · have power := length_readExponent_le h
        have digits := length_afterDigits_le tail
        simp only [List.length_cons]
        omega
    · exact length_readExponent_le h

theorem length_readUnsigned_lt {negative : Bool} {n : Numeral} {s rest : List Glyph}
    (h : readUnsigned negative s = .ok (n, rest)) : rest.length < s.length := by
  unfold readUnsigned at h
  split at h
  · contradiction
  · rename_i found
    split at h
    · contradiction
    · have tail := length_readFractional_le h
      have digits := length_afterDigits_lt found
      omega

theorem length_read_lt {n : Numeral} {s rest : List Glyph} (h : read s = .ok (n, rest)) :
    rest.length < s.length := by
  unfold read at h
  split at h
  · have := length_readUnsigned_lt h
    simp only [List.length_cons]
    omega
  · exact length_readUnsigned_lt h

end Numeral

end RequestGuard
