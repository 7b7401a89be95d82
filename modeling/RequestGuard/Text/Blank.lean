/-!
# Blank and control characters

The Unicode property `White_Space` and the general category of control characters,
as far as identifiers and namespaces are judged by them.
-/

namespace RequestGuard

/-- The characters with the property `White_Space`. -/
def isBlank (c : Char) : Bool :=
  let n := c.toNat
  (0x9 ≤ n && n ≤ 0xd) || n == 0x20 || n == 0x85 || n == 0xa0 || n == 0x1680 ||
    (0x2000 ≤ n && n ≤ 0x200a) || n == 0x2028 || n == 0x2029 || n == 0x202f || n == 0x205f ||
    n == 0x3000

/-- The control characters: both blocks of them, with the delete character. -/
def isControl (c : Char) : Bool :=
  let n := c.toNat
  n ≤ 0x1f || (0x7f ≤ n && n ≤ 0x9f)

/-- A text says nothing when it is empty or blank throughout. -/
def isBlankText (s : String) : Bool := s.toList.all isBlank

end RequestGuard
