/-!
# The characters of a byte string

A file holds bytes, and what is read from it are the characters that they spell in
UTF-8. A byte that belongs to no character keeps its place as an unreadable one, so
a reader can decide for itself whether it minds. The bytes of ASCII characters occur
in no other character; hence an unreadable byte never hides the end of a text.
-/

namespace RequestGuard

/-- A character, or a byte that belongs to none. -/
abbrev Glyph := Option Char

namespace Glyph

/-- The readable glyphs of a text. -/
def ofText (s : String) : List Glyph := s.toList.map some

/-- How many bytes a glyph takes. -/
def size : Glyph → Nat
  | some c => c.utf8Size
  | none => 1

/-- How many bytes glyphs take together. -/
def sizes : List Glyph → Nat
  | [] => 0
  | g :: rest => size g + sizes rest

/-- Whether `b` continues a character that spans several bytes. -/
def isTail (b : UInt8) : Bool := 0x80 ≤ b && b ≤ 0xbf

/-- The six bits that such a byte adds. -/
def tailBits (b : UInt8) : Nat := b.toNat % 64

/-- The character that a byte string begins with, and how many bytes it takes. The
bounds on the second byte exclude characters spelled longer than they need be,
halves of surrogate pairs, and numbers beyond the last character. -/
def first? : List UInt8 → Option (Char × Nat)
  | [] => none
  | a :: rest =>
    if a ≤ 0x7f then some (Char.ofNat a.toNat, 1)
    else match rest with
      | [] => none
      | b :: rest =>
        if 0xc2 ≤ a && a ≤ 0xdf && isTail b then
          some (Char.ofNat (a.toNat % 32 * 64 + tailBits b), 2)
        else match rest with
          | [] => none
          | c :: rest =>
            if 0xe0 ≤ a && a ≤ 0xef && isTail b && isTail c &&
                (a != 0xe0 || 0xa0 ≤ b) && (a != 0xed || b ≤ 0x9f) then
              some (Char.ofNat ((a.toNat % 16 * 64 + tailBits b) * 64 + tailBits c), 3)
            else match rest with
              | [] => none
              | d :: _ =>
                if 0xf0 ≤ a && a ≤ 0xf4 && isTail b && isTail c && isTail d &&
                    (a != 0xf0 || 0x90 ≤ b) && (a != 0xf4 || b ≤ 0x8f) then
                  some (Char.ofNat (((a.toNat % 8 * 64 + tailBits b) * 64 + tailBits c) * 64
                    + tailBits d), 4)
                else none

/-- The glyphs of a byte string. The number says how many bytes at its start belong
to a character already read. -/
def scan : Nat → List UInt8 → List Glyph
  | _, [] => []
  | skipped + 1, _ :: rest => scan skipped rest
  | 0, b :: rest =>
    match first? (b :: rest) with
    | some (c, size) => some c :: scan (size - 1) rest
    | none => none :: scan 0 rest

/-- The glyphs of a byte string, from its start. -/
def ofBytes (bytes : List UInt8) : List Glyph := scan 0 bytes

end Glyph

end RequestGuard
