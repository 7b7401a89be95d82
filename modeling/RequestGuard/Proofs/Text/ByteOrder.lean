import RequestGuard.Proofs.Text.Glyph

/-!
# The order of bytes

Texts are compared by the codes of their characters. Their bytes are in the same order. For this it
is enough to see how a code is spelled: in its first byte a longer spelling is greater than any
shorter one, and the bytes of spellings of one length are digits of the code to the base of 64, the
highest first.
-/

namespace RequestGuard

namespace Glyph

/-- The bytes of the character with a code, in the four ways of spelling it. The digits of the code
to the base of 64 stand in the bytes. -/
inductive Spells : Nat → List UInt8 → Prop
  | one {a : Nat} (ha : a < 0x80) : Spells a [.ofNat a]
  | two {a b : Nat} (least : 0x80 ≤ a * 64 + b) (ha : a < 0x20) (hb : b < 64) :
      Spells (a * 64 + b) [.ofNat (a + 0xc0), .ofNat (b + 0x80)]
  | three {a b c : Nat} (least : 0x800 ≤ (a * 64 + b) * 64 + c) (ha : a < 0x10) (hb : b < 64)
      (hc : c < 64) :
      Spells ((a * 64 + b) * 64 + c) [.ofNat (a + 0xe0), .ofNat (b + 0x80), .ofNat (c + 0x80)]
  | four {a b c d : Nat} (least : 0x10000 ≤ ((a * 64 + b) * 64 + c) * 64 + d) (ha : a < 8)
      (hb : b < 64) (hc : c < 64) (hd : d < 64) :
      Spells (((a * 64 + b) * 64 + c) * 64 + d)
        [.ofNat (a + 0xf0), .ofNat (b + 0x80), .ofNat (c + 0x80), .ofNat (d + 0x80)]

theorem spells_utf8EncodeChar (c : Char) : Spells c.val.toNat (String.utf8EncodeChar c) := by
  have valid : c.val.toNat < 0xd800 ∨ 0xdfff < c.val.toNat ∧ c.val.toNat < 0x110000 := c.valid
  rw [String.utf8EncodeChar]
  generalize c.val.toNat = n at valid
  by_cases one : n ≤ 127
  · simp only [if_pos one]
    exact .one (by omega)
  by_cases two : n ≤ 2047
  · have digits : n = n / 64 % 32 * 64 + n % 64 := by omega
    have spells := Spells.two (a := n / 64 % 32) (b := n % 64) (by omega) (by omega) (by omega)
    rw [← digits] at spells
    simp only [if_neg one, if_pos two]
    exact spells
  by_cases three : n ≤ 65535
  · have digits : n = (n / 4096 % 16 * 64 + n / 64 % 64) * 64 + n % 64 := by omega
    have spells := Spells.three (a := n / 4096 % 16) (b := n / 64 % 64) (c := n % 64) (by omega)
      (by omega) (by omega) (by omega)
    rw [← digits] at spells
    simp only [if_neg one, if_neg two, if_pos three]
    exact spells
  · have digits : n =
        ((n / 262144 % 8 * 64 + n / 4096 % 64) * 64 + n / 64 % 64) * 64 + n % 64 := by omega
    have spells := Spells.four (a := n / 262144 % 8) (b := n / 4096 % 64) (c := n / 64 % 64)
      (d := n % 64) (by omega) (by omega) (by omega) (by omega) (by omega)
    rw [← digits] at spells
    simp only [if_neg one, if_neg two, if_neg three]
    exact spells

/-- The bytes of a character come before those of a later one, whatever follows them. -/
theorem Spells.append_lt {m n : Nat} {a b : List UInt8} (first : Spells m a) (second : Spells n b)
    (below : m < n) (s t : List UInt8) : a ++ s < b ++ t := by
  cases first with
  | one | two | three | four =>
      cases second with
      | one | two | three | four =>
          simp only [List.cons_append, List.cons_lt_cons_iff, UInt8.lt_iff_toNat_lt,
            UInt8.toNat_ofNat', ← UInt8.toNat_inj]
          omega

/-- The bytes of characters are in the order of the characters. -/
theorem encode_lt_encode {a b : List Char} (h : a < b) : encode a < encode b := by
  induction h with
  | @nil c b =>
      obtain ⟨first, rest, bytes, _⟩ := first?_encode c []
      rw [encode, encode, List.flatMap_nil, List.flatMap_cons, bytes]
      exact List.nil_lt_cons _ _
  | @rel c _ d _ below =>
      exact (spells_utf8EncodeChar c).append_lt (spells_utf8EncodeChar d) below _ _
  | cons _ ih => exact List.append_left_lt ih

/-- The bytes of texts are in the order of the texts. -/
theorem encode_lt_of_lt {s t : String} (h : s < t) : encode s.toList < encode t.toList :=
  encode_lt_encode (String.lt_iff.mp h)

end Glyph

end RequestGuard
