import RequestGuard.Text.Glyph

/-!
# Reading characters back

A text is kept as the bytes that spell its characters in UTF-8, and these bytes are read as the
characters of the text. There is a spelling for each size of a character; the bounds on a
character of that size are those that the reader sets for the bytes.
-/

namespace RequestGuard

namespace Glyph

/-- The bytes that spell a text. -/
def encode (cs : List Char) : List UInt8 := cs.flatMap String.utf8EncodeChar

variable {a b c d : UInt8} {rest : List UInt8}

def IsTail (b : UInt8) : Prop := 0x80 ≤ b.toNat ∧ b.toNat ≤ 0xbf

theorem isTail_eq_true (h : IsTail b) : isTail b = true := by
  simp only [isTail, Bool.and_eq_true, decide_eq_true_eq, UInt8.le_iff_toNat_le]
  exact h

theorem first?_one (h : a.toNat ≤ 0x7f) : first? (a :: rest) = some (Char.ofNat a.toNat, 1) := by
  have short : a ≤ 0x7f := UInt8.le_iff_toNat_le.mpr h
  simp only [first?, if_pos short]

theorem first?_two (h : 0xc2 ≤ a.toNat ∧ a.toNat ≤ 0xdf) (hb : IsTail b) :
    first? (a :: b :: rest) = some (Char.ofNat (a.toNat % 32 * 64 + b.toNat % 64), 2) := by
  have long : ¬ a ≤ 0x7f := by
    rw [UInt8.le_iff_toNat_le]
    show ¬ a.toNat ≤ 0x7f
    omega
  have lead : (decide (0xc2 ≤ a) && decide (a ≤ 0xdf)) = true := by
    simp only [Bool.and_eq_true, decide_eq_true_eq, UInt8.le_iff_toNat_le]
    exact h
  simp only [first?, if_neg long, lead, isTail_eq_true hb, Bool.and_self, if_true, tailBits]

theorem first?_three (h : 0xe0 ≤ a.toNat ∧ a.toNat ≤ 0xef) (hb : IsTail b) (hc : IsTail c)
    (least : a.toNat = 0xe0 → 0xa0 ≤ b.toNat) (surrogate : a.toNat = 0xed → b.toNat ≤ 0x9f) :
    first? (a :: b :: c :: rest) =
      some (Char.ofNat ((a.toNat % 16 * 64 + b.toNat % 64) * 64 + c.toNat % 64), 3) := by
  have long : ¬ a ≤ 0x7f := by
    rw [UInt8.le_iff_toNat_le]
    show ¬ a.toNat ≤ 0x7f
    omega
  have lead : ¬ a ≤ 0xdf := by
    rw [UInt8.le_iff_toNat_le]
    show ¬ a.toNat ≤ 0xdf
    omega
  have inside : (decide (0xe0 ≤ a) && decide (a ≤ 0xef) && (a != 0xe0 || decide (0xa0 ≤ b)) &&
      (a != 0xed || decide (b ≤ 0x9f))) = true := by
    simp only [Bool.and_eq_true, Bool.or_eq_true, bne_iff_ne, ne_eq, decide_eq_true_eq,
      UInt8.le_iff_toNat_le, ← UInt8.toNat_inj]
    refine ⟨⟨h, ?_⟩, ?_⟩
    · exact Decidable.imp_iff_not_or.mp least
    · exact Decidable.imp_iff_not_or.mp surrogate
  simp only [Bool.and_eq_true] at inside
  simp [first?, long, lead, isTail_eq_true hb, isTail_eq_true hc, inside, tailBits]

theorem first?_four (h : 0xf0 ≤ a.toNat ∧ a.toNat ≤ 0xf4) (hb : IsTail b) (hc : IsTail c)
    (hd : IsTail d) (least : a.toNat = 0xf0 → 0x90 ≤ b.toNat)
    (most : a.toNat = 0xf4 → b.toNat ≤ 0x8f) :
    first? (a :: b :: c :: d :: rest) = some (Char.ofNat
      (((a.toNat % 8 * 64 + b.toNat % 64) * 64 + c.toNat % 64) * 64 + d.toNat % 64), 4) := by
  have long : ¬ a ≤ 0x7f := by
    rw [UInt8.le_iff_toNat_le]
    show ¬ a.toNat ≤ 0x7f
    omega
  have lead : ¬ a ≤ 0xdf := by
    rw [UInt8.le_iff_toNat_le]
    show ¬ a.toNat ≤ 0xdf
    omega
  have longer : ¬ a ≤ 0xef := by
    rw [UInt8.le_iff_toNat_le]
    show ¬ a.toNat ≤ 0xef
    omega
  have inside : (decide (0xf0 ≤ a) && decide (a ≤ 0xf4) && (a != 0xf0 || decide (0x90 ≤ b)) &&
      (a != 0xf4 || decide (b ≤ 0x8f))) = true := by
    simp only [Bool.and_eq_true, Bool.or_eq_true, bne_iff_ne, ne_eq, decide_eq_true_eq,
      UInt8.le_iff_toNat_le, ← UInt8.toNat_inj]
    refine ⟨⟨h, ?_⟩, ?_⟩
    · exact Decidable.imp_iff_not_or.mp least
    · exact Decidable.imp_iff_not_or.mp most
  simp only [Bool.and_eq_true] at inside
  simp [first?, long, lead, longer, isTail_eq_true hb, isTail_eq_true hc, isTail_eq_true hd, inside,
    tailBits]

private theorem toNat_byte {n : Nat} (h : n < 256) : (UInt8.ofNat n).toNat = n :=
  UInt8.toNat_ofNat_of_lt' h

/-- The bytes of a character are read as this character, all of them. -/
theorem first?_encode (c : Char) (rest : List UInt8) : ∃ b bs,
    String.utf8EncodeChar c = b :: bs ∧ first? (b :: bs ++ rest) = some (c, bs.length + 1) := by
  have same : Char.ofNat c.val.toNat = c := Char.ofNat_toNat c
  have valid : c.val.toNat < 0xd800 ∨ 0xdfff < c.val.toNat ∧ c.val.toNat < 0x110000 := c.valid
  rw [String.utf8EncodeChar]
  generalize c.val.toNat = n at same valid
  have tail : ∀ m, (UInt8.ofNat (m % 64 + 128)).toNat = m % 64 + 128 :=
    fun m => toNat_byte (by omega)
  have continues : ∀ m, IsTail (UInt8.ofNat (m % 64 + 128)) := by
    intro m
    rw [IsTail, tail]
    omega
  by_cases one : n ≤ 127
  · have lead : (UInt8.ofNat n).toNat = n := toNat_byte (by omega)
    simp only [if_pos one]
    refine ⟨_, _, rfl, ?_⟩
    rw [List.cons_append, first?_one (by omega), lead, same]
    rfl
  by_cases two : n ≤ 2047
  · have lead : (UInt8.ofNat (n / 64 % 32 + 192)).toNat = n / 64 % 32 + 192 :=
      toNat_byte (by omega)
    have whole : (n / 64 % 32 + 192) % 32 * 64 + (n % 64 + 128) % 64 = n := by omega
    simp only [if_neg one, if_pos two]
    refine ⟨_, _, rfl, ?_⟩
    rw [List.cons_append, List.cons_append, first?_two (by omega) (continues _), lead, tail, whole,
      same]
    rfl
  by_cases three : n ≤ 65535
  · have lead : (UInt8.ofNat (n / 4096 % 16 + 224)).toNat = n / 4096 % 16 + 224 :=
      toNat_byte (by omega)
    have whole : ((n / 4096 % 16 + 224) % 16 * 64 + (n / 64 % 64 + 128) % 64) * 64 +
        (n % 64 + 128) % 64 = n := by omega
    simp only [if_neg one, if_neg two, if_pos three]
    refine ⟨_, _, rfl, ?_⟩
    rw [List.cons_append, List.cons_append, List.cons_append,
      first?_three (by omega) (continues _) (continues _) (by rw [lead, tail]; omega)
        (by rw [lead, tail]; omega), lead, tail, tail, whole, same]
    rfl
  · have lead : (UInt8.ofNat (n / 262144 % 8 + 240)).toNat = n / 262144 % 8 + 240 :=
      toNat_byte (by omega)
    have whole : (((n / 262144 % 8 + 240) % 8 * 64 + (n / 4096 % 64 + 128) % 64) * 64 +
        (n / 64 % 64 + 128) % 64) * 64 + (n % 64 + 128) % 64 = n := by omega
    simp only [if_neg one, if_neg two, if_neg three]
    refine ⟨_, _, rfl, ?_⟩
    rw [List.cons_append, List.cons_append, List.cons_append, List.cons_append,
      first?_four (by omega) (continues _) (continues _) (continues _) (by rw [lead, tail]; omega)
        (by rw [lead, tail]; omega), lead, tail, tail, tail, whole, same]
    rfl

theorem scan_skip (skipped : List UInt8) : scan skipped.length (skipped ++ rest) = scan 0 rest := by
  induction skipped with
  | nil => rfl
  | cons b skipped ih => exact ih

/-- The bytes of a text are read as its characters. -/
@[simp] theorem ofBytes_encode (cs : List Char) : ofBytes (encode cs) = cs.map some := by
  induction cs with
  | nil => rfl
  | cons c cs ih =>
      obtain ⟨b, bs, bytes, found⟩ := first?_encode c (encode cs)
      rw [List.cons_append] at found
      rw [encode, List.flatMap_cons, ← encode, bytes, ofBytes, List.cons_append, scan, found]
      show some c :: scan bs.length (bs ++ encode cs) = _
      rw [scan_skip, List.map_cons, ← ih]
      rfl

end Glyph

end RequestGuard
