import RequestGuard.Json.Token
import RequestGuard.Json.Written
import RequestGuard.Proofs.Text.Digits

/-!
# Reading the words that were written

Each word that is written is cut off again as that word, whatever follows it; a number
needs that what follows does not go on with it. In a text every character comes back, also
one that was escaped.
-/

namespace RequestGuard

namespace Numeral

/-- Nothing that begins the text goes on with a whole number. -/
def EndsNumber (s : List Glyph) : Prop :=
  ∀ g ∈ s.head?, isDigitGlyph g = false ∧ g ≠ some '.' ∧ g ≠ some 'e' ∧ g ≠ some 'E'

variable {rest : List Glyph}

theorem EndsNumber.takeWhile (ends : EndsNumber rest) : rest.takeWhile isDigitGlyph = [] := by
  cases rest with
  | nil => rfl
  | cons g rest => rw [List.takeWhile_cons, (ends g rfl).1]; rfl

theorem EndsNumber.afterDigits (ends : EndsNumber rest) : afterDigits rest = rest := by
  cases rest with
  | nil => rfl
  | cons g rest => rw [Numeral.afterDigits, List.dropWhile_cons, (ends g rfl).1]; rfl

theorem isDigitGlyph_of_mem_decimal {n : Nat} :
    ∀ g ∈ (decimal n).map some, isDigitGlyph g = true := by
  intro g h
  obtain ⟨c, digit, rfl⟩ := List.mem_map.mp h
  exact isDecimal_of_mem_decimal digit

theorem digits_decimal (n : Nat) (ends : EndsNumber rest) :
    digits ((decimal n).map some ++ rest) = decimal n := by
  rw [digits, List.takeWhile_append_of_pos isDigitGlyph_of_mem_decimal, ends.takeWhile,
    List.append_nil, List.filterMap_map]
  exact List.filterMap_some

theorem afterDigits_decimal (n : Nat) (ends : EndsNumber rest) :
    afterDigits ((decimal n).map some ++ rest) = rest := by
  rw [afterDigits, List.dropWhile_append_of_pos isDigitGlyph_of_mem_decimal]
  exact ends.afterDigits

/-- A whole number has no digit after a zero in front. -/
theorem decimal_zero_alone (n : Nat) :
    ¬ ((decimal n).head? = some '0' ∧ decimal n ≠ ['0']) := by
  rintro ⟨front, more⟩
  cases n with
  | zero => exact more rfl
  | succ n => exact head?_decimal (Nat.succ_pos n) front

theorem readFractional_plain (whole : List Char) (plain : Numeral) (ends : EndsNumber rest) :
    readFractional whole plain rest = .ok (plain, rest) := by
  cases rest with
  | nil => rfl
  | cons g rest =>
      obtain ⟨_, point, small, large⟩ := ends g rfl
      rw [readFractional, if_neg point, readExponent, if_neg (by simp [small, large])]

theorem readUnsigned_decimal (negative : Bool) (n : Nat) (ends : EndsNumber rest) :
    readUnsigned negative ((decimal n).map some ++ rest) =
      .ok (ofDigits negative (decimal n), rest) := by
  rw [readUnsigned, digits_decimal n ends, afterDigits_decimal n ends,
    if_neg (decimal_ne_nil n), if_neg (decimal_zero_alone n)]
  exact readFractional_plain _ _ ends

theorem read_decimal (n : Nat) (ends : EndsNumber rest) :
    read ((decimal n).map some ++ rest) = .ok (ofDigits false (decimal n), rest) := by
  rw [← readUnsigned_decimal false n ends]
  unfold read
  split
  · rename_i minus
    cases digits : decimal n with
    | nil => exact absurd digits (decimal_ne_nil n)
    | cons c cs =>
        rw [digits] at minus
        have digit : isDecimal c = true := isDecimal_of_mem_decimal (digits ▸ List.mem_cons_self)
        cases minus
        cases digit
  · rfl

/-- A number that was written is read back if it fits into a word. -/
theorem read_number {n : Int} (lower : -0x8000000000000000 ≤ n) (upper : n ≤ maxWord)
    (ends : EndsNumber rest) :
    read ((Written.number n).map some ++ rest) = .ok (.integer n, rest) := by
  unfold Written.number signedDecimal
  split
  · rw [List.map_cons, List.cons_append, read, readUnsigned_decimal true n.natAbs ends, ofDigits,
      ofDigitChars_decimal, if_pos rfl, if_pos (by omega)]
    congr 3
    omega
  · rw [read_decimal n.natAbs ends, ofDigits, ofDigitChars_decimal, if_neg (by decide),
      if_pos (by omega)]
    congr 3
    omega

end Numeral

namespace Token

/-- A word is cut off at the first character that is no space. -/
theorem scan_cons {c : Char} (h : isSpace (some c) = false) (rest : List Glyph) :
    scan (some c :: rest) = (readFrom c rest).1 :: scan (readFrom c rest).2 := by
  have stays : (some c :: rest).dropWhile isSpace = some c :: rest := by
    rw [List.dropWhile_cons, h]
    rfl
  rw [scan]
  split
  · rename_i dropped
    rw [stays] at dropped
    cases dropped
  · rename_i dropped
    rw [stays] at dropped
    cases dropped
  · rename_i dropped
    rw [stays] at dropped
    cases dropped
    rfl

@[simp] theorem scan_nil : scan [] = [] := by
  rw [scan]
  rfl

theorem scan_mark {c : Char} {t : Token} (h : mark? c = some t) (rest : List Glyph) :
    scan (some c :: rest) = t :: scan rest := by
  have solid : isSpace (some c) = false := by
    rw [Bool.eq_false_iff]
    intro space
    simp only [isSpace, Bool.or_eq_true, beq_iff_eq] at space
    rcases space with ((rfl | rfl) | rfl) | rfl <;> cases h
  rw [scan_cons solid, readFrom, h]

theorem scan_leftBrace (rest : List Glyph) :
    scan (some '\x7b' :: rest) = .leftBrace :: scan rest := scan_mark rfl rest

theorem scan_rightBrace (rest : List Glyph) :
    scan (some '\x7d' :: rest) = .rightBrace :: scan rest := scan_mark rfl rest

theorem scan_colon (rest : List Glyph) : scan (some ':' :: rest) = .colon :: scan rest :=
  scan_mark rfl rest

theorem scan_comma (rest : List Glyph) : scan (some ',' :: rest) = .comma :: scan rest :=
  scan_mark rfl rest

variable {told : Bool} {read : List Char} {c : Char} {rest rest' : List Glyph}

theorem readText_quote :
    readText true read (some '"' :: rest) = (.text (some (String.ofList read.reverse)), rest) := by
  rw [readText]
  rfl

theorem readText_escape (h : readEscape rest = .char c rest') :
    readText told read (some '\\' :: rest) = readText told (c :: read) rest' := by
  rw [readText, if_neg (by decide), if_pos rfl]
  split
  · rename_i same
    rw [h] at same
    cases same
    rfl
  · rename_i same
    rw [h] at same
    cases same
  · rename_i same
    rw [h] at same
    cases same

theorem readText_plain (quote : c ≠ '"') (escape : c ≠ '\\') (high : ¬ c.toNat < 0x20) :
    readText told read (some c :: rest) = readText told (c :: read) rest := by
  rw [readText, if_neg quote, if_neg escape, if_neg high]

theorem hexValue?_digitChar {n : Nat} (h : n < 16) : hexValue? (some n.digitChar) = some n := by
  revert n
  decide

/-- The numbered escape of a control character. -/
theorem readEscape_control (low : c.toNat < 0x20) :
    readEscape (some 'u' :: some '0' :: some '0' :: some (Nat.digitChar (c.toNat / 16)) ::
      some (Nat.digitChar (c.toNat % 16)) :: rest) = .char c rest := by
  have upper := hexValue?_digitChar (n := c.toNat / 16) (by omega)
  have lower := hexValue?_digitChar (n := c.toNat % 16) (by omega)
  have zero : hexValue? (some '0') = some 0 := rfl
  have code : ((0 * 16 + 0) * 16 + c.toNat / 16) * 16 + c.toNat % 16 = c.toNat := by omega
  rw [readEscape, if_pos rfl, readNumbered, readHex, upper, lower, zero]
  simp only [code]
  rw [if_neg (by omega), if_neg (by omega), Char.ofNat_toNat]

/-- A character is read back from the way in which it stands between quotes. -/
theorem readText_char (read : List Char) (c : Char) (rest : List Glyph) :
    readText true read ((Written.char c).map some ++ rest) = readText true (c :: read) rest := by
  unfold Written.char
  split
  · subst c
    exact readText_escape rfl
  split
  · subst c
    exact readText_escape rfl
  split
  · subst c
    exact readText_escape rfl
  split
  · subst c
    exact readText_escape rfl
  split
  · subst c
    exact readText_escape rfl
  split
  · subst c
    exact readText_escape rfl
  split
  · subst c
    exact readText_escape rfl
  split
  · rename_i low
    exact readText_escape (readEscape_control low)
  · rename_i quote escape _ _ _ _ _ high
    exact readText_plain quote escape high

theorem readText_written (read cs : List Char) (rest : List Glyph) :
    readText true read ((cs.flatMap Written.char).map some ++ some '"' :: rest) =
      (.text (some (String.ofList (read.reverse ++ cs))), rest) := by
  induction cs generalizing read with
  | nil =>
      rw [List.append_nil]
      exact readText_quote
  | cons c cs ih =>
      rw [List.flatMap_cons, List.map_append, List.append_assoc, readText_char, ih,
        List.reverse_cons, List.append_assoc]
      rfl

/-- A quote begins a text. -/
theorem scan_quote {t : Token} {s : List Glyph} (cut : readText true [] s = (t, rest)) :
    scan (some '"' :: s) = t :: scan rest := by
  rw [scan_cons rfl, readFrom, show mark? '"' = none from rfl]
  simp only [if_true, cut]

/-- A text that was written is read back. -/
theorem scan_text (cs : List Char) (rest : List Glyph) :
    scan ((Written.text cs).map some ++ rest) = .text (some (String.ofList cs)) :: scan rest := by
  have quoted : (Written.text cs).map some ++ rest =
      some '"' :: ((cs.flatMap Written.char).map some ++ some '"' :: rest) := by
    simp [Written.text]
  rw [quoted]
  exact scan_quote (readText_written [] cs rest)

/-- A word that begins like a number is read as one. -/
theorem scan_from_number (begins : c = '-' ∨ isDecimal c = true) (rest : List Glyph) :
    scan (some c :: rest) =
      (readNumber (some c :: rest)).1 :: scan (readNumber (some c :: rest)).2 := by
  have other : ∀ d, d ≠ '-' → isDecimal d = false → c ≠ d := by
    rintro d minus digit rfl
    rcases begins with same | same
    · exact minus same
    · rw [same] at digit
      cases digit
  have solid : isSpace (some c) = false := by
    simp [isSpace, other ' ' (by decide) rfl, other '\n' (by decide) rfl,
      other '\t' (by decide) rfl, other '\r' (by decide) rfl]
  have unmarked : mark? c = none := by
    simp [mark?, other '\x7b' (by decide) rfl, other '\x7d' (by decide) rfl,
      other '[' (by decide) rfl, other ']' (by decide) rfl, other ':' (by decide) rfl,
      other ',' (by decide) rfl]
  have unlettered : literal? c = none := by
    simp [literal?, other 'n' (by decide) rfl, other 't' (by decide) rfl,
      other 'f' (by decide) rfl]
  rw [scan_cons solid, readFrom, unmarked, unlettered]
  simp only [if_neg (other '"' (by decide) rfl), if_pos begins]

/-- A number that was written is read back if it fits into a word. -/
theorem scan_number {n : Int} (lower : -0x8000000000000000 ≤ n) (upper : n ≤ Numeral.maxWord)
    (ends : Numeral.EndsNumber rest) :
    scan ((Written.number n).map some ++ rest) = .number (.integer n) :: scan rest := by
  have read := Numeral.read_number lower upper ends
  obtain ⟨c, cs, written, begins⟩ :
      ∃ c cs, Written.number n = c :: cs ∧ (c = '-' ∨ isDecimal c = true) := by
    unfold Written.number signedDecimal
    split
    · exact ⟨_, _, rfl, .inl rfl⟩
    · cases digits : decimal n.natAbs with
      | nil => exact absurd digits (decimal_ne_nil _)
      | cons c cs =>
          exact ⟨c, cs, rfl, .inr (isDecimal_of_mem_decimal (digits ▸ List.mem_cons_self))⟩
  rw [written, List.map_cons, List.cons_append] at read ⊢
  rw [scan_from_number begins, readNumber, read]

end Token

end RequestGuard
