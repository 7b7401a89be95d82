import Mathlib.Algebra.Group.Nat.Defs
import RequestGuard.Text.Digits

/-!
# Reading digits back

What was written as digits, in each of the layouts, is read back as the number that it
stands for. Digits of a fixed width need nothing of the text after them; those of a fraction
end where the next character is no digit. Whatever is read as digits stays below what their
number allows. And digits without a zero in front of others are the only way to write the number
that they make.
-/

namespace RequestGuard

theorem isDecimal_eq_isDigit (c : Char) : isDecimal c = c.isDigit := by
  rw [isDecimal, Char.isDigit, Bool.eq_iff_iff]
  simp only [Bool.and_eq_true, decide_eq_true_eq]
  exact Iff.rfl

theorem isDecimal_digitChar {n : Nat} (h : n < 10) : isDecimal n.digitChar = true := by
  rw [isDecimal_eq_isDigit, Nat.isDigit_digitChar]
  exact decide_eq_true h

theorem digitValue_digitChar {n : Nat} (h : n < 10) : digitValue n.digitChar = n :=
  Nat.toNat_digitChar_sub_48_of_lt_ten h

theorem digitValue_lt {c : Char} (h : isDecimal c = true) : digitValue c < 10 := by
  simp only [isDecimal, Bool.and_eq_true, decide_eq_true_eq] at h
  have last : c.toNat ≤ '9'.toNat := h.2
  have nine : '9'.toNat = 57 := rfl
  have zero : '0'.toNat = 48 := rfl
  rw [digitValue]
  omega

theorem digitChar_digitValue {c : Char} (h : isDecimal c = true) :
    (digitValue c).digitChar = c := by
  have small := digitValue_lt h
  rw [isDecimal, Bool.and_eq_true, decide_eq_true_eq] at h
  have first : '0'.toNat ≤ c.toNat := h.1
  apply Char.toNat_inj.mp
  rw [Nat.toNat_digitChar_of_lt_ten small, digitValue]
  simp only [Char.reduceToNat] at first ⊢
  omega

/-- No digit begins the text. -/
def NoDigitAhead (cs : List Char) : Prop := ∀ c ∈ cs.head?, isDecimal c = false

theorem decimal_ne_nil (n : Nat) : decimal n ≠ [] := Nat.toDigits_ne_nil

theorem isDecimal_of_mem_decimal {n : Nat} {c : Char} (h : c ∈ decimal n) : isDecimal c = true := by
  rw [isDecimal_eq_isDigit]
  exact Nat.isDigit_of_mem_toDigits (by decide) (by decide) h

@[simp] theorem ofDigitChars_decimal (n : Nat) : Nat.ofDigitChars 10 (decimal n) 0 = n :=
  Nat.ofDigitChars_ten_toDigits

/-- Only the number zero begins with a zero. -/
theorem head?_decimal {n : Nat} (h : 0 < n) : (decimal n).head? ≠ some '0' := by
  induction n using Nat.strongRecOn with
  | ind n ih =>
      by_cases small : n < 10
      · rw [decimal, Nat.toDigits_of_lt_base small]
        simp only [List.head?_cons, ne_eq, Option.some.injEq, Nat.digitChar_eq_zero]
        omega
      · have shorter := ih (n / 10) (by omega) (by omega)
        have digits : decimal n = decimal (n / 10) ++ [(n % 10).digitChar] :=
          Nat.toDigits_of_base_le (by decide) (by omega)
        rw [digits, List.head?_append]
        cases front : (decimal (n / 10)).head? with
        | none => exact absurd (List.head?_eq_none_iff.mp front) (decimal_ne_nil _)
        | some c =>
            rw [front] at shorter
            exact shorter

/-- Digits that follow those of a positive number are its last ones in turn. -/
theorem decimal_ofDigitChars_of_pos {ds : List Char} (digits : ∀ c ∈ ds, isDecimal c = true)
    {n : Nat} (h : 0 < n) : decimal (Nat.ofDigitChars 10 ds n) = decimal n ++ ds := by
  induction ds generalizing n with
  | nil => exact (List.append_nil _).symm
  | cons c ds ih =>
      rw [List.forall_mem_cons] at digits
      have small := digitValue_lt digits.1
      have next : decimal (10 * n + digitValue c) = decimal n ++ [c] := by
        rw [decimal, ← Nat.toDigits_append_toDigits (by decide) h small,
          Nat.toDigits_of_lt_base small, digitChar_digitValue digits.1]
        rfl
      rw [Nat.ofDigitChars_cons]
      show decimal (Nat.ofDigitChars 10 ds (10 * n + digitValue c)) = _
      rw [ih digits.2 (by omega), next, List.append_assoc]
      rfl

/-- Digits without a zero in front of others are those of the number that they make. -/
theorem decimal_ofDigitChars {ds : List Char} (digits : ∀ c ∈ ds, isDecimal c = true)
    (begun : ds ≠ []) (alone : ¬ (ds.head? = some '0' ∧ ds ≠ ['0'])) :
    decimal (Nat.ofDigitChars 10 ds 0) = ds := by
  cases ds with
  | nil => exact absurd rfl begun
  | cons c ds =>
      rw [List.forall_mem_cons] at digits
      by_cases zero : c = '0'
      · subst zero
        rw [Decidable.not_not.mp fun longer => alone ⟨rfl, longer⟩]
        rfl
      · have small := digitValue_lt digits.1
        have positive : 0 < digitValue c := by
          refine Nat.pos_of_ne_zero fun none => zero ?_
          rw [← digitChar_digitValue digits.1, none]
          rfl
        rw [Nat.ofDigitChars_cons]
        show decimal (Nat.ofDigitChars 10 ds (0 + digitValue c)) = _
        rw [Nat.zero_add, decimal_ofDigitChars_of_pos digits.2 positive, decimal,
          Nat.toDigits_of_lt_base small, digitChar_digitValue digits.1]
        rfl

/-- Reading the digits of a fixed width goes on with the digits that follow. -/
theorem readFixed_add (width more value n : Nat) (cs : List Char) :
    readFixed (width + more) value (fixedDigits width n ++ cs) =
      readFixed more (value * Nat.pow 10 width + n % Nat.pow 10 width) cs := by
  induction width generalizing n more cs with
  | zero =>
      have nothing : value * Nat.pow 10 0 + n % Nat.pow 10 0 = value := by
        show value * 1 + n % 1 = value
        omega
      rw [nothing, Nat.zero_add]
      rfl
  | succ width ih =>
      have digit : n % 10 < 10 := Nat.mod_lt _ (by decide)
      have whole : 10 * (value * Nat.pow 10 width + n / 10 % Nat.pow 10 width) + n % 10 =
          value * Nat.pow 10 (width + 1) + n % Nat.pow 10 (width + 1) := by
        rw [show Nat.pow 10 (width + 1) = 10 * Nat.pow 10 width from Nat.mul_comm _ _,
          Nat.mod_mul, Nat.mul_left_comm]
        omega
      rw [fixedDigits, List.append_assoc, Nat.add_assoc, Nat.add_comm 1 more, ih]
      simp only [List.singleton_append, readFixed, isDecimal_digitChar digit,
        digitValue_digitChar digit, if_true, whole]

/-- Digits of a fixed width are read back as far as the width allows. -/
theorem readFixed_fixedDigits (width : Nat) {n : Nat} (h : n < Nat.pow 10 width) (cs : List Char) :
    readFixed width 0 (fixedDigits width n ++ cs) = some (n, cs) := by
  have read := readFixed_add width 0 0 n cs
  rw [Nat.add_zero, Nat.zero_mul, Nat.zero_add, Nat.mod_eq_of_lt h] at read
  exact read

/-- Digits of a fixed width read on top of a value make less than the next value would. -/
theorem readFixed_lt {width value n : Nat} {cs rest : List Char}
    (h : readFixed width value cs = some (n, rest)) : n < (value + 1) * 10 ^ width := by
  induction width generalizing value cs with
  | zero =>
      cases h
      omega
  | succ width ih =>
      cases cs with
      | nil => cases h
      | cons c cs =>
          rw [readFixed] at h
          split at h
          · rename_i digit
            have small := digitValue_lt digit
            calc n < (10 * value + digitValue c + 1) * 10 ^ width := ih h
              _ ≤ (10 * (value + 1)) * 10 ^ width := Nat.mul_le_mul_right _ (by omega)
              _ = (value + 1) * 10 ^ (width + 1) := by rw [Nat.pow_succ']; ac_rfl
          · cases h

/-- The digits of a fraction make less than the whole. -/
theorem readFraction_lt (places : Nat) (cs : List Char) :
    (readFraction places cs).1 < 10 ^ places := by
  induction places generalizing cs with
  | zero =>
      induction cs with
      | nil => decide
      | cons c cs ih =>
          rw [readFraction]
          split
          · exact ih
          · exact Nat.one_pos
  | succ places ih =>
      cases cs with
      | nil => exact Nat.pow_pos (by decide)
      | cons c cs =>
          rw [readFraction]
          split
          · rename_i digit
            have small := digitValue_lt digit
            calc digitValue c * 10 ^ places + (readFraction places cs).1
                < digitValue c * 10 ^ places + 10 ^ places := Nat.add_lt_add_left (ih cs) _
              _ = (digitValue c + 1) * 10 ^ places := (Nat.succ_mul _ _).symm
              _ ≤ 10 * 10 ^ places := Nat.mul_le_mul_right _ small
              _ = 10 ^ (places + 1) := Nat.pow_succ'.symm
          · exact Nat.pow_pos (by decide)

theorem readFraction_of_noDigit {cs : List Char} (places : Nat) (h : NoDigitAhead cs) :
    readFraction places cs = (0, cs) := by
  cases cs with
  | nil => cases places <;> rfl
  | cons c cs =>
      have := h c rfl
      cases places <;> simp [readFraction, this]

/-- The digits of a fraction are read back if no digit follows them. -/
theorem readFraction_fractionDigits (places : Nat) {n : Nat} {cs : List Char}
    (h : n < Nat.pow 10 places) (ends : NoDigitAhead cs) :
    readFraction places (fractionDigits places n ++ cs) = (n, cs) := by
  induction places generalizing n with
  | zero =>
      obtain rfl : n = 0 := Nat.lt_one_iff.mp h
      exact readFraction_of_noDigit 0 ends
  | succ places ih =>
      by_cases zero : n = 0
      · subst zero
        exact readFraction_of_noDigit _ ends
      · have positive : 0 < Nat.pow 10 places := Nat.pow_pos (by decide)
        have digit : n / Nat.pow 10 places < 10 := by
          rw [Nat.div_lt_iff_lt_mul positive, Nat.mul_comm]
          exact h
        have rest := ih (Nat.mod_lt n positive)
        have whole : n / Nat.pow 10 places * Nat.pow 10 places + n % Nat.pow 10 places = n :=
          Nat.div_add_mod' n (Nat.pow 10 places)
        simp only [fractionDigits, if_neg zero, List.cons_append, readFraction,
          isDecimal_digitChar digit, digitValue_digitChar digit, if_true, rest, whole]

end RequestGuard
