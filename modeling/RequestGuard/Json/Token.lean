import RequestGuard.Json.Numeral

/-!
# Tokens

The words of a JSON text, up to the first place where it cannot be cut into words.
What stands there is a last, broken token, so a reader that goes from left to right
meets the faults of the text in the order in which they stand, and a fault that it
never comes to does not count.

Some faults disturb only a reader that wants the value, not one that passes over it:
a text whose escapes pair no surrogates, a number without a finite value, a literal
that the end of the text cuts off. Such tokens keep both verdicts.
-/

namespace RequestGuard

inductive Token where
  | leftBrace
  | rightBrace
  | leftBracket
  | rightBracket
  | colon
  | comma
  | null
  | truth (b : Bool)
  | number (n : Numeral)
  /-- A text between quotes, unless its characters cannot be told. -/
  | text (s : Option String)
  /-- The place where the words end: whether a quote began it, and how it fails as a
  value to be read and as one to be passed over. -/
  | broken (quoted : Bool) (read passed : Breach)
deriving DecidableEq, Inhabited

namespace Token

/-- A character that begins no word. -/
abbrev stray : Token := .broken false .malformed .malformed

/-- The characters between words. -/
def isSpace : Glyph → Bool
  | some c => c == ' ' || c == '\n' || c == '\t' || c == '\r'
  | none => false

def hexValue? : Glyph → Option Nat
  | none => none
  | some c =>
    if isDecimal c then some (digitValue c)
    else if 'a' ≤ c ∧ c ≤ 'f' then some (c.toNat - 'a'.toNat + 10)
    else if 'A' ≤ c ∧ c ≤ 'F' then some (c.toNat - 'A'.toNat + 10)
    else none

/-- Reads the four digits of a numbered escape. They are cut off when fewer than four
bytes are left. -/
def readHex : List Glyph → Except Breach (Nat × List Glyph)
  | a :: b :: c :: d :: rest =>
    match hexValue? a, hexValue? b, hexValue? c, hexValue? d with
    | some a, some b, some c, some d => .ok (((a * 16 + b) * 16 + c) * 16 + d, rest)
    | _, _, _, _ => .error .malformed
  | short => .error (if Glyph.sizes short < 4 then .ended else .malformed)

/-- What an escape stands for, and what follows it. -/
inductive Escape where
  | char (c : Char) (rest : List Glyph)
  /-- Half of a surrogate pair, which is no character. -/
  | unpaired (rest : List Glyph)
  | broken (b : Breach)

/-- The other half of a surrogate pair. Without one, what follows is left as it is,
unless it is an escape that is no other half. -/
def readTrail (lead : Nat) (s : List Glyph) : Escape :=
  match s with
  | [] => .broken .ended
  | [some '\\'] => .broken .ended
  | some '\\' :: some 'u' :: rest =>
    match readHex rest with
    | .error b => .broken b
    | .ok (trail, rest) =>
      if 0xdc00 ≤ trail ∧ trail ≤ 0xdfff then
        .char (Char.ofNat ((lead - 0xd800) * 0x400 + (trail - 0xdc00) + 0x10000)) rest
      else .unpaired rest
  | s => .unpaired s

/-- Reads the digits of a numbered escape, and the other half that it may need. -/
def readNumbered (s : List Glyph) : Escape :=
  match readHex s with
  | .error b => .broken b
  | .ok (n, rest) =>
    if 0xdc00 ≤ n ∧ n ≤ 0xdfff then .unpaired rest
    else if 0xd800 ≤ n ∧ n ≤ 0xdbff then readTrail n rest
    else .char (Char.ofNat n) rest

/-- The character that a letter after a backslash names. -/
def named? (c : Char) : Option Char :=
  if c = '"' ∨ c = '\\' ∨ c = '/' then some c
  else if c = 'b' then some '\x08'
  else if c = 'f' then some '\x0c'
  else if c = 'n' then some '\n'
  else if c = 'r' then some '\r'
  else if c = 't' then some '\t'
  else none

def readEscape : List Glyph → Escape
  | [] => .broken .ended
  | none :: _ => .broken .malformed
  | some c :: rest =>
    if c = 'u' then readNumbered rest
    else match named? c with
      | some c => .char c rest
      | none => .broken .malformed

def Escape.rest : Escape → List Glyph
  | .char _ rest => rest
  | .unpaired rest => rest
  | .broken _ => []

theorem length_readHex_lt {s rest : List Glyph} {n : Nat} (h : readHex s = .ok (n, rest)) :
    rest.length < s.length := by
  unfold readHex at h
  split at h
  · split at h
    · simp only [Except.ok.injEq, Prod.mk.injEq] at h
      simp only [← h.2, List.length_cons]
      omega
    · contradiction
  · contradiction

theorem length_readTrail_le (lead : Nat) (s : List Glyph) :
    (readTrail lead s).rest.length ≤ s.length := by
  unfold readTrail
  split
  · simp [Escape.rest]
  · simp [Escape.rest]
  · rename_i rest
    split
    · simp [Escape.rest]
    · rename_i trail rest' h
      have := length_readHex_lt h
      split <;> simp only [Escape.rest, List.length_cons] <;> omega
  · simp [Escape.rest]

theorem length_readNumbered_le (s : List Glyph) :
    (readNumbered s).rest.length ≤ s.length := by
  unfold readNumbered
  split
  · simp [Escape.rest]
  · rename_i n rest h
    have := length_readHex_lt h
    have := length_readTrail_le n rest
    split
    · simp only [Escape.rest]
      omega
    · split
      · omega
      · simp only [Escape.rest]
        omega

theorem length_readEscape_le (s : List Glyph) : (readEscape s).rest.length ≤ s.length := by
  unfold readEscape
  split
  · simp [Escape.rest]
  · simp [Escape.rest]
  · rename_i c rest
    have := length_readNumbered_le rest
    split
    · simp only [List.length_cons]
      omega
    · split <;> simp [Escape.rest]

/-- Reads a text after its opening quote. Once its characters cannot be told, only
the verdict on passing over it is still open. -/
def readText (told : Bool) (read : List Char) (s : List Glyph) : Token × List Glyph :=
  match s with
  | [] => (.broken true (if told then .ended else .malformed) .ended, [])
  | none :: rest => readText false read rest
  | some c :: rest =>
    if c = '"' then (.text (if told then some (String.ofList read.reverse) else none), rest)
    else if c = '\\' then
      match _h : readEscape rest with
      | .char c rest' => readText told (c :: read) rest'
      | .unpaired rest' => readText false read rest'
      | .broken b => (.broken true (if told then b else .malformed) b, [])
    else if c.toNat < 0x20 then (.broken true .malformed .malformed, [])
    else readText told (c :: read) rest
termination_by s.length
decreasing_by
  · simp
  · have := length_readEscape_le rest
    rw [_h] at this
    simp only [Escape.rest] at this
    simp only [List.length_cons]
    omega
  · have := length_readEscape_le rest
    rw [_h] at this
    simp only [Escape.rest] at this
    simp only [List.length_cons]
    omega
  · simp

def readWord (word : Token) : List Char → List Glyph → Token × List Glyph
  | [], rest => (word, rest)
  | _ :: _, [] => (.broken false .ended .ended, [])
  | c :: cs, g :: rest => if g = some c then readWord word cs rest else (stray, [])

def readNumber (s : List Glyph) : Token × List Glyph :=
  match Numeral.read s with
  | .ok (n, rest) => (.number n, rest)
  | .error b => (.broken false b.read b.passed, [])

def mark? (c : Char) : Option Token :=
  if c = '\x7b' then some .leftBrace
  else if c = '\x7d' then some .rightBrace
  else if c = '[' then some .leftBracket
  else if c = ']' then some .rightBracket
  else if c = ':' then some .colon
  else if c = ',' then some .comma
  else none

/-- The word of letters that begins with `c`, and its other letters. -/
def literal? (c : Char) : Option (Token × List Char) :=
  if c = 'n' then some (.null, ['u', 'l', 'l'])
  else if c = 't' then some (.truth true, ['r', 'u', 'e'])
  else if c = 'f' then some (.truth false, ['a', 'l', 's', 'e'])
  else none

/-- The first word of a text that begins with `c`. -/
def readFrom (c : Char) (rest : List Glyph) : Token × List Glyph :=
  match mark? c with
  | some t => (t, rest)
  | none =>
    if c = '"' then readText true [] rest
    else match literal? c with
      | some (t, letters) => readWord t letters rest
      | none => if c = '-' ∨ isDecimal c then readNumber (some c :: rest) else (stray, [])

theorem length_readText_le (told : Bool) (read : List Char) (s : List Glyph) :
    (readText told read s).2.length ≤ s.length := by
  fun_induction readText told read s with
  | case1 => simp
  | case2 told read rest ih => simp only [List.length_cons]; omega
  | case3 => simp
  | case4 told read rest c' rest' h ih =>
    have := length_readEscape_le rest
    rw [h] at this
    simp only [Escape.rest] at this
    simp only [List.length_cons]
    omega
  | case5 told read rest rest' h ih =>
    have := length_readEscape_le rest
    rw [h] at this
    simp only [Escape.rest] at this
    simp only [List.length_cons]
    omega
  | case6 => simp
  | case7 => simp
  | case8 told read c rest _ _ _ ih => simp only [List.length_cons]; omega

theorem length_readWord_le (word : Token) (cs : List Char) (s : List Glyph) :
    (readWord word cs s).2.length ≤ s.length := by
  fun_induction readWord word cs s with
  | case1 => simp
  | case2 => simp
  | case3 _ _ _ ih => simp only [List.length_cons]; omega
  | case4 => simp

theorem length_readNumber_lt {s : List Glyph} (hs : s ≠ []) :
    (readNumber s).2.length < s.length := by
  unfold readNumber
  split
  · rename_i n rest h
    exact Numeral.length_read_lt h
  · exact List.length_pos_iff.2 hs

theorem length_readFrom_le (c : Char) (rest : List Glyph) :
    (readFrom c rest).2.length ≤ rest.length := by
  have number := length_readNumber_lt (s := some c :: rest) (by simp)
  simp only [List.length_cons] at number
  unfold readFrom
  split
  · exact Nat.le_refl _
  · split
    · exact length_readText_le true [] rest
    · split
      · exact length_readWord_le _ _ rest
      · split
        · omega
        · exact Nat.zero_le _

def scan (s : List Glyph) : List Token :=
  match _h : s.dropWhile isSpace with
  | [] => []
  | none :: _ => [stray]
  | some c :: rest => (readFrom c rest).1 :: scan (readFrom c rest).2
termination_by s.length
decreasing_by
  have dropped := (List.dropWhile_sublist isSpace (l := s)).length_le
  have := length_readFrom_le c rest
  rw [_h] at dropped
  simp only [List.length_cons] at dropped
  omega

/-- The words of a readable text. -/
def ofString (s : String) : List Token := scan (Glyph.ofText s)

end Token

end RequestGuard
