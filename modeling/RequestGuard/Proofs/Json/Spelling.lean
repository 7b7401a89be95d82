import RequestGuard.Proofs.Json.Written

/-!
# How words are spelled

The lexical grammar of JSON for marks, texts and integers, over characters: which escape
stands for which character, which characters between two quotes make which text, and which
blanks may stand in front of a word. Nothing in it says how a text is read.

The scanner agrees with it in both directions. What it cuts off as a mark, a text or an integer
is spelled as the grammar says, whatever follows. And words that are spelled so are cut off as
these words, if no number stands before anything but a mark, which ends it.
-/

namespace RequestGuard

/-! ## The grammar -/

namespace Spelling

/-- What each letter stands for after a backslash. -/
def letters : List (Char × Char) :=
  [('"', '"'), ('\\', '\\'), ('/', '/'), ('b', '\x08'), ('f', '\x0c'), ('n', '\n'), ('r', '\r'),
    ('t', '\t')]

def marks : List (Char × Token) :=
  [('\x7b', .leftBrace), ('\x7d', .rightBrace), ('[', .leftBracket), (']', .rightBracket),
    (':', .colon), (',', .comma)]

def blanks : List Char := [' ', '\n', '\t', '\r']

/-- A hexadecimal digit of either case. -/
def HexDigit (c : Char) (n : Nat) : Prop := n < 16 ∧ (c = n.digitChar ∨ c = n.digitChar.toUpper)

/-- The four digits of a numbered escape. -/
inductive Code : List Char → Nat → Prop where
  | digits {a b c d : Char} {i j k l : Nat} :
      HexDigit a i → HexDigit b j → HexDigit c k → HexDigit d l →
        Code [a, b, c, d] (((i * 16 + j) * 16 + k) * 16 + l)

/-- The character of a surrogate pair. -/
def paired (lead trail : Nat) : Char :=
  Char.ofNat ((lead - 0xd800) * 0x400 + (trail - 0xdc00) + 0x10000)

/-- What may stand after a backslash, and the character for which it stands: a letter, the
number of a character that is no half of a surrogate pair, or the numbers of both halves. -/
inductive Escapes : List Char → Char → Prop where
  | letter {e c : Char} : (e, c) ∈ letters → Escapes [e] c
  | code {ds : List Char} {n : Nat} :
      Code ds n → ¬ (0xd800 ≤ n ∧ n ≤ 0xdfff) → Escapes ('u' :: ds) (Char.ofNat n)
  | pair {ds ds' : List Char} {lead trail : Nat} :
      Code ds lead → 0xd800 ≤ lead ∧ lead ≤ 0xdbff →
      Code ds' trail → 0xdc00 ≤ trail ∧ trail ≤ 0xdfff →
        Escapes ('u' :: (ds ++ '\\' :: 'u' :: ds')) (paired lead trail)

/-- What may stand between two quotes, and the text that it is. -/
inductive Body : List Char → List Char → Prop where
  | nil : Body [] []
  | plain {c : Char} {body content : List Char} :
      c ≠ '"' → c ≠ '\\' → ¬ c.toNat < 0x20 → Body body content → Body (c :: body) (c :: content)
  | escape {e body content : List Char} {c : Char} :
      Escapes e c → Body body content → Body ('\\' :: (e ++ body)) (c :: content)

/-- The characters of a mark, a text or an integer. -/
inductive Lexeme : Token → List Char → Prop where
  | mark {c : Char} {t : Token} : (c, t) ∈ marks → Lexeme t [c]
  | text {body content : List Char} :
      Body body content → Lexeme (.text (some (String.ofList content))) ('"' :: (body ++ ['"']))
  | integer (n : Int) : Lexeme (.number (.integer n)) (Written.number n)

/-- Words one after another, each after any number of blanks. -/
inductive Spelled : List Token → List Char → Prop where
  | nil : Spelled [] []
  | cons {t : Token} {ts : List Token} {space word rest : List Char} :
      (∀ c ∈ space, c ∈ blanks) → Lexeme t word → Spelled ts rest →
        Spelled (t :: ts) (space ++ (word ++ rest))

/-- Whether a word is plain: a mark, a text or an integer, as the grammar spells them. -/
def isSpellable : Token → Bool
  | .leftBrace | .rightBrace | .leftBracket | .rightBracket | .colon | .comma => true
  | .text s => s.isSome
  | .number (.integer _) => true
  | _ => false

/-- Each number fits into a word, and a mark follows it. -/
def Delimited : List Token → Prop
  | [] => True
  | t :: ts =>
    (∀ n, t = .number (.integer n) → (-0x8000000000000000 ≤ n ∧ n ≤ Numeral.maxWord) ∧
      ∃ next ∈ ts.head?, ∃ c, (c, next) ∈ marks) ∧ Delimited ts

/-! ## Texts -/

theorem mem_letters_iff {e c : Char} : (e, c) ∈ letters ↔ Token.named? e = some c := by
  simp only [letters, List.mem_cons, List.not_mem_nil, or_false, Prod.mk.injEq]
  constructor
  · intro named
    rcases named with ⟨rfl, rfl⟩ | ⟨rfl, rfl⟩ | ⟨rfl, rfl⟩ | ⟨rfl, rfl⟩ | ⟨rfl, rfl⟩ | ⟨rfl, rfl⟩ |
      ⟨rfl, rfl⟩ | ⟨rfl, rfl⟩ <;> rfl
  · intro named
    rw [Token.named?] at named
    repeat' split at named
    all_goals grind

theorem mem_marks_iff {c : Char} {t : Token} : (c, t) ∈ marks ↔ Token.mark? c = some t := by
  simp only [marks, List.mem_cons, List.not_mem_nil, or_false, Prod.mk.injEq]
  constructor
  · intro mark
    rcases mark with ⟨rfl, rfl⟩ | ⟨rfl, rfl⟩ | ⟨rfl, rfl⟩ | ⟨rfl, rfl⟩ | ⟨rfl, rfl⟩ | ⟨rfl, rfl⟩ <;>
      rfl
  · intro mark
    rw [Token.mark?] at mark
    repeat' split at mark
    all_goals grind

theorem isSpace_iff {c : Char} : Token.isSpace (some c) = true ↔ c ∈ blanks := by
  simp [Token.isSpace, blanks, or_assoc]

theorem toNat_lt_of_hexValue? {c : Char} {n : Nat} (h : Token.hexValue? (some c) = some n) :
    c.toNat < 128 := by
  have bounded : ∀ top : Char, c ≤ top → c.toNat ≤ top.toNat := fun _ le => le
  rw [Token.hexValue?] at h
  split at h
  · rename_i digit
    rw [isDecimal, Bool.and_eq_true, decide_eq_true_eq, decide_eq_true_eq] at digit
    exact Nat.lt_of_le_of_lt (bounded '9' digit.2) (by decide)
  · split at h
    · rename_i lower
      exact Nat.lt_of_le_of_lt (bounded 'f' lower.2) (by decide)
    · split at h
      · rename_i upper
        exact Nat.lt_of_le_of_lt (bounded 'F' upper.2) (by decide)
      · cases h

instance (c : Char) (n : Nat) : Decidable (HexDigit c n) := inferInstanceAs (Decidable (_ ∧ _))

theorem hexDigit_iff {c : Char} {n : Nat} : Token.hexValue? (some c) = some n ↔ HexDigit c n := by
  constructor
  · intro h
    have ascii : ∀ m, m < 128 →
        ∀ n ∈ Token.hexValue? (some (Char.ofNat m)), HexDigit (Char.ofNat m) n := by decide +kernel
    have found := ascii c.toNat (toNat_lt_of_hexValue? h) n
    rw [Char.ofNat_toNat] at found
    exact found h
  · rintro ⟨small, rfl | rfl⟩
    · exact Token.hexValue?_digitChar small
    · revert n
      decide

variable {c : Char} {n : Nat} {s rest : List Glyph}

theorem code_of_readHex (read : Token.readHex s = .ok (n, rest)) :
    ∃ ds, Code ds n ∧ s = ds.map some ++ rest := by
  rw [Token.readHex.eq_def] at read
  split at read
  · rename_i g g' g'' g''' tail
    split at read
    · rename_i first second third fourth
      cases read
      -- An unreadable byte is no digit.
      cases g with
      | none => cases first
      | some a =>
      cases g' with
      | none => cases second
      | some b =>
      cases g'' with
      | none => cases third
      | some c =>
      cases g''' with
      | none => cases fourth
      | some d =>
          exact ⟨[a, b, c, d], .digits (hexDigit_iff.mp first) (hexDigit_iff.mp second)
            (hexDigit_iff.mp third) (hexDigit_iff.mp fourth), rfl⟩
    · cases read
  · cases read

theorem readHex_code {ds : List Char} (code : Code ds n) (rest : List Glyph) :
    Token.readHex (ds.map some ++ rest) = .ok (n, rest) := by
  obtain ⟨first, second, third, fourth⟩ := code
  simp only [List.map_cons, List.map_nil, List.cons_append, List.nil_append, Token.readHex,
    hexDigit_iff.mpr first, hexDigit_iff.mpr second, hexDigit_iff.mpr third,
    hexDigit_iff.mpr fourth]

theorem trail_of_readTrail {lead : Nat} (read : Token.readTrail lead s = .char c rest) :
    ∃ ds trail, Code ds trail ∧ (0xdc00 ≤ trail ∧ trail ≤ 0xdfff) ∧
      c = paired lead trail ∧ s = some '\\' :: some 'u' :: (ds.map some ++ rest) := by
  rw [Token.readTrail.eq_def] at read
  split at read
  · contradiction
  · contradiction
  · split at read
    · contradiction
    · rename_i trail _ hex
      split at read
      · rename_i half
        rw [Token.Escape.char.injEq] at read
        obtain ⟨ds, code, rfl⟩ := code_of_readHex hex
        exact ⟨ds, trail, code, half, read.1.symm, by rw [read.2]⟩
      · contradiction
  · contradiction

theorem readTrail_code {ds : List Char} {trail : Nat} (lead : Nat) (code : Code ds trail)
    (half : 0xdc00 ≤ trail ∧ trail ≤ 0xdfff) (rest : List Glyph) :
    Token.readTrail lead (some '\\' :: some 'u' :: (ds.map some ++ rest)) =
      .char (paired lead trail) rest := by
  simp only [Token.readTrail, readHex_code code, if_pos half, paired]

theorem escapes_of_readEscape (read : Token.readEscape s = .char c rest) :
    ∃ e, Escapes e c ∧ s = e.map some ++ rest := by
  rw [Token.readEscape.eq_def] at read
  split at read
  · contradiction
  · contradiction
  · rename_i e tail
    split at read
    · subst e
      rw [Token.readNumbered] at read
      split at read
      · contradiction
      · rename_i n tail' hex
        obtain ⟨ds, code, rfl⟩ := code_of_readHex hex
        split at read
        · contradiction
        · rename_i low
          split at read
          · rename_i high
            obtain ⟨ds', trail, code', half, same, rfl⟩ := trail_of_readTrail read
            rw [same]
            refine ⟨_, .pair code high code' half, ?_⟩
            simp only [List.map_cons, List.map_append, List.cons_append, List.append_assoc]
          · rename_i high
            cases read
            exact ⟨_, .code code (by omega), rfl⟩
    · split at read
      · rename_i named
        cases read
        exact ⟨[e], .letter (mem_letters_iff.mpr named), rfl⟩
      · contradiction

theorem readEscape_escapes {e : List Char} (escape : Escapes e c) (rest : List Glyph) :
    Token.readEscape (e.map some ++ rest) = .char c rest := by
  cases escape with
  | letter named =>
      rename_i e
      have other : e ≠ 'u' := by
        rintro rfl
        cases mem_letters_iff.mp named
      simp only [List.map_cons, List.map_nil, List.cons_append, List.nil_append,
        Token.readEscape, if_neg other, mem_letters_iff.mp named]
  | code code single =>
      simp only [List.map_cons, List.cons_append, Token.readEscape, if_true, Token.readNumbered,
        readHex_code code]
      rw [if_neg (by omega), if_neg (by omega)]
  | pair code high code' half =>
      simp only [List.map_cons, List.map_append, List.cons_append, List.append_assoc,
        Token.readEscape, if_true, Token.readNumbered, readHex_code code]
      rw [if_neg (by omega), if_pos high]
      exact readTrail_code _ code' half rest

/-- What the reader of a text takes up is the body of a text, up to its closing quote. -/
theorem body_of_readText {told : Bool} {read : List Char} {t : Token}
    (cut : Token.readText told read s = (t, rest)) (plain : isSpellable t = true) :
    told = true ∧ ∃ body content, Body body content ∧
      t = .text (some (String.ofList (read.reverse ++ content))) ∧
      s = body.map some ++ some '"' :: rest := by
  fun_induction Token.readText told read s with
  | case1 =>
      cases cut
      cases plain
  | case2 _ _ _ ih => exact absurd (ih cut).1 (by decide)
  | case3 told read tail =>
      cases cut
      cases told with
      | false => cases plain
      | true =>
          refine ⟨rfl, [], [], .nil, ?_, rfl⟩
          rw [List.append_nil]
          rfl
  | case4 told read tail c tail' escape _ ih =>
      obtain ⟨rfl, body, content, inner, rfl, rfl⟩ := ih cut
      obtain ⟨e, escapes, rfl⟩ := escapes_of_readEscape escape
      refine ⟨rfl, '\\' :: (e ++ body), c :: content, .escape escapes inner, ?_, ?_⟩
      · rw [List.reverse_cons, List.append_assoc]
        rfl
      · simp only [List.map_cons, List.map_append, List.cons_append, List.append_assoc]
  | case5 _ _ _ _ _ _ ih => exact absurd (ih cut).1 (by decide)
  | case6 =>
      cases cut
      cases plain
  | case7 =>
      cases cut
      cases plain
  | case8 told read c tail quote backslash high ih =>
      obtain ⟨rfl, body, content, inner, rfl, rfl⟩ := ih cut
      refine ⟨rfl, c :: body, c :: content, .plain quote backslash high inner, ?_, rfl⟩
      rw [List.reverse_cons, List.append_assoc]
      rfl

/-- The body of a text is read up to its closing quote. -/
theorem readText_body {body content : List Char} (inner : Body body content) (read : List Char)
    (rest : List Glyph) :
    Token.readText true read (body.map some ++ some '"' :: rest) =
      (.text (some (String.ofList (read.reverse ++ content))), rest) := by
  induction inner generalizing read with
  | nil =>
      rw [List.append_nil]
      exact Token.readText_quote
  | plain quote backslash high _ ih =>
      rw [List.map_cons, List.cons_append, Token.readText_plain quote backslash high, ih,
        List.reverse_cons, List.append_assoc]
      rfl
  | escape escapes _ ih =>
      rw [List.map_cons, List.map_append, List.cons_append, List.append_assoc,
        Token.readText_escape (readEscape_escapes escapes _), ih, List.reverse_cons,
        List.append_assoc]
      rfl

/-- A text that was written is spelled by what stands between its quotes. -/
theorem lexeme_text (s : String) : Lexeme (.text (some s)) (Written.text s.toList) := by
  obtain ⟨-, body, content, inner, same, whole⟩ :=
    body_of_readText (Token.readText_written [] s.toList []) rfl
  have between := List.append_cancel_right whole
  rw [List.map_inj_right fun _ _ => Option.some.inj] at between
  rw [List.reverse_nil, List.nil_append, List.nil_append, String.ofList_toList] at same
  rw [same, Written.text, between]
  exact .text inner

end Spelling

/-! ## Integers -/

/-- The glyphs at the beginning of a text that satisfy what only characters do. -/
theorem exists_readable_takeWhile {p : Glyph → Bool} (readable : p none = false)
    (s : List Glyph) :
    ∃ cs : List Char, s.takeWhile p = cs.map some ∧ ∀ c ∈ cs, p (some c) = true := by
  induction s with
  | nil => exact ⟨[], rfl, by simp⟩
  | cons g s ih =>
      by_cases holds : p g = true
      · obtain ⟨cs, taken, all⟩ := ih
        cases g with
        | none => exact absurd holds (by rw [readable]; decide)
        | some c =>
            refine ⟨c :: cs, ?_, List.forall_mem_cons.mpr ⟨holds, all⟩⟩
            rw [List.takeWhile_cons_of_pos holds, taken, List.map_cons]
      · exact ⟨[], List.takeWhile_cons_of_neg holds, by simp⟩

namespace Numeral

variable {n : Int} {s rest : List Glyph}

theorem ofParts_ne_integer {whole fraction : List Char} {power : Int} :
    ofParts whole fraction power ≠ .integer n := by
  intro same
  simp only [ofParts] at same
  split at same <;> contradiction

theorem readExponent_integer {whole fraction : List Char} {plain : Numeral}
    (read : readExponent whole fraction plain s = .ok (.integer n, rest)) :
    plain = .integer n ∧ rest = s := by
  rw [readExponent.eq_def] at read
  split at read
  · cases read
    exact ⟨rfl, rfl⟩
  · split at read
    · split at read
      · cases read
      · injection read with read
        exact absurd (congrArg Prod.fst read) ofParts_ne_integer
    · cases read
      exact ⟨rfl, rfl⟩

/-- A literal with a fraction or an exponent is no integer. -/
theorem readFractional_integer {whole : List Char} {plain : Numeral}
    (read : readFractional whole plain s = .ok (.integer n, rest)) :
    plain = .integer n ∧ rest = s := by
  rw [readFractional.eq_def] at read
  split at read
  · cases read
    exact ⟨rfl, rfl⟩
  · split at read
    · split at read
      · cases read
      · exact absurd (readExponent_integer read).1 ofParts_ne_integer
    · exact readExponent_integer read

theorem digits_append_afterDigits (s : List Glyph) :
    (∀ c ∈ digits s, isDecimal c = true) ∧ (digits s).map some ++ afterDigits s = s := by
  obtain ⟨cs, taken, decimals⟩ := exists_readable_takeWhile (p := isDigitGlyph) rfl s
  have same : digits s = cs := by
    rw [digits, taken, List.filterMap_map]
    exact List.filterMap_some
  rw [same, ← taken, afterDigits, List.takeWhile_append_dropWhile]
  exact ⟨decimals, rfl⟩

/-- A whole number has only one literal without a zero in front of other digits. -/
theorem written_of_ofDigits {negative : Bool} {whole : List Char}
    (digits : ∀ c ∈ whole, isDecimal c = true) (begun : whole ≠ [])
    (alone : ¬ (whole.head? = some '0' ∧ whole ≠ ['0']))
    (integer : ofDigits negative whole = .integer n) :
    (if negative then '-' :: whole else whole) = Written.number n := by
  have literal := decimal_ofDigitChars digits begun alone
  rw [ofDigits] at integer
  rw [Written.number, signedDecimal]
  cases negative with
  | true =>
      simp only [if_true] at integer ⊢
      split at integer
      · injection integer with integer
        rw [← integer, if_pos (by omega), Int.natAbs_neg, Int.natAbs_natCast, literal]
      · exact absurd integer ofParts_ne_integer
  | false =>
      simp only [Bool.false_eq_true, if_false] at integer ⊢
      split at integer
      · injection integer with integer
        rw [← integer, if_neg (by omega), Int.natAbs_natCast, literal]
      · exact absurd integer ofParts_ne_integer

theorem written_of_readUnsigned {negative : Bool}
    (read : readUnsigned negative s = .ok (.integer n, rest)) :
    ∃ whole, (if negative then '-' :: whole else whole) = Written.number n ∧
      s = whole.map some ++ rest := by
  rw [readUnsigned] at read
  split at read
  · contradiction
  · rename_i begun
    split at read
    · contradiction
    · rename_i alone
      obtain ⟨integer, rfl⟩ := readFractional_integer read
      obtain ⟨decimals, whole⟩ := digits_append_afterDigits s
      exact ⟨digits s, written_of_ofDigits decimals begun alone integer, whole.symm⟩

/-- What is read as an integer is how it is written. -/
theorem written_of_read (read : Numeral.read s = .ok (.integer n, rest)) :
    s = (Written.number n).map some ++ rest := by
  rw [Numeral.read.eq_def] at read
  split at read
  · obtain ⟨whole, written, rfl⟩ := written_of_readUnsigned read
    rw [← written]
    rfl
  · obtain ⟨whole, written, rfl⟩ := written_of_readUnsigned read
    rw [← written]
    rfl

end Numeral

/-! ## Words -/

namespace Spelling

variable {c : Char} {t : Token} {ts : List Token} {s rest : List Glyph}

/-- Words may follow each other without blanks. -/
theorem Spelled.next {word value : List Char} (lexeme : Lexeme t word)
    (spelled : Spelled ts value) : Spelled (t :: ts) (word ++ value) :=
  Spelled.cons (List.forall_mem_nil _) lexeme spelled

theorem Spelled.mark {value : List Char} (mark : (c, t) ∈ marks) (spelled : Spelled ts value) :
    Spelled (t :: ts) (c :: value) :=
  .next (.mark mark) spelled

theorem isSpellable_readWord {word : Token} (other : isSpellable word = false) (cs : List Char)
    (s : List Glyph) : isSpellable (Token.readWord word cs s).1 = false := by
  fun_induction Token.readWord word cs s with
  | case1 => exact other
  | case2 => rfl
  | case3 _ _ _ ih => exact ih
  | case4 => rfl

theorem isSpellable_literal {word : Token} {letters : List Char}
    (literal : Token.literal? c = some (word, letters)) : isSpellable word = false := by
  rw [Token.literal?] at literal
  repeat' split at literal
  all_goals cases literal
  all_goals rfl

/-- A plain word is cut off from characters that spell it. -/
theorem lexeme_of_readFrom (cut : Token.readFrom c s = (t, rest)) (plain : isSpellable t = true) :
    ∃ word, Lexeme t word ∧ some c :: s = word.map some ++ rest := by
  rw [Token.readFrom.eq_def] at cut
  split at cut
  · rename_i mark
    cases cut
    exact ⟨[c], .mark (mem_marks_iff.mpr mark), rfl⟩
  · split at cut
    · subst c
      obtain ⟨-, body, content, inner, rfl, rfl⟩ := body_of_readText cut plain
      refine ⟨_, .text inner, ?_⟩
      simp only [List.map_cons, List.map_append, List.map_nil, List.cons_append, List.append_assoc,
        List.nil_append]
    · split at cut
      · rename_i letters literal
        have other := isSpellable_readWord (isSpellable_literal literal) letters s
        rw [cut, plain] at other
        cases other
      · split at cut
        · rw [Token.readNumber] at cut
          split at cut
          · rename_i n _ read
            cases cut
            cases n with
            | integer n => exact ⟨_, .integer n, Numeral.written_of_read read⟩
            | float => cases plain
            | tooLarge => cases plain
          · cases cut
            cases plain
        · cases cut
          cases plain

/-- The first word of a text, if it is plain, is spelled after blanks. -/
theorem lexeme_of_scan (cut : Token.scan s = t :: ts) (plain : isSpellable t = true) :
    ∃ (space word : List Char) (rest : List Glyph), (∀ c ∈ space, c ∈ blanks) ∧ Lexeme t word ∧
      s = space.map some ++ (word.map some ++ rest) ∧ Token.scan rest = ts := by
  obtain ⟨space, taken, blank⟩ := exists_readable_takeWhile (p := Token.isSpace) rfl s
  have split := List.takeWhile_append_dropWhile (p := Token.isSpace) (l := s)
  rw [Token.scan.eq_def] at cut
  split at cut
  · contradiction
  · cases cut
    cases plain
  · rename_i c tail dropped
    injection cut with first next
    obtain ⟨word, lexeme, spelled⟩ := lexeme_of_readFrom (Prod.ext first rfl) plain
    refine ⟨space, word, _, fun c among => isSpace_iff.mp (blank c among), lexeme, ?_, next⟩
    rw [← split, dropped, taken, spelled]

/-- Plain words at the beginning of a text are spelled there. -/
theorem spelled_of_scan {more : List Token} (plain : ∀ t ∈ ts, isSpellable t = true)
    (cut : Token.scan s = ts ++ more) :
    ∃ value rest, Spelled ts value ∧ s = value.map some ++ rest := by
  induction ts generalizing s with
  | nil => exact ⟨[], s, .nil, rfl⟩
  | cons t ts ih =>
      rw [List.forall_mem_cons] at plain
      obtain ⟨space, word, s', blank, lexeme, rfl, next⟩ := lexeme_of_scan cut plain.1
      obtain ⟨value, rest, spelled, rfl⟩ := ih plain.2 next
      refine ⟨_, rest, .cons blank lexeme spelled, ?_⟩
      simp only [List.map_append, List.append_assoc]

/-! Words that are spelled are cut off again. -/

theorem scan_blank {g : Glyph} (blank : Token.isSpace g = true) (s : List Glyph) :
    Token.scan (g :: s) = Token.scan s := by
  rw [Token.scan.eq_def, Token.scan.eq_def s, List.dropWhile_cons_of_pos blank]

theorem scan_blanks {space : List Char} (blank : ∀ c ∈ space, c ∈ blanks) (s : List Glyph) :
    Token.scan (space.map some ++ s) = Token.scan s := by
  induction space with
  | nil => rfl
  | cons c space ih =>
      rw [List.forall_mem_cons] at blank
      rw [List.map_cons, List.cons_append, scan_blank (isSpace_iff.mpr blank.1), ih blank.2]

/-- A text without words is blank. -/
theorem scan_eq_nil_iff {cs : List Char} :
    Token.scan (cs.map some) = [] ↔ ∀ c ∈ cs, c ∈ blanks := by
  constructor
  · intro wordless c among
    rw [Token.scan.eq_def] at wordless
    split at wordless
    · rename_i dropped
      have taken := List.takeWhile_append_dropWhile (p := Token.isSpace) (l := cs.map some)
      rw [dropped, List.append_nil] at taken
      have all : (cs.map some).all Token.isSpace = true := taken ▸ List.all_takeWhile
      exact isSpace_iff.mp (List.all_eq_true.mp all _ (List.mem_map_of_mem among))
    · cases wordless
    · cases wordless
  · intro blank
    have skipped := scan_blanks blank []
    rw [List.append_nil, Token.scan_nil] at skipped
    exact skipped

/-- A mark that follows, after blanks or at once, ends a number. -/
theorem endsNumber_of_mark (mark : (c, t) ∈ marks) {value : List Char}
    (spelled : Spelled (t :: ts) value) (rest : List Glyph) :
    Numeral.EndsNumber (value.map some ++ rest) := by
  have mark_ends : ∀ m ∈ marks, ∀ s, Numeral.EndsNumber (some m.1 :: s) := by
    intro m among s
    simp only [marks, List.mem_cons, List.not_mem_nil, or_false] at among
    rcases among with rfl | rfl | rfl | rfl | rfl | rfl <;> (rintro _ ⟨⟩; decide)
  have blank_ends : ∀ b ∈ blanks, ∀ s, Numeral.EndsNumber (some b :: s) := by
    intro b among s
    simp only [blanks, List.mem_cons, List.not_mem_nil, or_false] at among
    rcases among with rfl | rfl | rfl | rfl <;> (rintro _ ⟨⟩; decide)
  cases spelled with
  | @cons _ _ space word value blank lexeme _ =>
      cases space with
      | cons b space => exact blank_ends b (blank b List.mem_cons_self) _
      | nil =>
          cases lexeme with
          | mark mark => exact mark_ends _ mark _
          | text => simp [marks] at mark
          | integer => simp [marks] at mark

/-- Words that are spelled are cut off from what follows. -/
theorem scan_spelled {value : List Char} (spelled : Spelled ts value) (apart : Delimited ts)
    (rest : List Glyph) :
    Token.scan (value.map some ++ rest) = ts ++ Token.scan rest := by
  induction spelled with
  | nil => rfl
  | cons blank lexeme spelled ih =>
      obtain ⟨ends, apart⟩ := apart
      simp only [List.map_append, List.append_assoc]
      rw [scan_blanks blank, List.cons_append, ← ih apart]
      cases lexeme with
      | mark mark => exact Token.scan_mark (mem_marks_iff.mp mark) _
      | text inner =>
          simp only [List.map_cons, List.map_append, List.map_nil, List.cons_append,
            List.append_assoc, List.nil_append]
          exact Token.scan_quote (readText_body inner [] _)
      | integer n =>
          obtain ⟨⟨lower, upper⟩, next, follows, c, mark⟩ := ends n rfl
          cases spelled with
          | nil => cases follows
          | cons blank lexeme spelled =>
              cases follows
              exact Token.scan_number lower upper
                (endsNumber_of_mark mark (.cons blank lexeme spelled) _)

end Spelling

end RequestGuard
