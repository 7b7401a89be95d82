import RequestGuard.Admission.Policy
import RequestGuard.Proofs.Json.Record
import RequestGuard.Proofs.Json.Spelling

/-!
# Which texts are configurations

A configuration has three forms: an object with its two members in either order, or the list of
its two numbers. A text is accepted exactly when it begins with one of these forms in any
spelling, with blanks and escapes where JSON has them, and then the configuration holds the two
numbers. So a configuration that was written is read back, whatever its numbers.

What follows the form is not looked at. A text that is accepted is accepted with anything behind
it, which no other text is that the program reads: those may end in blanks only.
-/

namespace RequestGuard

namespace AdmissionConfig

open Spelling

/-- The words of a member whose value is a number. -/
def memberWords (name : String) (n : Int) : List Token :=
  [.text (some name), .colon, .number (.integer n)]

/-- The words of a configuration: an object with its members in either order, or a list. -/
def forms (c : AdmissionConfig) : List (List Token) :=
  let capacity := memberWords "capacity" c.capacity.toInt
  let window := memberWords "window_ms" c.window.toNat
  [.leftBrace :: (capacity ++ .comma :: window ++ [.rightBrace]),
    .leftBrace :: (window ++ .comma :: capacity ++ [.rightBrace]),
    [.leftBracket, .number (.integer c.capacity.toInt), .comma,
      .number (.integer c.window.toNat), .rightBracket]]

variable {c : AdmissionConfig} {form rest ts : List Token} {d d' : Draft}

theorem isSpellable_of_mem_forms (among : form ∈ c.forms) : ∀ t ∈ form, isSpellable t = true := by
  revert form
  simp [forms, memberWords, isSpellable]

theorem delimited_of_mem_forms (among : form ∈ c.forms) : Delimited form := by
  have lower := c.capacity.lower
  have upper := c.capacity.upper
  have window := c.window.upper
  revert form
  simp [forms, memberWords, Delimited, marks, Numeral.maxWord]
  omega

/-- No form goes on as another one does. -/
theorem eq_nil_of_forms {form' more : List Token} (among : form ∈ c.forms)
    (among' : form' ∈ c.forms) (longer : form ++ more = form') : more = [] := by
  simp only [forms, memberWords, List.mem_cons, List.not_mem_nil, or_false] at among among'
  rcases among with rfl | rfl | rfl <;> rcases among' with rfl | rfl | rfl <;>
    simp_all

/-! ## The words of a configuration -/

theorem member_of_readMember (read : layout.readMember d ts = .ok (d', rest)) :
    (∃ v : SignedWord, d.capacity = none ∧ d' = { d with capacity := some v } ∧
      ts = memberWords "capacity" v.toInt ++ rest) ∨
    ∃ w : Word, d.window = none ∧ d' = { d with window := some w } ∧
      ts = memberWords "window_ms" w.toNat ++ rest := by
  obtain ⟨f, field, t, update, unset, set, rfl, rfl⟩ := Layout.field_of_readMember rfl read
  simp only [layout, List.mem_cons, List.not_mem_nil, or_false] at field
  obtain rfl | rfl := field
  · obtain ⟨v, number, rfl⟩ := Layout.eq_ok_of_map set
    rw [Token.toSigned_eq_ok_iff.mp number]
    exact .inl ⟨v, by simpa using unset, rfl, rfl⟩
  · obtain ⟨w, number, rfl⟩ := Layout.eq_ok_of_map set
    rw [Token.toUnsigned_eq_ok_iff.mp number]
    exact .inr ⟨w, by simpa using unset, rfl, rfl⟩

/-- After both members only the end of the object can follow. -/
theorem full_of_readMembers {v : SignedWord} {w : Word}
    (read : layout.readMembers ⟨some v, some w⟩ ts = .ok (c, rest)) :
    ts = .rightBrace :: rest ∧ c = ⟨v, w⟩ := by
  obtain ⟨rfl, done⟩ | ⟨_, _, _, -, member, -⟩ := Layout.readMembers_cases read
  · cases done
    exact ⟨rfl, rfl⟩
  · obtain ⟨_, unset, -⟩ | ⟨_, unset, -⟩ := member_of_readMember member <;> cases unset

theorem window_of_readMembers {v : SignedWord}
    (read : layout.readMembers ⟨some v, none⟩ ts = .ok (c, rest)) :
    v = c.capacity ∧
      ts = .comma :: memberWords "window_ms" c.window.toNat ++ .rightBrace :: rest := by
  obtain ⟨rfl, done⟩ | ⟨_, _, _, rfl, member, next⟩ := Layout.readMembers_cases read
  · cases done
  · obtain ⟨_, unset, -⟩ | ⟨w, -, rfl, rfl⟩ := member_of_readMember member
    · cases unset
    · obtain ⟨rfl, rfl⟩ := full_of_readMembers next
      exact ⟨rfl, rfl⟩

theorem capacity_of_readMembers {w : Word}
    (read : layout.readMembers ⟨none, some w⟩ ts = .ok (c, rest)) :
    w = c.window ∧
      ts = .comma :: memberWords "capacity" c.capacity.toInt ++ .rightBrace :: rest := by
  obtain ⟨rfl, done⟩ | ⟨_, _, _, rfl, member, next⟩ := Layout.readMembers_cases read
  · cases done
  · obtain ⟨v, -, rfl, rfl⟩ | ⟨_, unset, -⟩ := member_of_readMember member
    · obtain ⟨rfl, rfl⟩ := full_of_readMembers next
      exact ⟨rfl, rfl⟩
    · cases unset

/-- A configuration that is read has one of its forms. -/
theorem form_of_read (read : layout.read ts = .ok (c, rest)) :
    ∃ form ∈ c.forms, ts = form ++ rest := by
  obtain ⟨ts, rfl, object⟩ | ⟨ts, rfl, list⟩ := Layout.read_cases read
  · obtain ⟨-, done⟩ | ⟨d, ts', member, next⟩ := Layout.readObject_cases object
    · cases done
    · obtain ⟨v, -, rfl, rfl⟩ | ⟨w, -, rfl, rfl⟩ := member_of_readMember member
      · obtain ⟨rfl, rfl⟩ := window_of_readMembers next
        exact ⟨_, .head _, by simp⟩
      · obtain ⟨rfl, rfl⟩ := capacity_of_readMembers next
        exact ⟨_, .tail _ (.head _), by simp⟩
  · obtain ⟨t, update, ts, rfl, set, list⟩ := Layout.element_of_readElements rfl list
    obtain ⟨t', update', ts', rfl, set', list⟩ := Layout.element_of_readElements rfl list
    obtain ⟨rfl, done⟩ := Layout.rightBracket_of_endList list
    obtain ⟨v, number, rfl⟩ := Layout.eq_ok_of_map set
    obtain ⟨w, number', rfl⟩ := Layout.eq_ok_of_map set'
    cases done
    rw [Token.toSigned_eq_ok_iff.mp number, Token.toUnsigned_eq_ok_iff.mp number']
    exact ⟨_, .tail _ (.tail _ (.head _)), rfl⟩

theorem set_capacity (v : SignedWord) :
    (layout.fields.get ⟨0, by decide⟩).set (.number (.integer v.toInt)) =
      .ok fun d => { d with capacity := some v } :=
  congrArg (Except.map _) (Token.toSigned_eq_ok_iff.mpr rfl)

theorem set_window (w : Word) :
    (layout.fields.get ⟨1, by decide⟩).set (.number (.integer w.toNat)) =
      .ok fun d => { d with window := some w } :=
  congrArg (Except.map _) (Token.toUnsigned_eq_ok_iff.mpr rfl)

theorem readMember_capacity (unset : d.capacity = none) (v : SignedWord) (rest : List Token) :
    layout.readMember d (memberWords "capacity" v.toInt ++ rest) =
      .ok ({ d with capacity := some v }, rest) :=
  Layout.readMember_known rfl (congrArg Option.isSome unset)
    (congrArg (Except.map (· d)) (set_capacity v)) rest

theorem readMember_window (unset : d.window = none) (w : Word) (rest : List Token) :
    layout.readMember d (memberWords "window_ms" w.toNat ++ rest) =
      .ok ({ d with window := some w }, rest) :=
  Layout.readMember_known rfl (congrArg Option.isSome unset)
    (congrArg (Except.map (· d)) (set_window w)) rest

/-- A configuration is read from each of its forms. -/
theorem read_form (among : form ∈ c.forms) (rest : List Token) :
    layout.read (form ++ rest) = .ok (c, rest) := by
  simp only [forms, List.mem_cons, List.not_mem_nil, or_false] at among
  obtain rfl | rfl | rfl := among
  · simp only [List.cons_append, List.append_assoc, List.nil_append, Layout.read]
    rw [Layout.readObject_of_member (readMember_capacity rfl _ _),
      Layout.readMembers_comma (readMember_window rfl _ _), Layout.readMembers]
    rfl
  · simp only [List.cons_append, List.append_assoc, List.nil_append, Layout.read]
    rw [Layout.readObject_of_member (readMember_window rfl _ _),
      Layout.readMembers_comma (readMember_capacity rfl _ _), Layout.readMembers]
    rfl
  · have first : ∀ n ts, Layout.beginElement 0 (.number n :: ts) = .ok (some (.number n :: ts)) :=
      fun _ _ => rfl
    have second : ∀ n ts, Layout.beginElement 1 (.comma :: .number n :: ts) =
      .ok (some (.number n :: ts)) := fun _ _ => rfl
    exact (Layout.readElements_of_element (first _ _) (set_capacity c.capacity)).trans
      (Layout.readElements_of_element (second _ _) (set_window c.window))

/-! ## The characters of a configuration -/

/-- Whether characters are a spelling of a configuration. -/
def SpelledBy (c : AdmissionConfig) (value : List Char) : Prop :=
  ∃ form ∈ c.forms, Spelled form value

/-- Whether a text is a spelling of a configuration as a whole, apart from blanks. -/
def SpelledWhole (c : AdmissionConfig) (s : String) : Prop :=
  ∃ value space, s.toList = value ++ space ∧ c.SpelledBy value ∧ ∀ b ∈ space, b ∈ blanks

theorem parse_eq_ok_iff {s : String} :
    parse s = .ok c ↔ ∃ rest, layout.read (Token.ofString s) = .ok (c, rest) := by
  rw [parse]
  cases read : layout.read (Token.ofString s) with
  | error p => simp
  | ok found =>
      obtain ⟨c', rest⟩ := found
      simp

theorem words_of_spelledBy {value : List Char} (spelled : c.SpelledBy value) (rest : List Char) :
    ∃ form ∈ c.forms,
      Token.scan ((value ++ rest).map some) = form ++ Token.scan (rest.map some) := by
  obtain ⟨form, among, spelled⟩ := spelled
  refine ⟨form, among, ?_⟩
  rw [List.map_append, scan_spelled spelled (delimited_of_mem_forms among)]

/-- A text is accepted if and only if a spelling of the configuration begins it. -/
theorem parse_eq_ok_iff_spelled {s : String} :
    parse s = .ok c ↔ ∃ value rest, s.toList = value ++ rest ∧ c.SpelledBy value := by
  rw [parse_eq_ok_iff, Token.ofString, Glyph.ofText]
  constructor
  · rintro ⟨ts, read⟩
    obtain ⟨form, among, words⟩ := form_of_read read
    obtain ⟨value, tail, spelled, glyphs⟩ := spelled_of_scan (isSpellable_of_mem_forms among) words
    obtain ⟨value', rest, whole, same, -⟩ := List.map_eq_append_iff.mp glyphs
    rw [List.map_inj_right fun _ _ => Option.some.inj] at same
    exact ⟨value', rest, whole, form, among, same ▸ spelled⟩
  · rintro ⟨value, rest, whole, spelled⟩
    obtain ⟨form, among, words⟩ := words_of_spelledBy spelled rest
    rw [whole, words]
    exact ⟨_, read_form among _⟩

/-- What follows the spelling that begins a text is blank if the whole text is one. -/
theorem blank_of_spelledWhole {s : String} (whole : c.SpelledWhole s) {value rest : List Char}
    (begins : s.toList = value ++ rest) (spelled : c.SpelledBy value) : ∀ b ∈ rest, b ∈ blanks := by
  obtain ⟨value', space, ends, spelled', blank⟩ := whole
  obtain ⟨form, among, words⟩ := words_of_spelledBy spelled rest
  obtain ⟨form', among', words'⟩ := words_of_spelledBy spelled' space
  rw [← begins, ends, words', scan_eq_nil_iff.mpr blank, List.append_nil] at words
  exact scan_eq_nil_iff.mp (eq_nil_of_forms among among' words.symm)

theorem spelled_member (name : String) (n : Int) {value : List Char} (spelled : Spelled ts value) :
    Spelled (memberWords name n ++ ts)
      (Written.member name.toList (Written.number n) ++ value) := by
  rw [Written.member, List.append_assoc, List.cons_append]
  exact .next (lexeme_text name) (.mark (by decide) (.next (.integer n) spelled))

/-- A configuration is written as an object without blanks, its capacity first. -/
theorem spelledBy_written (c : AdmissionConfig) : c.SpelledBy c.written := by
  refine ⟨_, .head _, ?_⟩
  simp only [written, Written.object, Written.separated, List.append_assoc, List.cons_append]
  exact .mark (by decide) (spelled_member _ _ (.mark (by decide)
    (spelled_member _ _ (.mark (by decide) .nil))))

/-- A text is accepted if and only if a spelling of the configuration begins it: that of an object
or a list that holds its two numbers and nothing else. To ask for a text that is such a spelling as
a whole, apart from blanks, comes to the same if and only if nothing but blanks follows. What is
accepted is accepted with anything behind it, and so is a configuration that was written. -/
theorem accepted_by_beginning (s : String) (c : AdmissionConfig) :
    (parse s = .ok c ↔ ∃ value rest, s.toList = value ++ rest ∧ c.SpelledBy value) ∧
    ((parse s = .ok c ↔ c.SpelledWhole s) ↔
      ∀ value rest, s.toList = value ++ rest → c.SpelledBy value → ∀ b ∈ rest, b ∈ blanks) ∧
    parse (String.ofList c.written) = .ok c ∧
    ∀ more, parse s = .ok c → parse (s ++ more) = .ok c := by
  refine ⟨parse_eq_ok_iff_spelled, ⟨fun whole value rest begins spelled => ?_, fun blank => ?_⟩,
    ?_, fun more accepted => ?_⟩
  · have accepted := parse_eq_ok_iff_spelled.mpr ⟨value, rest, begins, spelled⟩
    exact blank_of_spelledWhole (whole.mp accepted) begins spelled
  · rw [parse_eq_ok_iff_spelled]
    constructor
    · rintro ⟨value, rest, begins, spelled⟩
      exact ⟨value, rest, begins, spelled, blank value rest begins spelled⟩
    · rintro ⟨value, space, begins, spelled, -⟩
      exact ⟨value, space, begins, spelled⟩
  · refine parse_eq_ok_iff_spelled.mpr ⟨c.written, [], ?_, c.spelledBy_written⟩
    rw [String.toList_ofList, List.append_nil]
  · obtain ⟨value, rest, whole, spelled⟩ := parse_eq_ok_iff_spelled.mp accepted
    refine parse_eq_ok_iff_spelled.mpr ⟨value, rest ++ more.toList, ?_, spelled⟩
    rw [String.toList_append, whole, List.append_assoc]

theorem eq_ok_of_toOption {ε α : Type} {x : Except ε α} {a : α} (found : x.toOption = some a) :
    x = .ok a := by
  cases x with
  | error e => cases found
  | ok b => rw [Option.some.inj found]

/-- A capacity below zero and a window of a minute. -/
def sample : AdmissionConfig := ⟨⟨-1, by decide, by decide⟩, ⟨60000, by decide⟩⟩

/-- The sample with blanks and an escape, and its members in the other order. -/
def spacedOut : String := " \x7b \"window_ms\" : 60000 , \"\\u0063apacity\" : -1 \x7d\n"

theorem spaced_out_accepted_with_more :
    parse spacedOut = .ok sample ∧ parse (spacedOut ++ ", 7") = .ok sample ∧
      parse (String.ofList sample.written) = .ok sample := by
  obtain ⟨-, -, written, more⟩ := accepted_by_beginning spacedOut sample
  have accepted := eq_ok_of_toOption (by decide +kernel : (parse spacedOut).toOption = some sample)
  exact ⟨accepted, more ", 7" accepted, written⟩

/-- One request in each millisecond, with a letter behind it. -/
def trailed : String := "\x7b\"capacity\":1,\"window_ms\":1\x7dx"

/-- The letter is no blank, and yet the text is accepted. -/
theorem accepted_before_letter : ∃ c, parse trailed = .ok c ∧ ¬ c.SpelledWhole trailed := by
  refine ⟨⟨1, ⟨1, by decide⟩⟩, eq_ok_of_toOption (by decide +kernel), ?_⟩
  rintro ⟨value, space, whole, spelled, blank⟩
  obtain ⟨form, among, words⟩ := words_of_spelledBy spelled space
  rw [← whole, scan_eq_nil_iff.mpr blank, List.append_nil] at words
  have counted : (Token.ofString trailed).length = 10 := by decide +kernel
  rw [Token.ofString, Glyph.ofText, words] at counted
  simp only [forms, memberWords, List.mem_cons, List.not_mem_nil, or_false] at among
  obtain rfl | rfl | rfl := among <;> cases counted

end AdmissionConfig

end RequestGuard
