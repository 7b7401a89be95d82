import RequestGuard.Claims
import RequestGuard.Proofs.Json.Record
import RequestGuard.Proofs.Store.Snapshot

/-!
# Claims on the wire

Claims that are written and read again are the same but for their expiry, which has lost its part
of a second, so that a token read back never lives longer than the one that was written.

Claims that are read from any text, be it an object with its members in any order or a list, have
identifiers that stand in the text, are as they must be once their escapes are resolved, and
expire at a whole second. So they come back as they are when they are written and read again.
-/

namespace RequestGuard

/-- What a text must be to name a token or an account. -/
def Nameable (s : String) : Prop :=
  1 ≤ s.utf8ByteSize ∧ s.utf8ByteSize ≤ 128 ∧
    ∀ c ∈ s.toList, isBlank c = false ∧ isControl c = false

theorem Identifier.nameable {kind : IdentifierKind} (i : Identifier kind) : Nameable i.text := by
  have flawless := i.flawless
  rw [identifierFlaw?] at flawless
  split at flawless
  · cases flawless
  · rename_i filled
    split at flawless
    · cases flawless
    · rename_i short
      split at flawless
      · cases flawless
      · rename_i clean
        refine ⟨?_, Nat.not_lt.mp short, fun c member => ?_⟩
        · refine Nat.pos_of_ne_zero fun none => filled ?_
          rw [String.utf8ByteSize_eq_zero_iff.mp none]
          rfl
        · simp only [List.any_eq_true, not_exists, not_and, Bool.not_eq_true,
            Bool.or_eq_false_iff] at clean
          exact clean c member

/-- The moment at which the second of a moment began. -/
def Instant.cutOff (t : Instant) : Instant := .ofSeconds t.seconds

namespace Instant

variable {t now : Instant}

theorem InCalendar.seconds (calendar : t.InCalendar) :
    -377705116800 ≤ t.seconds ∧ t.seconds ≤ 253402300799 := by
  obtain ⟨early, late⟩ := calendar
  simp only [le_iff, earliest, latest, nanosPerSecond] at early late
  simp only [Instant.seconds, nanosPerSecond]
  omega

theorem InCalendar.cutOff (calendar : t.InCalendar) : t.cutOff.InCalendar := by
  have bounds := calendar.seconds
  simp only [InCalendar, le_iff, earliest, latest, Instant.cutOff, ofSeconds, nanosPerSecond]
  omega

theorem cutOff_ofSeconds (n : Int) : (ofSeconds n).cutOff = ofSeconds n := by
  have whole : n * 1000000000 / 1000000000 = n := Int.mul_ediv_cancel n (by decide)
  simp only [cutOff, seconds, ofSeconds, nanosPerSecond, whole]

/-- A moment is rounded down by less than a second. -/
theorem cutOff_bounds (t : Instant) :
    t.cutOff ≤ t ∧ t.nanos < t.cutOff.nanos + nanosPerSecond := by
  simp only [le_iff, cutOff, seconds, ofSeconds, nanosPerSecond]
  omega

end Instant

namespace Claims

def cutOff (c : Claims) : Claims := { c with expiresAt := c.expiresAt.cutOff }

def words (c : Claims) : List Token :=
  [.leftBrace, .text (some "token_id"), .colon, .text (some c.tokenId.text), .comma,
    .text (some "subject"), .colon, .text (some c.subject.text), .comma,
    .text (some "version"), .colon, .number (.integer c.version.number.toNat), .comma,
    .text (some "expires_at"), .colon, .number (.integer c.expiresAt.seconds), .rightBrace]

theorem scan_written (c : Claims) (calendar : c.expiresAt.InCalendar) :
    Token.scan (c.written.map some) = c.words := by
  have fits := c.version.number.upper
  obtain ⟨early, late⟩ := calendar.seconds
  have whole : (c.version.number.toNat : Int) ≤ Numeral.maxWord := by
    simp only [Numeral.maxWord]
    omega
  have upper : c.expiresAt.seconds ≤ Numeral.maxWord := by
    simp only [Numeral.maxWord]
    omega
  have ends : ∀ rest, Numeral.EndsNumber (some ',' :: rest) := by
    rintro rest _ ⟨⟩
    decide
  have closes : Numeral.EndsNumber [some '\x7d'] := by
    rintro _ ⟨⟩
    decide
  simp only [written, Identifier.written, Version.written, Written.object, Written.separated,
    Written.member, List.map_cons, List.map_append, List.append_assoc, List.cons_append,
    List.map_nil]
  rw [Token.scan_leftBrace, Token.scan_text, Token.scan_colon, Token.scan_text, Token.scan_comma,
    Token.scan_text, Token.scan_colon, Token.scan_text, Token.scan_comma, Token.scan_text,
    Token.scan_colon, Token.scan_number (by omega) whole (ends _), Token.scan_comma,
    Token.scan_text, Token.scan_colon, Token.scan_number (by omega) upper closes,
    Token.scan_rightBrace, Token.scan_nil]
  simp only [String.ofList_toList]
  rfl

theorem toIdentifier_text {kind : IdentifierKind} (i : Identifier kind) :
    (Token.text (some i.text)).toIdentifier kind = .ok i := by
  simp only [Token.toIdentifier, Token.toText, Identifier.ofString_text]

theorem ofToken_number (v : Version) :
    Version.ofToken (.number (.integer v.number.toNat)) = .ok v := by
  have read : (Token.number (.integer v.number.toNat)).toUnsigned = .ok v.number :=
    Token.toUnsigned_eq_ok_iff.mpr rfl
  simp only [Version.ofToken, read]

theorem toInstant_seconds {t : Instant} (calendar : t.InCalendar) :
    (Token.number (.integer t.seconds)).toInstant = .ok t.cutOff := by
  obtain ⟨early, late⟩ := calendar.seconds
  have read : (Token.number (.integer t.seconds)).toSigned =
      .ok ⟨t.seconds, by omega, by omega⟩ := Token.toSigned_eq_ok_iff.mpr rfl
  have cut : (Instant.ofSeconds t.seconds).InCalendar := calendar.cutOff
  simp only [Token.toInstant, read, if_pos cut]
  rfl

/-- Claims are read from their words, one member after the other. -/
theorem readWhole_words (c : Claims) (calendar : c.expiresAt.InCalendar) :
    layout.readWhole c.words = .ok c.cutOff := by
  have tokenId : ∀ rest, layout.readMember layout.draft (.text (some "token_id") :: .colon ::
      .text (some c.tokenId.text) :: rest) = .ok (⟨some c.tokenId, none, none, none⟩, rest) :=
    Layout.readMember_known rfl rfl (by simp only [toIdentifier_text]; rfl)
  have subject : ∀ rest, layout.readMember ⟨some c.tokenId, none, none, none⟩
      (.text (some "subject") :: .colon :: .text (some c.subject.text) :: rest) =
        .ok (⟨some c.tokenId, some c.subject, none, none⟩, rest) :=
    Layout.readMember_known rfl rfl (by simp only [toIdentifier_text]; rfl)
  have version : ∀ rest, layout.readMember ⟨some c.tokenId, some c.subject, none, none⟩
      (.text (some "version") :: .colon :: .number (.integer c.version.number.toNat) :: rest) =
        .ok (⟨some c.tokenId, some c.subject, some c.version, none⟩, rest) :=
    Layout.readMember_known rfl rfl (by simp only [ofToken_number]; rfl)
  have expiresAt : ∀ rest, layout.readMember ⟨some c.tokenId, some c.subject, some c.version, none⟩
      (.text (some "expires_at") :: .colon :: .number (.integer c.expiresAt.seconds) :: rest) =
        .ok (⟨some c.tokenId, some c.subject, some c.version, some c.expiresAt.cutOff⟩, rest) :=
    Layout.readMember_known rfl rfl (by simp only [toInstant_seconds calendar]; rfl)
  have read : layout.read c.words = .ok (c.cutOff, []) := by
    simp only [words, Layout.read, Layout.readObject, tokenId]
    rw [Layout.readMembers_comma (subject _), Layout.readMembers_comma (version _),
      Layout.readMembers_comma (expiresAt _), Layout.readMembers]
    rfl
  rw [Layout.readWhole, read]
  rfl

theorem parse_written (c : Claims) (calendar : c.expiresAt.InCalendar) :
    parse (String.ofList c.written) = .ok c.cutOff := by
  rw [parse, Token.ofString, Glyph.ofText, String.toList_ofList, scan_written c calendar,
    readWhole_words c calendar]

/-- Cut off, a token lives less than a second shorter, and never longer. -/
theorem remaining?_cutOff (c : Claims) (now : Instant) :
    (c.cutOff.remaining? now = none ∧
      ∀ ttl, c.remaining? now = some ttl → ttl.nanos < nanosPerSecond) ∨
    ∃ ttl' ttl, c.cutOff.remaining? now = some ttl' ∧ c.remaining? now = some ttl ∧
      ttl'.nanos ≤ ttl.nanos ∧ ttl.nanos < ttl'.nanos + nanosPerSecond := by
  obtain ⟨down, near⟩ := c.expiresAt.cutOff_bounds
  by_cases early : now < c.expiresAt.cutOff
  · have early' : now < c.expiresAt := Instant.lt_of_lt_of_le early down
    refine .inr ⟨_, _, (c.cutOff.remaining?_eq_some_iff now _).mpr ⟨early, rfl⟩,
      (c.remaining?_eq_some_iff now _).mpr ⟨early', rfl⟩, ?_⟩
    simp only [Instant.le_iff, Instant.since, cutOff] at down near ⊢
    omega
  · have late := Instant.not_lt.mp early
    refine .inl ⟨(c.cutOff.remaining?_eq_none_iff now).mpr late, fun ttl lives => ?_⟩
    obtain ⟨_, rfl⟩ := (c.remaining?_eq_some_iff now ttl).mp lives
    simp only [Instant.le_iff, Instant.since] at late near ⊢
    omega

theorem text_of_toIdentifier {kind : IdentifierKind} {t : Token} {i : Identifier kind}
    (read : t.toIdentifier kind = .ok i) : t = .text (some i.text) := by
  rw [Token.toIdentifier] at read
  split at read
  · cases read
  · rename_i s told
    split at read
    · rename_i named
      cases read
      rw [Token.toText.eq_def] at told
      split at told
      · cases told
        rw [Identifier.ofString] at named
        split at named
        · cases named
          rfl
        · cases named
      · cases told
    · cases read

theorem whole_of_toInstant {t : Token} {m : Instant} (read : t.toInstant = .ok m) :
    m.InCalendar ∧ m.cutOff = m := by
  rw [Token.toInstant] at read
  split at read
  · cases read
  · split at read
    · rename_i calendar
      cases read
      exact ⟨calendar, Instant.cutOff_ofSeconds _⟩
    · cases read

/-- What has been read of claims comes from the words of the text. The expiry is a whole
second. -/
structure Draft.Drawn (words : List Token) (d : Draft) : Prop where
  tokenId : ∀ i, d.tokenId = some i → .text (some i.text) ∈ words
  subject : ∀ i, d.subject = some i → .text (some i.text) ∈ words
  expiresAt : ∀ t, d.expiresAt = some t → t.InCalendar ∧ t.cutOff = t

/-- The identifiers of claims are texts among the words, and the expiry is a whole second. -/
structure Drawn (words : List Token) (c : Claims) : Prop where
  tokenId : .text (some c.tokenId.text) ∈ words
  subject : .text (some c.subject.text) ∈ words
  expiresAt : c.expiresAt.InCalendar ∧ c.expiresAt.cutOff = c.expiresAt

theorem layout_draws (words : List Token) :
    layout.Draws words (Draft.Drawn words) (Drawn words) where
  start := ⟨nofun, nofun, nofun⟩
  keep := by
    intro f known t word update set d drawn
    simp only [layout, List.mem_cons, List.not_mem_nil, or_false] at known
    obtain rfl | rfl | rfl | rfl := known
    · obtain ⟨i, read, rfl⟩ := Layout.eq_ok_of_map set
      refine ⟨?_, drawn.subject, drawn.expiresAt⟩
      rintro _ ⟨⟩
      exact text_of_toIdentifier read ▸ word
    · obtain ⟨i, read, rfl⟩ := Layout.eq_ok_of_map set
      refine ⟨drawn.tokenId, ?_, drawn.expiresAt⟩
      rintro _ ⟨⟩
      exact text_of_toIdentifier read ▸ word
    · obtain ⟨v, -, rfl⟩ := Layout.eq_ok_of_map set
      exact ⟨drawn.tokenId, drawn.subject, drawn.expiresAt⟩
    · obtain ⟨m, read, rfl⟩ := Layout.eq_ok_of_map set
      refine ⟨drawn.tokenId, drawn.subject, ?_⟩
      rintro _ ⟨⟩
      exact whole_of_toInstant read
  finish := by
    intro d c drawn finished
    obtain ⟨tokenId, subject, version, expiresAt⟩ := d
    simp only [layout] at finished
    split at finished
    · cases finished
    · cases finished
    · cases finished
    · cases finished
    · cases finished
      exact ⟨drawn.tokenId _ rfl, drawn.subject _ rfl, drawn.expiresAt _ rfl⟩

theorem drawn_of_parse {s : String} {c : Claims} (parsed : parse s = .ok c) :
    Drawn (Token.ofString s) c := by
  rw [parse, Layout.readWhole] at parsed
  split at parsed
  · cases parsed
  · rename_i read
    split at parsed
    · cases parsed
      exact (layout_draws _).read (List.Subset.refl _) read
    · cases parsed

/-- Claims survive the wire. Written and read again, they are the same, with the expiry rounded
down to the second, so the token lives at most as long as before, and less than a second shorter.
And whatever text is read as claims, its identifiers stand in the text and are fit to name a token
and an account once their escapes are resolved, and the claims are the same when they are written
and read again. -/
theorem survive_wire :
    (∀ c : Claims, c.expiresAt.InCalendar →
      ∃ c', parse (String.ofList c.written) = .ok c' ∧
        c'.tokenId = c.tokenId ∧ c'.subject = c.subject ∧ c'.version = c.version ∧
        c'.expiresAt = .ofSeconds (c.expiresAt.nanos / nanosPerSecond) ∧
        ∀ now, (c'.remaining? now = none ∧
            ∀ ttl, c.remaining? now = some ttl → ttl.nanos < nanosPerSecond) ∨
          ∃ ttl' ttl, c'.remaining? now = some ttl' ∧ c.remaining? now = some ttl ∧
            ttl'.nanos ≤ ttl.nanos ∧ ttl.nanos < ttl'.nanos + nanosPerSecond) ∧
    ∀ s c, parse s = .ok c →
      (.text (some c.tokenId.text) ∈ Token.ofString s ∧ Nameable c.tokenId.text) ∧
      (.text (some c.subject.text) ∈ Token.ofString s ∧ Nameable c.subject.text) ∧
      parse (String.ofList c.written) = .ok c := by
  refine ⟨fun c calendar => ?_, fun s c parsed => ?_⟩
  · exact ⟨c.cutOff, parse_written c calendar, rfl, rfl, rfl, rfl, c.remaining?_cutOff⟩
  · obtain ⟨tokenId, subject, calendar, whole⟩ := drawn_of_parse parsed
    refine ⟨⟨tokenId, c.tokenId.nameable⟩, ⟨subject, c.subject.nameable⟩, ?_⟩
    rw [parse_written c calendar, cutOff, whole]

/-- Claims with characters that are escaped and that take several bytes, the last version, and
an expiry a second and a half before 1970. -/
def oddClaims : Claims :=
  ⟨⟨"a\"b\\c", by decide +kernel⟩, ⟨"é𝄞", by decide +kernel⟩, ⟨.max⟩, ⟨-1500000000⟩⟩

/-- Claims as a list, with escapes in the identifiers. -/
def listedClaims : String := "[\"t\\u006fk\\u0022en\", \"acc\\/ount\", 0, -2]"

/-- The odd claims come back with an expiry of two seconds before 1970, and so do the listed ones,
which have the same. -/
theorem odd_claims_survive :
    (∃ c, parse (String.ofList oddClaims.written) = .ok c ∧ c.tokenId = oddClaims.tokenId ∧
      c.subject = oddClaims.subject ∧ c.version = oddClaims.version ∧
      c.expiresAt = .ofSeconds (-2)) ∧
    ∃ c, parse listedClaims = .ok c ∧ c.expiresAt = .ofSeconds (-2) ∧
      .text (some c.tokenId.text) ∈ Token.ofString listedClaims ∧ Nameable c.tokenId.text ∧
      parse (String.ofList c.written) = .ok c := by
  obtain ⟨written, readAgain⟩ := survive_wire
  obtain ⟨c, parsed, tokenId, subject, version, expiresAt, -⟩ := written oddClaims (by decide)
  have listed : (parse listedClaims).toOption.map (·.expiresAt) = some (.ofSeconds (-2)) := by
    decide +kernel
  cases read : parse listedClaims with
  | error p =>
      rw [read] at listed
      cases listed
  | ok c' =>
      rw [read] at listed
      obtain ⟨⟨among, nameable⟩, -, again⟩ := readAgain _ c' read
      exact ⟨⟨c, parsed, tokenId, subject, version, expiresAt⟩,
        c', rfl, Option.some.inj listed, among, nameable, again⟩

end Claims

end RequestGuard
