import RequestGuard.Proofs.Json.Record
import RequestGuard.Proofs.Json.Written
import RequestGuard.Proofs.Table
import RequestGuard.Proofs.Time.Stamp
import RequestGuard.Store.Snapshot

/-!
# Reading snapshots back

A snapshot that was written is read back as the entries that it was made of, in the order
in which they stood: whatever their keys and values, and with the very moments and offsets
of their expiries.
-/

namespace RequestGuard

namespace Written

theorem separated_cons (m : List Char) (ms : List (List Char)) :
    separated (m :: ms) = m ++ ms.flatMap (',' :: ·) := by
  induction ms generalizing m with
  | nil => rw [separated, List.flatMap_nil, List.append_nil]
  | cons m' ms ih =>
      rw [separated, ih, List.flatMap_cons]
      · rfl
      · exact List.cons_ne_nil _ _

end Written

namespace Entry

/-- The words of an entry that was written. -/
theorem scan_written {e : Entry} {text : List Char} (h : e.written? = some text)
    (rest : List Glyph) : ∃ stamp, Stamp.parse? stamp = some e.expiresAt ∧
      Token.scan (text.map some ++ rest) =
        .leftBrace :: .text (some "value") :: .colon :: .number (.integer e.value.toInt) ::
          .comma :: .text (some "expires_at") :: .colon :: .text (some (String.ofList stamp)) ::
          .rightBrace :: Token.scan rest := by
  unfold written? at h
  cases rendered : e.expiresAt.render? with
  | none =>
      rw [rendered] at h
      cases h
  | some stamp =>
      rw [rendered] at h
      cases h
      refine ⟨stamp, Stamp.parse?_render? rendered, ?_⟩
      have lower := e.value.lower
      have upper : e.value.toInt ≤ Numeral.maxWord := by
        have := e.value.upper
        simp only [Numeral.maxWord]
        omega
      have ends : Numeral.EndsNumber (some ',' :: ((Written.text "expires_at".toList).map some ++
          some ':' :: ((Written.text stamp).map some ++ some '\x7d' :: rest))) := by
        rintro _ ⟨⟩
        decide
      simp only [Written.object, Written.separated, Written.member, List.map_cons,
        List.map_append, List.append_assoc, List.cons_append, List.map_nil, List.nil_append]
      rw [Token.scan_leftBrace, Token.scan_text, Token.scan_colon,
        Token.scan_number lower upper ends, Token.scan_comma, Token.scan_text,
        Token.scan_colon, Token.scan_text, Token.scan_rightBrace, String.ofList_toList,
        String.ofList_toList]

/-- An entry is read from its words. -/
theorem read_words {e : Entry} {stamp : List Char} (h : Stamp.parse? stamp = some e.expiresAt)
    (rest : List Token) :
    layout.read (.leftBrace :: .text (some "value") :: .colon ::
        .number (.integer e.value.toInt) :: .comma :: .text (some "expires_at") :: .colon ::
        .text (some (String.ofList stamp)) :: .rightBrace :: rest) = .ok (e, rest) := by
  have value : (Token.number (.integer e.value.toInt)).toSigned = .ok e.value :=
    Token.toSigned_eq_ok_iff.mpr rfl
  have expiresAt : (Token.text (some (String.ofList stamp))).toStamp = .ok e.expiresAt := by
    simp only [Token.toStamp, String.toList_ofList, h]
  have first : ∀ more, layout.readMember layout.draft (.text (some "value") :: .colon ::
      .number (.integer e.value.toInt) :: more) = .ok (⟨some e.value, none⟩, more) := by
    refine Layout.readMember_known rfl rfl ?_
    simp only [value]
    rfl
  have second : ∀ more, layout.readMember ⟨some e.value, none⟩ (.text (some "expires_at") ::
      .colon :: .text (some (String.ofList stamp)) :: more) =
        .ok (⟨some e.value, some e.expiresAt⟩, more) := by
    refine Layout.readMember_known rfl rfl ?_
    simp only [expiresAt]
    rfl
  simp only [Layout.read, Layout.readObject, first]
  rw [Layout.readMembers_comma (second _), Layout.readMembers]
  rfl

/-- An entry that was written is read back. -/
theorem read_written {e : Entry} {text : List Char} (h : e.written? = some text)
    (rest : List Glyph) :
    layout.read (Token.scan (text.map some ++ rest)) = .ok (e, Token.scan rest) := by
  obtain ⟨stamp, moment, words⟩ := scan_written h rest
  rw [words, read_words moment]

end Entry

namespace Entries

/-- The expiries of all entries have a text. -/
def Writable (es : Entries) : Prop :=
  ∀ key e, es.get? key = some e → (e.expiresAt.render?).isSome

end Entries

namespace Snapshot

variable {b : String × Entry} {m : List Char}

theorem readMember_written (h : member? b = some m) (es : Entries) (rest : List Glyph) :
    readMember es (Token.scan (m.map some ++ rest)) = .ok (es.insert b.1 b.2, Token.scan rest) := by
  obtain ⟨key, e⟩ := b
  unfold member? at h
  cases written : e.written? with
  | none =>
      rw [written] at h
      cases h
  | some text =>
      rw [written] at h
      cases h
      simp only [Written.member, List.map_append, List.map_cons, List.append_assoc,
        List.cons_append]
      rw [Token.scan_text, Token.scan_colon, String.ofList_toList]
      simp only [readMember, Layout.readColon, Entry.read_written written]

theorem readMembers_comma {es es' : Entries} {ts rest : List Token}
    (h : readMember es ts = .ok (es', rest)) :
    readMembers es (.comma :: ts) = readMembers es' rest := by
  rw [readMembers]
  split
  · rename_i failed
    rw [h] at failed
    cases failed
  · rename_i found
    rw [h] at found
    cases found
    rfl

theorem read_leftBrace {es : Entries} {ts rest : List Token}
    (h : readMember .empty ts = .ok (es, rest)) :
    read (.leftBrace :: ts) = readMembers es rest := by
  unfold read
  split
  · rename_i empty
    cases empty
  · rename_i empty
    cases empty
    cases h
  · rename_i same
    cases same
    rw [h]
  · rename_i other same
    cases same
    exact (other rfl).elim

/-- Members that were written are read back, one after the other. -/
theorem readMembers_written {bs : List (String × Entry)} {ms : List (List Char)}
    (h : bs.mapM member? = some ms) (es : Entries) :
    readMembers es (Token.scan ((ms.flatMap (',' :: ·)).map some ++ [some '\x7d'])) =
      .ok (bs.foldl (fun es b => es.insert b.1 b.2) es, []) := by
  induction bs generalizing ms es with
  | nil =>
      simp only [List.mapM_nil, Option.pure_def, Option.some.injEq] at h
      subst h
      rw [List.flatMap_nil, List.map_nil, List.nil_append, Token.scan_rightBrace, Token.scan_nil,
        readMembers]
      rfl
  | cons b bs ih =>
      simp only [List.mapM_cons, Option.bind_eq_bind, Option.bind_eq_some_iff, Option.pure_def,
        Option.some.injEq] at h
      obtain ⟨m, first, ms, rest, rfl⟩ := h
      simp only [List.flatMap_cons, List.cons_append, List.map_cons, List.map_append,
        List.append_assoc]
      rw [Token.scan_comma, readMembers_comma (readMember_written first es _), ih rest]
      rfl

/-- A snapshot that was written is read back. -/
theorem parse_written? {es : Entries} {text : List Char} (h : written? es = some text) :
    parse (text.map some) = .ok es := by
  unfold written? at h
  rw [← es.ofList_bindings]
  cases written : es.bindings.mapM member? with
  | none =>
      rw [written] at h
      cases h
  | some ms =>
      rw [written] at h
      cases h
      generalize es.bindings = bs at written
      cases bs with
      | nil =>
          simp only [List.mapM_nil, Option.pure_def, Option.some.injEq] at written
          subst written
          have words : Token.scan ((Written.object []).map some) = [.leftBrace, .rightBrace] := by
            rw [show (Written.object []).map some = [some '\x7b', some '\x7d'] from rfl,
              Token.scan_leftBrace, Token.scan_rightBrace, Token.scan_nil]
          rw [parse, words]
          rfl
      | cons b bs =>
          simp only [List.mapM_cons, Option.bind_eq_bind, Option.bind_eq_some_iff,
            Option.pure_def, Option.some.injEq] at written
          obtain ⟨m, first, ms, rest, rfl⟩ := written
          have split : (Written.object (m :: ms)).map some = some '\x7b' ::
              (m.map some ++ ((ms.flatMap (',' :: ·)).map some ++ [some '\x7d'])) := by
            simp [Written.object, Written.separated_cons]
          have found : read (Token.scan ((Written.object (m :: ms)).map some)) =
              .ok (Table.ofList (b :: bs), []) := by
            rw [split, Token.scan_leftBrace, read_leftBrace (readMember_written first _ _),
              readMembers_written rest]
            rfl
          rw [parse, found, split]
          rfl

private theorem mapM_member? {bs : List (String × Entry)}
    (h : ∀ b ∈ bs, (b.2.expiresAt.render?).isSome) : (bs.mapM member?).isSome := by
  induction bs with
  | nil => rfl
  | cons b bs ih =>
      obtain ⟨text, written⟩ := Option.isSome_iff_exists.mp (h b List.mem_cons_self)
      obtain ⟨rest, others⟩ :=
        Option.isSome_iff_exists.mp (ih fun b' member => h b' (List.mem_cons_of_mem _ member))
      simp [List.mapM_cons, member?, Entry.written?, written, others]

/-- Entries can be written if their expiries can. -/
theorem written?_isSome {es : Entries} (h : es.Writable) : (written? es).isSome := by
  rw [written?, Option.isSome_map]
  exact mapM_member? fun b member => h b.1 b.2 (Table.get?_of_mem member)

end Snapshot

end RequestGuard
