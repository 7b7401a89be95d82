import RequestGuard.Proofs.Json.Record
import RequestGuard.Proofs.Store.Alike
import RequestGuard.Proofs.Text.Glyph

/-!
# Round trips of snapshots

Entries whose expiries fall into the years 0 to 9999 come back from their snapshot as they
were. The entries that are read from a snapshot are always such, in whatever form the text of
the snapshot was: no time stamp is read that could not be written. Hence they come back too.
-/

namespace RequestGuard

theorem Token.render?_of_toStamp {t : Token} {s : Stamp} (h : t.toStamp = .ok s) :
    (s.render?).isSome := by
  unfold Token.toStamp at h
  split at h
  · split at h
    · rename_i parsed
      cases h
      exact Stamp.render?_of_parse? parsed
    · cases h
  · cases h

namespace Entry

/-- The expiry of a draft, if it has been read, has a text. -/
def Draft.Writable (d : Draft) : Prop := ∀ s, d.expiresAt = some s → (s.render?).isSome

theorem layout_ensures_writable :
    layout.Ensures Draft.Writable fun e => (e.expiresAt.render?).isSome where
  start := by
    intro s unread
    cases unread
  keep := by
    intro f known t update set d writable
    simp only [layout, List.mem_cons, List.not_mem_nil, or_false] at known
    obtain rfl | rfl := known
    · cases read : t.toSigned with
      | error p =>
          simp only [read] at set
          cases set
      | ok value =>
          simp only [read] at set
          cases set
          exact writable
    · cases read : t.toStamp with
      | error p =>
          simp only [read] at set
          cases set
      | ok stamp =>
          simp only [read] at set
          cases set
          rintro s ⟨⟩
          exact Token.render?_of_toStamp read
  finish := by
    intro d e writable finished
    obtain ⟨value, expiresAt⟩ := d
    simp only [layout] at finished
    split at finished
    · cases finished
    · cases finished
    · cases finished
      exact writable _ rfl

end Entry

namespace Snapshot

variable {es es' : Entries} {ts rest : List Token}

theorem readMember_writable (writable : es.Writable) (h : readMember es ts = .ok (es', rest)) :
    es'.Writable := by
  unfold readMember at h
  split at h
  · cases h
  · split at h
    · cases h
    · split at h
      · cases h
      · rename_i found
        cases h
        exact writable.insert _ (Entry.layout_ensures_writable.read found)
  · cases h
  · cases h

theorem readMembers_writable (writable : es.Writable) (h : readMembers es ts = .ok (es', rest)) :
    es'.Writable := by
  fun_induction readMembers es ts with
  | case1 => cases h
  | case2 =>
      cases h
      exact writable
  | case3 => cases h
  | case4 es _ _ _ member ih => exact ih (readMember_writable writable member) h
  | case5 => cases h

theorem read_writable (h : read ts = .ok (es, rest)) : es.Writable := by
  unfold read at h
  split at h
  · cases h
  · cases h
    exact .empty
  · split at h
    · cases h
    · rename_i member
      exact readMembers_writable (readMember_writable .empty member) h
  · cases h

/-- The entries of a snapshot can be written again. -/
theorem parse_writable {contents : List Glyph} (h : parse contents = .ok es) : es.Writable := by
  unfold parse at h
  split at h
  · cases h
    exact .empty
  · split at h
    · cases h
    · rename_i found
      split at h
      · cases h
        exact read_writable found
      · cases h

/-- Entries that can be written are read back from the bytes of their snapshot. -/
theorem parse_encode (writable : es.Writable) :
    ∃ text, written? es = some text ∧ parse (Glyph.ofBytes (Glyph.encode text)) = .ok es := by
  obtain ⟨text, written⟩ := Option.isSome_iff_exists.mp (written?_isSome writable)
  refine ⟨text, written, ?_⟩
  rw [Glyph.ofBytes_encode]
  exact parse_written? written

/-- Whatever their keys and values, entries that expire in the years 0 to 9999 of their offsets
are written as a snapshot from which the same entries are read. So are the entries that were
read from a snapshot, which need not have been written here. -/
theorem round_trip :
    (∀ es : Entries,
      (∀ key e, es.get? key = some e → 0 ≤ e.expiresAt.year ∧ e.expiresAt.year ≤ 9999) →
      ∃ text, written? es = some text ∧ parse (Glyph.ofBytes (Glyph.encode text)) = .ok es) ∧
    ∀ contents es, parse contents = .ok es →
      ∃ text, written? es = some text ∧ parse (Glyph.ofBytes (Glyph.encode text)) = .ok es := by
  constructor
  · intro es years
    apply parse_encode
    intro key e got
    exact Stamp.render?_isSome_iff.mpr (years key e got)
  · intro contents es read
    exact parse_encode (parse_writable read)

/-- An entry with the least value, in the first year that has four digits and as far behind UTC
as an offset can be, under a key that needs escapes. -/
def oddEntries : Entries := Table.empty.insert "\x00\"\\\u2028𝄞"
  ⟨⟨-9223372036854775808, by decide, by decide⟩,
    ⟨⟨-62167132739999999990⟩, ⟨-1439, by decide, by decide⟩⟩⟩

/-- A snapshot that no store writes: a key twice, an entry as a list, an unknown member, a leap
second and a fraction of ten digits. -/
def oddSnapshot : String :=
  "\x7b\"k\":\x7b\"x\":[],\"expires_at\":\"0000-01-01T00:00:00.5000000009+23:59\"," ++
  "\"value\":-1\x7d,\"k\":[1,\"2016-12-31t23:59:60Z\"]\x7d"

/-- The odd entries come back, and so do those of the odd snapshot. -/
theorem round_trip_odd :
    (∃ text, written? oddEntries = some text ∧
      parse (Glyph.ofBytes (Glyph.encode text)) = .ok oddEntries) ∧
    ∃ es, parse (Glyph.ofText oddSnapshot) = .ok es ∧ ∃ text, written? es = some text ∧
      parse (Glyph.ofBytes (Glyph.encode text)) = .ok es := by
  have years : ∀ key e, oddEntries.get? key = some e →
      0 ≤ e.expiresAt.year ∧ e.expiresAt.year ≤ 9999 := by
    intro key e got
    rw [oddEntries, Table.get?_insert] at got
    split at got
    · cases got
      decide
    · cases got
  have loads : (parse (Glyph.ofText oddSnapshot)).isOk = true := by decide +kernel
  cases read : parse (Glyph.ofText oddSnapshot) with
  | error p =>
      rw [read] at loads
      cases loads
  | ok es => exact ⟨round_trip.1 oddEntries years, es, rfl, round_trip.2 _ es read⟩

end Snapshot

end RequestGuard
