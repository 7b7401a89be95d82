import RequestGuard.Json.Record

/-!
# What holds of every record read

A record comes from its draft, and the draft from the words of the text by way of the fields
only. Whatever holds of the draft at the start and is kept by setting each field holds of the
draft at the end, and so a property of the record follows for every text: an object with its
members in any order, unknown ones among them, or a list.

The property may be about the words of the text: what is left of them after each part that is
read are words of the text still. A property that is not is kept for any words.

Of a strict record without defaults more can be said: what was read tells the words themselves.
A number that was read does so for itself.
-/

namespace RequestGuard

namespace Token

variable {t : Token}

theorem toInteger_eq_ok_iff {α : Type} {ofInt? : Int → Option α} {expected : String} {a : α} :
    t.toInteger ofInt? expected = .ok a ↔
      ∃ n, t = .number (.integer n) ∧ ofInt? n = some a := by
  constructor
  · intro read
    rw [toInteger.eq_def] at read
    split at read
    · rename_i n
      split at read
      · rename_i fits
        cases read
        exact ⟨n, rfl, fits⟩
      · cases read
    · cases read
  · rintro ⟨n, rfl, fits⟩
    simp only [toInteger, fits]

theorem toSigned_eq_ok_iff {v : SignedWord} :
    t.toSigned = .ok v ↔ t = .number (.integer v.toInt) := by
  rw [toSigned, toInteger_eq_ok_iff]
  constructor
  · rintro ⟨n, rfl, fits⟩
    rw [SignedWord.ofInt?] at fits
    split at fits
    · cases fits
      rfl
    · cases fits
  · rintro rfl
    exact ⟨_, rfl, v.ofInt?_toInt⟩

theorem toUnsigned_eq_ok_iff {w : Word} :
    t.toUnsigned = .ok w ↔ t = .number (.integer w.toNat) := by
  rw [toUnsigned, toInteger_eq_ok_iff]
  constructor
  · rintro ⟨n, rfl, fits⟩
    split at fits
    · rename_i natural
      rw [Word.ofNat?] at fits
      split at fits
      · cases fits
        rw [Int.toNat_of_nonneg natural]
      · cases fits
    · cases fits
  · rintro rfl
    refine ⟨_, rfl, ?_⟩
    rw [if_pos (Int.natCast_nonneg _), Int.toNat_natCast, Word.ofNat?_toNat]

end Token

theorem Passage.subset_of_run {s : Passage.State} {ts rest : List Token}
    (passed : Passage.run s ts = .ok rest) : rest ⊆ ts := by
  induction ts generalizing s with
  | nil => cases passed
  | cons t ts ih =>
      simp only [run] at passed
      split at passed
      · cases passed
      · cases passed
        exact List.subset_cons_self t _
      · exact List.subset_cons_of_subset t (ih passed)

namespace Layout

variable {σ α : Type}

/-- A property of drafts that holds at the start and is kept by each field that is set to one of
the words, and a property of records that it implies at the end. -/
structure Draws (l : Layout σ α) (words : List Token) (partly : σ → Prop) (whole : α → Prop) :
    Prop where
  start : partly l.draft
  keep : ∀ f ∈ l.fields, ∀ t ∈ words, ∀ update, f.set t = .ok update →
    ∀ d, partly d → partly (update d)
  finish : ∀ d a, partly d → l.finish d = .ok a → whole a

/-- A property of drafts that holds at the start and is kept by each field, and a property of
records that it implies at the end. -/
structure Ensures (l : Layout σ α) (partly : σ → Prop) (whole : α → Prop) : Prop where
  start : partly l.draft
  keep : ∀ f ∈ l.fields, ∀ t update, f.set t = .ok update → ∀ d, partly d → partly (update d)
  finish : ∀ d a, partly d → l.finish d = .ok a → whole a

variable {l : Layout σ α} {draft draft' : σ} {ts rest : List Token} {a : α}

theorem eq_ok_of_map {α β : Type} {x : Except Problem α} {f : α → β} {b : β}
    (mapped : x.map f = .ok b) : ∃ a, x = .ok a ∧ b = f a := by
  cases x with
  | error p => cases mapped
  | ok a => exact ⟨a, rfl, (Except.ok.inj mapped).symm⟩

/-- A member of a known name that did not come before sets its field. -/
theorem readMember_known {name : String} {f : Field σ} {t : Token}
    (known : l.field? name = some f) (unset : f.isSet draft = false)
    (set : (f.set t).map (· draft) = .ok draft') (rest : List Token) :
    l.readMember draft (.text (some name) :: .colon :: t :: rest) = .ok (draft', rest) := by
  rw [readMember, readValue, known]
  simp only [unset, readColon, Bool.false_eq_true, if_false]
  cases done : f.set t with
  | error p =>
      rw [done] at set
      cases set
  | ok update =>
      rw [done] at set
      cases set
      rfl

theorem readMembers_comma (h : l.readMember draft ts = .ok (draft', rest)) :
    l.readMembers draft (.comma :: ts) = l.readMembers draft' rest := by
  rw [readMembers]
  split
  · rename_i failed
    rw [h] at failed
    cases failed
  · rename_i found
    rw [h] at found
    cases found
    rfl

theorem finish_of_complete (done : l.complete draft = .ok a) : l.finish draft = .ok a := by
  rw [complete] at done
  split at done
  · cases done
    assumption
  · cases done

theorem cons_of_readColon (read : readColon ts = .ok rest) : ts = .colon :: rest := by
  rw [readColon.eq_def] at read
  split at read
  · cases read
  · cases read
    rfl
  · cases read

theorem rightBracket_of_endList (read : l.endList draft ts = .ok (a, rest)) :
    ts = .rightBracket :: rest ∧ l.finish draft = .ok a := by
  rw [endList.eq_def] at read
  split at read
  · cases read
  · split at read
    · cases read
    · rename_i done
      cases read
      exact ⟨rfl, finish_of_complete done⟩
  · cases read

theorem subset_of_readColon (read : readColon ts = .ok rest) : rest ⊆ ts := by
  rw [cons_of_readColon read]
  exact List.subset_cons_self _ _

theorem subset_of_beginElement {index : Nat} (begun : beginElement index ts = .ok (some rest)) :
    rest ⊆ ts := by
  rw [beginElement.eq_def] at begun
  split at begun
  · cases begun
  · cases begun
  · split at begun
    · cases begun
      exact List.Subset.refl _
    · split at begun
      · split at begun
        · cases begun
        · cases begun
          exact List.subset_cons_self _ _
      · cases begun

namespace Draws

variable {words : List Token} {partly : σ → Prop} {whole : α → Prop}

theorem complete (h : l.Draws words partly whole) (part : partly draft)
    (done : l.complete draft = .ok a) : whole a :=
  h.finish draft a part (finish_of_complete done)

theorem readValue (h : l.Draws words partly whole) {name : String} (part : partly draft)
    (among : ts ⊆ words) (read : l.readValue draft name ts = .ok (draft', rest)) :
    partly draft' ∧ rest ⊆ words := by
  rw [Layout.readValue] at read
  split at read
  · rename_i f found
    split at read
    · cases read
    · split at read
      · cases read
      · cases read
      · rename_i t _ colon
        obtain ⟨word, left⟩ :=
          List.cons_subset.mp (List.Subset.trans (subset_of_readColon colon) among)
        split at read
        · cases read
        · rename_i update set
          cases read
          exact ⟨h.keep f (List.mem_of_find?_eq_some found) t word update set draft part, left⟩
  · split at read
    · cases read
    · split at read
      · cases read
      · rename_i colon
        split at read
        · cases read
        · rename_i passed
          cases read
          exact ⟨part, List.Subset.trans (Passage.subset_of_run passed)
            (List.Subset.trans (subset_of_readColon colon) among)⟩

theorem readMember (h : l.Draws words partly whole) (part : partly draft) (among : ts ⊆ words)
    (read : l.readMember draft ts = .ok (draft', rest)) : partly draft' ∧ rest ⊆ words := by
  rw [Layout.readMember.eq_def] at read
  split at read
  · cases read
  · exact h.readValue part (List.cons_subset.mp among).2 read
  · cases read
  · cases read

theorem readMembers (h : l.Draws words partly whole) (part : partly draft) (among : ts ⊆ words)
    (read : l.readMembers draft ts = .ok (a, rest)) : whole a := by
  fun_induction Layout.readMembers l draft ts with
  | case1 => cases read
  | case2 => cases read
  | case3 draft _ _ completed =>
      cases read
      exact h.complete part completed
  | case4 => cases read
  | case5 draft _ _ _ member ih =>
      obtain ⟨part', left⟩ := h.readMember part (List.cons_subset.mp among).2 member
      exact ih part' left read
  | case6 => cases read

theorem readObject (h : l.Draws words partly whole) (among : ts ⊆ words)
    (read : l.readObject ts = .ok (a, rest)) : whole a := by
  rw [Layout.readObject.eq_def] at read
  split at read
  · cases read
  · exact h.readMembers h.start among read
  · split at read
    · cases read
    · rename_i member
      obtain ⟨part, left⟩ := h.readMember h.start among member
      exact h.readMembers part left read

theorem readElement (h : l.Draws words partly whole) {f : Field σ} {index : Nat}
    (known : f ∈ l.fields) (part : partly draft) (among : ts ⊆ words)
    (read : readElement f index draft ts = .ok (draft', rest)) :
    partly draft' ∧ rest ⊆ words := by
  rw [Layout.readElement.eq_def] at read
  split at read
  · cases read
  · obtain ⟨word, left⟩ := List.cons_subset.mp among
    split at read
    · cases read
    · rename_i update set
      cases read
      exact ⟨h.keep f known _ word update set draft part, left⟩

theorem endList (h : l.Draws words partly whole) (part : partly draft)
    (read : l.endList draft ts = .ok (a, rest)) : whole a :=
  h.finish draft a part (rightBracket_of_endList read).2

theorem readElements (h : l.Draws words partly whole) {fields : List (Field σ)} {index : Nat}
    (known : fields ⊆ l.fields) (part : partly draft) (among : ts ⊆ words)
    (read : l.readElements fields index draft ts = .ok (a, rest)) : whole a := by
  induction fields generalizing index draft ts with
  | nil => exact h.endList part read
  | cons f fields ih =>
      rw [List.cons_subset] at known
      rw [Layout.readElements] at read
      split at read
      · cases read
      · split at read
        · exact h.endList part read
        · cases read
      · rename_i begun
        split at read
        · cases read
        · rename_i element
          obtain ⟨part', left⟩ :=
            h.readElement known.1 part (List.Subset.trans (subset_of_beginElement begun) among)
              element
          exact ih known.2 part' left read

/-- The property holds of a record read from the words. -/
theorem read (h : l.Draws words partly whole) (among : ts ⊆ words)
    (read : l.read ts = .ok (a, rest)) : whole a := by
  rw [Layout.read.eq_def] at read
  split at read
  · cases read
  · exact h.readObject (List.cons_subset.mp among).2 read
  · exact h.readElements (List.Subset.refl l.fields) h.start (List.cons_subset.mp among).2 read
  · cases read

end Draws

/-- The property holds of a record read from any words. -/
theorem Ensures.read {partly : σ → Prop} {whole : α → Prop} (h : l.Ensures partly whole)
    (read : l.read ts = .ok (a, rest)) : whole a := by
  have draws : l.Draws ts partly whole := ⟨h.start, fun f known t _ => h.keep f known t, h.finish⟩
  exact draws.read (List.Subset.refl ts) read

/-! In a strict record no word is passed over, and without defaults no field is left out; so what
was read tells the words of the text. -/

section Strict

/-- A member that is read has the name of a field that did not come before. -/
theorem field_of_readMember (strict : l.strict = true)
    (read : l.readMember draft ts = .ok (draft', rest)) :
    ∃ f ∈ l.fields, ∃ t update, f.isSet draft = false ∧ f.set t = .ok update ∧
      draft' = update draft ∧ ts = .text (some f.name) :: .colon :: t :: rest := by
  rw [readMember.eq_def] at read
  split at read
  · cases read
  · rename_i name ts
    rw [readValue, strict] at read
    split at read
    · rename_i f known
      have named : f.name = name := by simpa using List.find?_some known
      split at read
      · cases read
      · rename_i unset
        split at read
        · cases read
        · cases read
        · rename_i t _ colon
          split at read
          · cases read
          · rename_i update set
            cases read
            refine ⟨f, List.mem_of_find?_eq_some known, t, update, Bool.eq_false_iff.mpr unset,
              set, rfl, ?_⟩
            rw [named, cons_of_readColon colon]
    · cases read
  · cases read
  · cases read

/-- After a member the object ends, or goes on with another member. -/
theorem readMembers_cases (read : l.readMembers draft ts = .ok (a, rest)) :
    (ts = .rightBrace :: rest ∧ l.finish draft = .ok a) ∨
    ∃ draft' ts' ts'', ts = .comma :: ts' ∧ l.readMember draft ts' = .ok (draft', ts'') ∧
      l.readMembers draft' ts'' = .ok (a, rest) := by
  rw [readMembers.eq_def] at read
  split at read
  · cases read
  · split at read
    · cases read
    · rename_i done
      cases read
      exact .inl ⟨rfl, finish_of_complete done⟩
  · split at read
    · cases read
    · rename_i member
      exact .inr ⟨_, _, _, rfl, member, read⟩
  · cases read

/-- An object that is not empty has a first member, and goes on as after any member. -/
theorem readObject_cases (read : l.readObject ts = .ok (a, rest)) :
    (ts = .rightBrace :: rest ∧ l.finish l.draft = .ok a) ∨
    ∃ draft' ts', l.readMember l.draft ts = .ok (draft', ts') ∧
      l.readMembers draft' ts' = .ok (a, rest) := by
  rw [readObject.eq_def] at read
  split at read
  · cases read
  · obtain ⟨same, done⟩ | ⟨_, _, _, comma, _⟩ := readMembers_cases read
    · exact .inl ⟨same, done⟩
    · cases comma
  · split at read
    · cases read
    · rename_i member
      exact .inr ⟨_, _, member, read⟩

theorem readObject_of_member (member : l.readMember l.draft ts = .ok (draft', rest)) :
    l.readObject ts = l.readMembers draft' rest := by
  rw [readObject.eq_def]
  split
  · cases member
  · cases member
  · rw [member]

/-- An element that must stand in a list stands there, after a comma unless it is the first. -/
theorem element_of_readElements (full : l.hasDefaults = false) {f : Field σ}
    {fields : List (Field σ)} {index : Nat}
    (read : l.readElements (f :: fields) index draft ts = .ok (a, rest)) :
    ∃ t update ts', ts = (if index = 0 then [] else [.comma]) ++ t :: ts' ∧
      f.set t = .ok update ∧
      l.readElements fields (index + 1) (update draft) ts' = .ok (a, rest) := by
  rw [readElements, full] at read
  split at read
  · cases read
  · cases read
  · rename_i ts' begun
    split at read
    · cases read
    · rename_i element
      rw [readElement.eq_def] at element
      split at element
      · cases element
      · rename_i t ts''
        split at element
        · cases element
        · rename_i update set
          cases element
          refine ⟨t, update, _, ?_, set, read⟩
          rw [beginElement.eq_def] at begun
          split at begun
          · cases begun
          · cases begun
          · split at begun
            · rename_i first
              cases begun
              rw [if_pos first]
              rfl
            · rename_i later
              split at begun
              · rename_i comma
                split at begun
                · cases begun
                · cases begun
                  rw [if_neg later, comma]
                  rfl
              · cases begun

theorem readElements_of_element {f : Field σ} {fields : List (Field σ)} {index : Nat} {t : Token}
    {update : σ → σ} (begun : beginElement index ts = .ok (some (t :: rest)))
    (set : f.set t = .ok update) :
    l.readElements (f :: fields) index draft ts =
      l.readElements fields (index + 1) (update draft) rest := by
  simp only [readElements, begun, readElement, set]

/-- A record is an object or a list. -/
theorem read_cases (read : l.read ts = .ok (a, rest)) :
    (∃ ts', ts = .leftBrace :: ts' ∧ l.readObject ts' = .ok (a, rest)) ∨
    ∃ ts', ts = .leftBracket :: ts' ∧ l.readElements l.fields 0 l.draft ts' = .ok (a, rest) := by
  rw [Layout.read.eq_def] at read
  split at read
  · cases read
  · exact .inl ⟨_, rfl, read⟩
  · exact .inr ⟨_, rfl, read⟩
  · cases read

end Strict

end Layout

end RequestGuard
