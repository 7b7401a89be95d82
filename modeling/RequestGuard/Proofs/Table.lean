import RequestGuard.Table

/-!
# Tables by their bindings

What a table shows of a key is its one binding of that key, and binding a key changes the list of
bindings in one place.
-/

namespace RequestGuard

namespace Table

variable {α β γ : Type}

theorem eq_of_bindings_eq {t u : Table α β} (h : t.bindings = u.bindings) : t = u := by
  cases t
  cases u
  cases h
  rfl

theorem mapValues_eq_self {t : Table α β} {f : α → β → β}
    (unchanged : ∀ b ∈ t.bindings, f b.1 b.2 = b.2) : t.mapValues f = t := by
  refine eq_of_bindings_eq ?_
  refine (List.map_congr_left fun b member => ?_).trans (List.map_id t.bindings)
  rw [unchanged b member]
  rfl

theorem mapValues_mapValues {t : Table α β} {f : α → β → γ} {δ : Type} {g : α → γ → δ} :
    (t.mapValues f).mapValues g = t.mapValues fun k v => g k (f k v) :=
  eq_of_bindings_eq (List.map_map ..)

theorem size_mapValues (t : Table α β) (f : α → β → γ) : (t.mapValues f).size = t.size :=
  List.length_map _

variable [DecidableEq α] {k : α} {v : β}

theorem place_of_not_mem {l : List (α × β)} (h : k ∉ l.map Prod.fst) :
    place k v l = l ++ [(k, v)] := by
  induction l with
  | nil => rfl
  | cons b rest ih =>
      simp only [List.map_cons, List.mem_cons, not_or] at h
      rw [place, if_neg (Ne.symm h.1), ih h.2]
      rfl

/-- A key is rebound where it stands. -/
theorem place_append {before after : List (α × β)} {v' : β} (h : k ∉ before.map Prod.fst) :
    place k v (before ++ (k, v') :: after) = before ++ (k, v) :: after := by
  induction before with
  | nil => exact if_pos rfl
  | cons b before ih =>
      simp only [List.map_cons, List.mem_cons, not_or] at h
      rw [List.cons_append, place, if_neg (Ne.symm h.1), ih h.2]
      rfl

/-- Binding distinct keys one after the other keeps their order. -/
theorem bindings_foldl_insert (t : Table α β) (l : List (α × β))
    (distinct : ((t.bindings ++ l).map Prod.fst).Nodup) :
    (l.foldl (fun t b => t.insert b.1 b.2) t).bindings = t.bindings ++ l := by
  induction l generalizing t with
  | nil => rw [List.append_nil]; rfl
  | cons b l ih =>
      have fresh : b.1 ∉ t.bindings.map Prod.fst := by
        intro there
        rw [List.map_append, List.nodup_append] at distinct
        exact distinct.2.2 _ there _ (List.mem_map_of_mem List.mem_cons_self) rfl
      have placed : (t.insert b.1 b.2).bindings = t.bindings ++ [b] := place_of_not_mem fresh
      rw [List.foldl_cons, ih _ (by rw [placed, List.append_assoc]; exact distinct), placed,
        List.append_assoc]
      rfl

theorem mem_of_lookup {l : List (α × β)} (found : lookup k l = some v) : (k, v) ∈ l := by
  induction l with
  | nil => cases found
  | cons b rest ih =>
      obtain ⟨k', v'⟩ := b
      by_cases same : k' = k
      · subst same
        rw [lookup, if_pos rfl] at found
        cases found
        exact List.mem_cons_self
      · rw [lookup, if_neg same] at found
        exact List.mem_cons_of_mem _ (ih found)

theorem lookup_of_mem {l : List (α × β)} {b : α × β} (distinct : (l.map Prod.fst).Nodup)
    (h : b ∈ l) : lookup b.1 l = some b.2 := by
  induction l with
  | nil => cases h
  | cons first rest ih =>
      simp only [List.map_cons, List.nodup_cons] at distinct
      obtain rfl | member := List.mem_cons.mp h
      · exact if_pos rfl
      · have other : first.1 ≠ b.1 :=
          fun same => distinct.1 (same ▸ List.mem_map_of_mem member)
        exact (if_neg other).trans (ih distinct.2 member)

/-- What a table shows is one of its bindings. -/
theorem mem_of_get? {t : Table α β} (found : t.get? k = some v) : (k, v) ∈ t.bindings :=
  mem_of_lookup found

/-- A binding of a table is what the table shows. -/
theorem get?_of_mem {t : Table α β} {b : α × β} (h : b ∈ t.bindings) : t.get? b.1 = some b.2 :=
  lookup_of_mem t.distinct h

/-- Of the bindings with a property, those of other keys stay. -/
theorem countP_insert (t : Table α β) (k : α) (v : β) (p : α × β → Bool) :
    (t.insert k v).bindings.countP p + (if (t.get? k).any fun w => p (k, w) then 1 else 0) =
      t.bindings.countP p + if p (k, v) then 1 else 0 := by
  show (place k v t.bindings).countP p + (if (lookup k t.bindings).any _ then 1 else 0) = _
  induction t.bindings with
  | nil => simp [place, lookup]
  | cons b rest ih =>
      obtain ⟨k', v'⟩ := b
      by_cases same : k' = k
      · subst same
        simp only [place, lookup, if_true, List.countP_cons, Option.any_some]
        omega
      · simp only [place, lookup, if_neg same, List.countP_cons]
        omega

/-- A new key is one more binding, and a known one is bound anew. -/
theorem size_insert (t : Table α β) (k : α) (v : β) :
    (t.insert k v).size = if (t.get? k).isSome then t.size else t.size + 1 := by
  have all := t.countP_insert k v fun _ => true
  simp only [List.countP_true, if_true] at all
  cases bound : t.get? k with
  | none => simpa [size, bound] using all
  | some w => simpa [size, bound] using all

/-- Binding a known key anew makes no other key known. -/
theorem isSome_get?_insert {t : Table α β} {v' : β} (known : t.get? k = some v') (x : α) :
    ((t.insert k v).get? x).isSome = (t.get? x).isSome := by
  rw [get?_insert]
  by_cases same : k = x
  · rw [if_pos same, ← same, known]
    rfl
  · rw [if_neg same]

@[simp] theorem mem_keys {t : Table α β} : k ∈ t.keys ↔ (t.get? k).isSome = true := by
  constructor
  · intro member
    obtain ⟨b, bound, rfl⟩ := List.mem_map.mp member
    rw [get?_of_mem bound]
    rfl
  · intro known
    obtain ⟨v, found⟩ := Option.isSome_iff_exists.mp known
    exact List.mem_map_of_mem (mem_of_get? found)

/-- A table is made of its bindings. -/
@[simp] theorem ofList_bindings (t : Table α β) : ofList t.bindings = t :=
  eq_of_bindings_eq (bindings_foldl_insert empty t.bindings t.distinct)

end Table

end RequestGuard
