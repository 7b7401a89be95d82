/-!
# Finite tables

A table is a finite map kept as the list of its bindings, each key once, in the
order in which the keys first came. The order makes every enumeration of a table
definite; `get?` is the view through which the stores and directories are read.
-/

namespace RequestGuard

/-- A finite map. Keeping the keys distinct makes the list of bindings determine,
and be determined by, the map and the order of first insertion. -/
structure Table (α β : Type) where
  bindings : List (α × β)
  distinct : (bindings.map Prod.fst).Nodup
deriving DecidableEq

namespace Table

variable {α β : Type}

def empty : Table α β := ⟨[], List.nodup_nil⟩

instance : Inhabited (Table α β) := ⟨empty⟩

def size (t : Table α β) : Nat := t.bindings.length

def keys (t : Table α β) : List α := t.bindings.map Prod.fst

variable [DecidableEq α]

/-- The value of the first binding of `k`. -/
def lookup (k : α) : List (α × β) → Option β
  | [] => none
  | (k', v) :: rest => if k' = k then some v else lookup k rest

/-- Rebinds `k` where it stands, or binds it at the end. -/
def place (k : α) (v : β) : List (α × β) → List (α × β)
  | [] => [(k, v)]
  | (k', v') :: rest => if k' = k then (k, v) :: rest else (k', v') :: place k v rest

private theorem mem_keys_place (k x : α) (v : β) (l : List (α × β)) :
    x ∈ (place k v l).map Prod.fst ↔ x = k ∨ x ∈ l.map Prod.fst := by
  induction l with
  | nil => simp [place]
  | cons b rest ih =>
    obtain ⟨k', v'⟩ := b
    by_cases h : k' = k
    · subst h
      simp [place]
    · simp only [place, h, if_false, List.map_cons, List.mem_cons, ih]
      constructor <;> rintro (h | h | h) <;> simp [h]

private theorem nodup_place (k : α) (v : β) (l : List (α × β))
    (h : (l.map Prod.fst).Nodup) : ((place k v l).map Prod.fst).Nodup := by
  induction l with
  | nil => simp [place]
  | cons b rest ih =>
    obtain ⟨k', v'⟩ := b
    simp only [List.map_cons, List.nodup_cons] at h
    by_cases hk : k' = k
    · subst hk
      simpa [place] using h
    · simp only [place, hk, if_false, List.map_cons, List.nodup_cons, mem_keys_place]
      exact ⟨by simp [h.1], ih h.2⟩

def get? (t : Table α β) (k : α) : Option β := lookup k t.bindings

/-- Binds `k` to `v`, whatever it was bound to before. -/
def insert (t : Table α β) (k : α) (v : β) : Table α β :=
  ⟨place k v t.bindings, nodup_place k v t.bindings t.distinct⟩

def filter (t : Table α β) (p : α → β → Bool) : Table α β :=
  ⟨t.bindings.filter fun b => p b.1 b.2,
    t.distinct.sublist (List.Sublist.map _ List.filter_sublist)⟩

def erase (t : Table α β) (k : α) : Table α β := t.filter fun k' _ => k' ≠ k

def mapValues {γ : Type} (t : Table α β) (f : α → β → γ) : Table α γ :=
  ⟨t.bindings.map fun b => (b.1, f b.1 b.2), by
    simpa [List.map_map, Function.comp_def] using t.distinct⟩

/-- A table of the given bindings; of two bindings of one key the later counts. -/
def ofList (l : List (α × β)) : Table α β :=
  l.foldl (fun t b => t.insert b.1 b.2) empty

@[simp] theorem get?_empty (k : α) : (empty : Table α β).get? k = none := rfl

private theorem lookup_place (k x : α) (v : β) (l : List (α × β)) :
    lookup x (place k v l) = if k = x then some v else lookup x l := by
  induction l with
  | nil => simp [place, lookup]
  | cons b rest ih =>
    obtain ⟨k', v'⟩ := b
    by_cases hk : k' = k
    · subst hk
      by_cases hx : k' = x <;> simp [place, lookup, hx]
    · by_cases hx : k' = x
      · subst hx
        simp [place, lookup, hk, Ne.symm hk]
      · simp [place, lookup, hk, hx, ih]

/-- After a binding, its key shows it and every other key shows what it did before. -/
@[simp] theorem get?_insert (t : Table α β) (k x : α) (v : β) :
    (t.insert k v).get? x = if k = x then some v else t.get? x :=
  lookup_place k x v t.bindings

private theorem lookup_eq_none (x : α) (l : List (α × β)) (h : x ∉ l.map Prod.fst) :
    lookup x l = none := by
  induction l with
  | nil => rfl
  | cons b rest ih =>
    obtain ⟨k', v'⟩ := b
    simp only [List.map_cons, List.mem_cons, not_or] at h
    simp [lookup, Ne.symm h.1, ih h.2]

private theorem lookup_filter (p : α → β → Bool) (x : α) (l : List (α × β))
    (h : (l.map Prod.fst).Nodup) :
    lookup x (l.filter fun b => p b.1 b.2) = (lookup x l).filter (p x) := by
  induction l with
  | nil => rfl
  | cons b rest ih =>
    obtain ⟨k', v'⟩ := b
    simp only [List.map_cons, List.nodup_cons] at h
    by_cases hk : k' = x
    · subst hk
      by_cases hp : p k' v'
      · simp [lookup, hp, Option.filter]
      · have hnone : lookup k' rest = none := lookup_eq_none k' rest h.1
        simp [lookup, hp, Option.filter, ih h.2, hnone]
    · by_cases hp : p k' v' <;> simp [lookup, hk, hp, ih h.2]

/-- A filtered table shows the bindings that pass. -/
@[simp] theorem get?_filter (t : Table α β) (p : α → β → Bool) (x : α) :
    (t.filter p).get? x = (t.get? x).filter (p x) :=
  lookup_filter p x t.bindings t.distinct

/-- Of an unbound key nothing is shown, and all other keys show what they did before. -/
@[simp] theorem get?_erase (t : Table α β) (k x : α) :
    (t.erase k).get? x = if k = x then none else t.get? x := by
  rw [erase, get?_filter]
  by_cases h : k = x
  · subst h
    cases t.get? k <;> simp [Option.filter]
  · cases t.get? x <;> simp [Option.filter, h, Ne.symm h]

private theorem lookup_mapValues {γ : Type} (f : α → β → γ) (x : α) (l : List (α × β)) :
    lookup x (l.map fun b => (b.1, f b.1 b.2)) = (lookup x l).map (f x) := by
  induction l with
  | nil => rfl
  | cons b rest ih =>
    obtain ⟨k, v⟩ := b
    by_cases h : k = x
    · subst h
      simp [lookup]
    · simp [lookup, h, ih]

/-- Changed values are shown under the keys of the old ones. -/
@[simp] theorem get?_mapValues {γ : Type} (t : Table α β) (f : α → β → γ) (x : α) :
    (t.mapValues f).get? x = (t.get? x).map (f x) := lookup_mapValues f x t.bindings

end Table

end RequestGuard
