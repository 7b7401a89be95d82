/-!
# Words of 64 bits

Whole numbers that fit into a signed or an unsigned word. A sum that would not fit
has no result, so nothing wraps around.
-/

namespace RequestGuard

/-- A signed word. -/
structure SignedWord where
  toInt : Int
  lower : -0x8000000000000000 ≤ toInt
  upper : toInt < 0x8000000000000000
deriving DecidableEq

namespace SignedWord

/-- The word that holds a number, if one does. -/
def ofInt? (n : Int) : Option SignedWord :=
  if h : -0x8000000000000000 ≤ n ∧ n < 0x8000000000000000 then some ⟨n, h.1, h.2⟩ else none

/-- The next number up; the largest has none. -/
def succ? (w : SignedWord) : Option SignedWord :=
  if h : w.toInt + 1 < 0x8000000000000000 then
    some ⟨w.toInt + 1, by have := w.lower; omega, h⟩
  else none

instance (n : Nat) : OfNat SignedWord n := ⟨⟨n % 0x8000000000000000, by omega, by omega⟩⟩

instance : Inhabited SignedWord := ⟨0⟩

@[simp] theorem toInt_one : (1 : SignedWord).toInt = 1 := rfl

theorem eq_of_toInt_eq {a b : SignedWord} (h : a.toInt = b.toInt) : a = b := by
  cases a
  cases b
  simp_all

theorem ofInt?_toInt (w : SignedWord) : ofInt? w.toInt = some w :=
  dif_pos ⟨w.lower, w.upper⟩

theorem toInt_of_succ? {w v : SignedWord} (h : w.succ? = some v) : v.toInt = w.toInt + 1 := by
  unfold succ? at h
  split at h
  · injection h with h
    rw [← h]
  · contradiction

theorem succ?_eq_none_iff (w : SignedWord) : w.succ? = none ↔ w.toInt = 0x7fffffffffffffff := by
  have := w.upper
  unfold succ?
  split
  · simp only [reduceCtorEq, false_iff]
    omega
  · simp only [true_iff]
    omega

end SignedWord

/-- An unsigned word. -/
structure Word where
  toNat : Nat
  upper : toNat < 0x10000000000000000
deriving DecidableEq

namespace Word

/-- The word that holds a number, if one does. -/
def ofNat? (n : Nat) : Option Word :=
  if h : n < 0x10000000000000000 then some ⟨n, h⟩ else none

/-- The next number up, or the largest again. -/
def saturatingSucc (w : Word) : Word :=
  if h : w.toNat + 1 < 0x10000000000000000 then ⟨w.toNat + 1, h⟩ else w

def max : Word := ⟨0xffffffffffffffff, by decide⟩

instance : Inhabited Word := ⟨⟨0, by decide⟩⟩

theorem ofNat?_toNat (w : Word) : ofNat? w.toNat = some w := dif_pos w.upper

theorem toNat_saturatingSucc (w : Word) :
    w.saturatingSucc.toNat = min (w.toNat + 1) 0xffffffffffffffff := by
  have := w.upper
  unfold saturatingSucc
  split
  · simp only
    omega
  · omega

end Word

end RequestGuard
