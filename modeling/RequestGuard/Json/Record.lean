import RequestGuard.Json.Passage
import RequestGuard.Json.Problem

/-!
# Records

A record is written as an object, with its fields in any order, or as a list of its
fields in the order of declaration. It is read from left to right: the name of a
member is judged when it is read, before its value, and a field that is missing when
the object ends. The values of fields are single words.

A strict record refuses names that it does not know, any other passes over their
values. A record with defaults fills in what is missing.
-/

namespace RequestGuard

/-- A field of a record, in terms of a draft that collects the fields. -/
structure Field (σ : Type) where
  name : String
  isSet : σ → Bool
  set : Token → Except Problem (σ → σ)

/-- How a record of type `α` is read by way of a draft of type `σ`. -/
structure Layout (σ α : Type) where
  title : String
  fields : List (Field σ)
  strict : Bool
  hasDefaults : Bool
  draft : σ
  finish : σ → Except Misfit α

namespace Layout

variable {σ α : Type}

/-- The record in a message that states how many fields it has. -/
def expectation (l : Layout σ α) : String :=
  let n := l.fields.length
  l.title ++ " with " ++ toString n ++ (if n = 1 then " element" else " elements")

def field? (l : Layout σ α) (name : String) : Option (Field σ) :=
  l.fields.find? fun f => f.name == name

/-- The record that a draft amounts to. -/
def complete (l : Layout σ α) (draft : σ) : Except Problem α :=
  match l.finish draft with
  | .ok a => .ok a
  | .error m => .error (.misfit m .whole)

def readColon : List Token → Except Problem (List Token)
  | [] => .error .ended
  | .colon :: rest => .ok rest
  | _ :: _ => .error .malformed

def readValue (l : Layout σ α) (draft : σ) (name : String) (ts : List Token) :
    Except Problem (σ × List Token) :=
  match l.field? name with
  | some f =>
    if f.isSet draft then .error (.misfit (.duplicateField name) .whole)
    else match readColon ts with
      | .error p => .error p
      | .ok [] => .error .ended
      | .ok (t :: rest) => match f.set t with
        | .error p => .error (p.locate (.field name))
        | .ok update => .ok (update draft, rest)
  | none =>
    if l.strict then .error (.misfit (.unknownField name (l.fields.map Field.name)) (.field name))
    else match readColon ts with
      | .error p => .error p
      | .ok rest => match Passage.run Passage.start rest with
        | .error b => .error (.breach b)
        | .ok rest => .ok (draft, rest)

def readMember (l : Layout σ α) (draft : σ) : List Token → Except Problem (σ × List Token)
  | [] => .error .ended
  | .text (some name) :: rest => l.readValue draft name rest
  | .broken true read _ :: _ => .error (.breach read)
  | _ :: _ => .error .malformed

theorem length_readColon_lt {ts rest : List Token} (h : readColon ts = .ok rest) :
    rest.length < ts.length := by
  unfold readColon at h
  split at h
  · contradiction
  · simp only [Except.ok.injEq] at h
    simp [h]
  · contradiction

theorem length_readValue_lt {l : Layout σ α} {draft draft' : σ} {name : String}
    {ts rest : List Token} (h : l.readValue draft name ts = .ok (draft', rest)) :
    rest.length < ts.length := by
  unfold readValue at h
  split at h
  · split at h
    · contradiction
    · split at h
      · contradiction
      · contradiction
      · rename_i colon
        have := length_readColon_lt colon
        simp only [List.length_cons] at this
        split at h
        · contradiction
        · simp only [Except.ok.injEq, Prod.mk.injEq] at h
          rw [← h.2]
          omega
  · split at h
    · contradiction
    · split at h
      · contradiction
      · rename_i colon
        have := length_readColon_lt colon
        split at h
        · contradiction
        · rename_i passed
          have := Passage.length_run_lt passed
          simp only [Except.ok.injEq, Prod.mk.injEq] at h
          rw [← h.2]
          omega

theorem length_readMember_lt {l : Layout σ α} {draft draft' : σ} {ts rest : List Token}
    (h : l.readMember draft ts = .ok (draft', rest)) : rest.length < ts.length := by
  unfold readMember at h
  split at h
  · contradiction
  · have := length_readValue_lt h
    simp only [List.length_cons]
    omega
  · contradiction
  · contradiction

/-- Reads members, each after a comma, up to the end of the object. -/
def readMembers (l : Layout σ α) (draft : σ) (ts : List Token) :
    Except Problem (α × List Token) :=
  match ts with
  | [] => .error .ended
  | .rightBrace :: rest => match l.complete draft with
    | .error p => .error p
    | .ok a => .ok (a, rest)
  | .comma :: rest => match _h : l.readMember draft rest with
    | .error p => .error p
    | .ok (draft, rest) => readMembers l draft rest
  | _ :: _ => .error .malformed
termination_by ts.length
decreasing_by
  have := length_readMember_lt _h
  simp only [List.length_cons]
  omega

def readObject (l : Layout σ α) : List Token → Except Problem (α × List Token)
  | [] => .error .ended
  | .rightBrace :: rest => l.readMembers l.draft (.rightBrace :: rest)
  | ts => match l.readMember l.draft ts with
    | .error p => .error p
    | .ok (draft, rest) => l.readMembers draft rest

/-- Reads the value of an element, and goes on. -/
def readElement (f : Field σ) (index : Nat) (draft : σ) :
    List Token → Except Problem (σ × List Token)
  | [] => .error .ended
  | t :: rest => match f.set t with
    | .error p => .error (p.locate (.element index))
    | .ok update => .ok (update draft, rest)

/-- Where the element at `index` begins: after a comma unless it is the first. None
if the list ends instead, which it does not do after a comma. -/
def beginElement (index : Nat) : List Token → Except Problem (Option (List Token))
  | [] => .error .ended
  | .rightBracket :: _ => .ok none
  | t :: rest =>
    if index = 0 then .ok (some (t :: rest))
    else if t = .comma then
      if rest.head? = some .rightBracket then .error .malformed else .ok (some rest)
    else .error .malformed

/-- Reads the end of a list of which the draft is made. -/
def endList (l : Layout σ α) (draft : σ) : List Token → Except Problem (α × List Token)
  | [] => .error .ended
  | .rightBracket :: rest => match l.complete draft with
    | .error p => .error p
    | .ok a => .ok (a, rest)
  | _ :: _ => .error .malformed

/-- Reads the elements from the one at `index` on, and the end of the list. A list
may end early only if the record has defaults, and never goes on beyond the last
field. -/
def readElements (l : Layout σ α) :
    List (Field σ) → Nat → σ → List Token → Except Problem (α × List Token)
  | [], _, draft, ts => l.endList draft ts
  | f :: fields, index, draft, ts => match beginElement index ts with
    | .error p => .error p
    | .ok none =>
      if l.hasDefaults then l.endList draft ts
      else .error (.misfit (.wrongLength index l.expectation) .whole)
    | .ok (some ts) => match readElement f index draft ts with
      | .error p => .error p
      | .ok (draft, rest) => readElements l fields (index + 1) draft rest

/-- Reads a record: its value, and what follows. -/
def read (l : Layout σ α) : List Token → Except Problem (α × List Token)
  | [] => .error .ended
  | .leftBrace :: rest => l.readObject rest
  | .leftBracket :: rest => l.readElements l.fields 0 l.draft rest
  | t :: _ => .error (t.refuse l.title)

/-- Reads a whole text as a record. Only blanks may follow it. -/
def readWhole (l : Layout σ α) (ts : List Token) : Except Problem α :=
  match l.read ts with
  | .error p => .error p
  | .ok (a, rest) => if rest.isEmpty then .ok a else .error .malformed

theorem length_readMembers_lt {l : Layout σ α} {draft : σ} {ts rest : List Token} {a : α}
    (h : l.readMembers draft ts = .ok (a, rest)) : rest.length < ts.length := by
  fun_induction readMembers l draft ts with
  | case1 => contradiction
  | case2 => contradiction
  | case3 draft rest' a' _ =>
    simp only [Except.ok.injEq, Prod.mk.injEq] at h
    simp [h.2]
  | case4 => contradiction
  | case5 draft rest' draft' rest'' found ih =>
    have := length_readMember_lt found
    have := ih h
    simp only [List.length_cons]
    omega
  | case6 => contradiction

theorem length_readObject_lt {l : Layout σ α} {ts rest : List Token} {a : α}
    (h : l.readObject ts = .ok (a, rest)) : rest.length < ts.length := by
  unfold readObject at h
  split at h
  · contradiction
  · exact length_readMembers_lt h
  · split at h
    · contradiction
    · rename_i found
      have := length_readMember_lt found
      have := length_readMembers_lt h
      omega

theorem length_readElement_lt {f : Field σ} {index : Nat} {draft draft' : σ}
    {ts rest : List Token} (h : readElement f index draft ts = .ok (draft', rest)) :
    rest.length < ts.length := by
  unfold readElement at h
  split at h
  · contradiction
  · split at h
    · contradiction
    · simp only [Except.ok.injEq, Prod.mk.injEq] at h
      simp [h.2]

theorem length_beginElement_le {index : Nat} {ts rest : List Token}
    (h : beginElement index ts = .ok (some rest)) : rest.length ≤ ts.length := by
  unfold beginElement at h
  split at h
  · contradiction
  · simp at h
  · split at h
    · simp only [Except.ok.injEq, Option.some.injEq] at h
      simp [← h]
    · split at h
      · split at h
        · contradiction
        · simp only [Except.ok.injEq, Option.some.injEq] at h
          simp [← h]
      · contradiction

theorem length_endList_lt {l : Layout σ α} {draft : σ} {ts rest : List Token} {a : α}
    (h : l.endList draft ts = .ok (a, rest)) : rest.length < ts.length := by
  unfold endList at h
  split at h
  · contradiction
  · split at h
    · contradiction
    · simp only [Except.ok.injEq, Prod.mk.injEq] at h
      simp [h.2]
  · contradiction

theorem length_readElements_lt {l : Layout σ α} {fields : List (Field σ)} {index : Nat}
    {draft : σ} {ts rest : List Token} {a : α}
    (h : l.readElements fields index draft ts = .ok (a, rest)) : rest.length < ts.length := by
  induction fields generalizing index draft ts with
  | nil => exact length_endList_lt h
  | cons f fields ih =>
    unfold readElements at h
    split at h
    · contradiction
    · split at h
      · exact length_endList_lt h
      · contradiction
    · rename_i begun
      split at h
      · contradiction
      · rename_i found
        have := length_beginElement_le begun
        have := length_readElement_lt found
        have := ih h
        omega

theorem length_read_lt {l : Layout σ α} {ts rest : List Token} {a : α}
    (h : l.read ts = .ok (a, rest)) : rest.length < ts.length := by
  unfold read at h
  split at h
  · contradiction
  · have := length_readObject_lt h
    simp only [List.length_cons]
    omega
  · have := length_readElements_lt h
    simp only [List.length_cons]
    omega
  · contradiction

end Layout

end RequestGuard
