import RequestGuard.Json.Token

/-!
# Passing over a value

A reader that does not know a member passes over its value, however deep, and minds
only that it is JSON. What it waits for at each word is kept with the brackets that
are still open.
-/

namespace RequestGuard

namespace Passage

/-- What may come next. -/
inductive Awaiting where
  | value
  /-- The first element of a list, or its end. -/
  | element
  /-- The first member of an object, or its end. -/
  | member
  | name
  | colon
  /-- A comma, or the end of the innermost list or object. -/
  | next
deriving DecidableEq

/-- An open bracket. -/
inductive Bracket where
  | square
  | curly
deriving DecidableEq

/-- A value of which part has been passed over. -/
structure State where
  awaiting : Awaiting
  openBrackets : List Bracket
deriving DecidableEq

def start : State := ⟨.value, []⟩

/-- After the last word of a value that stands in the given brackets: none if it was
the whole. -/
def close : List Bracket → Option State
  | [] => none
  | brackets => some ⟨.next, brackets⟩

/-- A word where a value may begin. -/
def beginValue (brackets : List Bracket) : Token → Except Breach (Option State)
  | .null | .truth _ | .number _ | .text _ => .ok (close brackets)
  | .leftBracket => .ok (some ⟨.element, .square :: brackets⟩)
  | .leftBrace => .ok (some ⟨.member, .curly :: brackets⟩)
  | .broken _ _ passed => .error passed
  | .rightBracket | .rightBrace | .colon | .comma => .error .malformed

/-- A word where the name of a member should stand. -/
def beginMember (brackets : List Bracket) : Token → Except Breach (Option State)
  | .text _ => .ok (some ⟨.colon, brackets⟩)
  | .broken true _ passed => .error passed
  | _ => .error .malformed

/-- A word after a value. -/
def continueAfter : List Bracket → Token → Except Breach (Option State)
  | .square :: outer, .rightBracket => .ok (close outer)
  | .curly :: outer, .rightBrace => .ok (close outer)
  | .square :: outer, .comma => .ok (some ⟨.value, .square :: outer⟩)
  | .curly :: outer, .comma => .ok (some ⟨.name, .curly :: outer⟩)
  | _, _ => .error .malformed

/-- One word more: none once the value is complete. -/
def feed (s : State) (t : Token) : Except Breach (Option State) :=
  match s.awaiting, t with
  | .element, .rightBracket => continueAfter s.openBrackets t
  | .member, .rightBrace => continueAfter s.openBrackets t
  | .value, _ | .element, _ => beginValue s.openBrackets t
  | .name, _ | .member, _ => beginMember s.openBrackets t
  | .colon, .colon => .ok (some ⟨.value, s.openBrackets⟩)
  | .colon, _ => .error .malformed
  | .next, _ => continueAfter s.openBrackets t

def run (s : State) : List Token → Except Breach (List Token)
  | [] => .error .ended
  | t :: rest => match feed s t with
    | .error b => .error b
    | .ok none => .ok rest
    | .ok (some s) => run s rest

theorem length_run_lt {s : State} {ts rest : List Token} (h : run s ts = .ok rest) :
    rest.length < ts.length := by
  induction ts generalizing s with
  | nil => simp [run] at h
  | cons t ts ih =>
    simp only [run] at h
    split at h
    · contradiction
    · simp only [Except.ok.injEq] at h
      simp [h]
    · have := ih h
      simp only [List.length_cons]
      omega

end Passage

end RequestGuard
