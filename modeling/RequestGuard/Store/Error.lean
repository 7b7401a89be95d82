import RequestGuard.Json.Record

/-!
# Store errors

How a store, or a reader of what it holds, can fail. An error is written as an
object with one member, named for the kind of the error, whose value holds the
details.
-/

namespace RequestGuard

/-- A failure at a store. -/
inductive StoreError where
  /-- The contents could not be turned into a text or back. -/
  | serialization (message : String)
  /-- The medium failed. -/
  | backend (message : String)
  /-- A value that its reader cannot make sense of. -/
  | malformedValue (key message : String)
  /-- A write that would have expired at once. -/
  | nonPositiveTtl (key : String)
deriving DecidableEq

namespace StoreError

def message : StoreError → String
  | .serialization m => "Serialization error: " ++ m ++ "."
  | .backend m => "Backend failure: " ++ m ++ "."
  | .malformedValue key m => "Malformed value under " ++ backquoted key ++ ": " ++ m ++ "."
  | .nonPositiveTtl key => "TTL for " ++ backquoted key ++ " must be positive."

def name : StoreError → String
  | .serialization _ => "Serialization"
  | .backend _ => "Backend"
  | .malformedValue _ _ => "MalformedValue"
  | .nonPositiveTtl _ => "NonPositiveTtl"

def details : StoreError → List (String × String)
  | .serialization m => [("message", m)]
  | .backend m => [("message", m)]
  | .malformedValue key m => [("key", key), ("message", m)]
  | .nonPositiveTtl key => [("key", key)]

def diagnostic (e : StoreError) : String :=
  Diagnostic.record e.name (e.details.map fun d => (d.1, Diagnostic.text d.2))

def written (e : StoreError) : List Char :=
  Written.object [Written.member e.name.toList (Written.object (e.details.map fun d =>
    Written.member d.1.toList (Written.text d.2.toList)))]

/-- The names of the kinds, in the order of declaration. -/
def names : List String := ["Serialization", "Backend", "MalformedValue", "NonPositiveTtl"]

structure Draft where
  key : Option String
  message : Option String

def keyField : Field Draft :=
  ⟨"key", fun d => d.key.isSome, fun t => t.toText.map fun v d => { d with key := some v }⟩

def messageField : Field Draft :=
  ⟨"message", fun d => d.message.isSome,
    fun t => t.toText.map fun v d => { d with message := some v }⟩

/-- How details are read, given which there are. -/
def layout (name : String) (fields : List (Field Draft))
    (finish : Draft → Except Misfit StoreError) : Layout Draft StoreError where
  title := "struct variant StoreError::" ++ name
  fields := fields
  strict := false
  hasDefaults := false
  draft := ⟨none, none⟩
  finish := finish

def required (name : String) (detail : Option String) : Except Misfit String :=
  match detail with
  | some s => .ok s
  | none => .error (.missingField name)

/-- How the details of the named kind are read. -/
def layoutOf? (name : String) : Option (Layout Draft StoreError) :=
  if name = "Serialization" then
    some (layout name [messageField] fun d => (required "message" d.message).map .serialization)
  else if name = "Backend" then
    some (layout name [messageField] fun d => (required "message" d.message).map .backend)
  else if name = "MalformedValue" then
    some (layout name [keyField, messageField] fun d =>
      match required "key" d.key, required "message" d.message with
      | .ok key, .ok message => .ok (.malformedValue key message)
      | .error m, _ => .error m
      | _, .error m => .error m)
  else if name = "NonPositiveTtl" then
    some (layout name [keyField] fun d => (required "key" d.key).map .nonPositiveTtl)
  else none

/-- The refusal of a name that no kind has. -/
def unknown (name : String) : Problem := .misfit (.unknownCase name names) .whole

/-- Reads an error after the brace of its object. What is no text there is no name. -/
def readCase : List Token → Except Problem (StoreError × List Token)
  | [] => .error .ended
  | .text (some name) :: rest => match layoutOf? name with
    | none => .error (unknown name)
    | some l => match Layout.readColon rest with
      | .error p => .error p
      | .ok rest => match l.read rest with
        | .error p => .error p
        | .ok (_, []) => .error .ended
        | .ok (e, .rightBrace :: rest) => .ok (e, rest)
        | .ok (_, _ :: _) => .error .malformed
  | .broken true read _ :: _ => .error (.breach read)
  | _ :: _ => .error .malformed

/-- Reads an error. A bare name is not enough, as every kind has details. -/
def read : List Token → Except Problem (StoreError × List Token)
  | [] => .error .ended
  | .leftBrace :: rest => readCase rest
  | .text (some name) :: _ =>
    if names.contains name then .error (.misfit (.wrongType .bareCase "struct variant") .whole)
    else .error (unknown name)
  | .broken true read _ :: _ => .error (.breach read)
  | _ :: _ => .error .malformed

def parse (s : String) : Except Problem StoreError :=
  match read (Token.ofString s) with
  | .error p => .error p
  | .ok (e, rest) => if rest.isEmpty then .ok e else .error .malformed

end StoreError

end RequestGuard
