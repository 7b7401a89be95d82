import RequestGuard.Text.Blank
import RequestGuard.Text.Diagnostic
import RequestGuard.Json.Written

/-!
# Identifiers

The ids of refresh tokens and of the accounts that own them. Either may be any text
of 1 to 128 bytes without blank and control characters, so that it can stand in a
store key and in a log line. An identifier carries the proof that it passed.
-/

namespace RequestGuard

/-- What an identifier names. -/
inductive IdentifierKind where
  | token
  | account
deriving DecidableEq

def IdentifierKind.name : IdentifierKind → String
  | .token => "Token"
  | .account => "Account"

/-- What is wrong with a text as an identifier. -/
inductive IdentifierFlaw where
  | empty
  | tooLong
  | invalidCharacter
deriving DecidableEq

/-- The most bytes that an identifier may have. Characters beyond ASCII take several. -/
abbrev maxIdentifierBytes : Nat := 128

/-- The first rule that a text breaks, if any. -/
def identifierFlaw? (s : String) : Option IdentifierFlaw :=
  if s.isEmpty then some .empty
  else if s.utf8ByteSize > maxIdentifierBytes then some .tooLong
  else if s.toList.any fun c => isBlank c || isControl c then some .invalidCharacter
  else none

/-- The id of a token or of an account. -/
structure Identifier (kind : IdentifierKind) where
  text : String
  flawless : identifierFlaw? text = none
deriving DecidableEq

/-- The id of one issued refresh token. -/
abbrev TokenId := Identifier .token

/-- The id of the account that a token was issued to. -/
abbrev AccountId := Identifier .account

/-- The refusal of a text as an identifier. -/
structure IdentifierError where
  kind : IdentifierKind
  flaw : IdentifierFlaw
deriving DecidableEq

namespace IdentifierError

def message (e : IdentifierError) : String :=
  match e.flaw with
  | .empty => e.kind.name ++ " identifier cannot be empty."
  | .tooLong => e.kind.name ++ " identifier exceeds " ++ toString maxIdentifierBytes ++ " bytes."
  | .invalidCharacter => e.kind.name ++ " identifier contains whitespace or control characters."

def name (e : IdentifierError) : String :=
  match e.flaw with
  | .empty => "Empty"
  | .tooLong => "TooLong"
  | .invalidCharacter => "InvalidCharacter"

def diagnostic (e : IdentifierError) : String :=
  Diagnostic.record e.name (("kind", Diagnostic.text e.kind.name) ::
    if e.flaw = .tooLong then [("max", toString maxIdentifierBytes)] else [])

def written (e : IdentifierError) : List Char :=
  let kind := Written.member "kind".toList (Written.text e.kind.name.toList)
  let limit := Written.member "max".toList (Written.number maxIdentifierBytes)
  Written.object [Written.member e.name.toList
    (Written.object (if e.flaw = .tooLong then [kind, limit] else [kind]))]

end IdentifierError

namespace Identifier

variable {kind : IdentifierKind}

def ofString (kind : IdentifierKind) (s : String) : Except IdentifierError (Identifier kind) :=
  match h : identifierFlaw? s with
  | none => .ok ⟨s, h⟩
  | some flaw => .error ⟨kind, flaw⟩

/-- The diagnostic form, which shows the text as it is. -/
def diagnostic (i : Identifier kind) : String := Diagnostic.wrapped kind.name i.text

def written (i : Identifier kind) : List Char := Written.text i.text.toList

/-- The distinct identifiers of a list in ascending order. -/
def sorted (ids : List (Identifier kind)) : List (Identifier kind) :=
  (ids.mergeSort fun a b => a.text ≤ b.text).eraseReps

theorem ofString_text (i : Identifier kind) : ofString kind i.text = .ok i := by
  obtain ⟨text, flawless⟩ := i
  unfold ofString
  split
  · rfl
  · rename_i h
    simp [flawless] at h

end Identifier

end RequestGuard
