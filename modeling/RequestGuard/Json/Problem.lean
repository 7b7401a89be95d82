import RequestGuard.Identifier
import RequestGuard.Json.Token
import RequestGuard.Time.Stamp
import RequestGuard.Word

/-!
# What is wrong with a JSON text

Either the text breaks off or goes astray as JSON, or it is JSON of the wrong shape:
a misfit. A misfit has a cause, most causes have a wording, and it has a place in the
record that was read.
-/

namespace RequestGuard

/-- What a reader came upon instead of the value that it wanted. -/
inductive Found where
  | integer (n : Int)
  | float
  | truth (b : Bool)
  | null
  | text (s : String)
  | sequence
  | map
  /-- The bare name of a case that has fields. -/
  | bareCase
deriving DecidableEq

def Found.message : Found → String
  | .integer n => "integer `" ++ String.ofList (signedDecimal n) ++ "`"
  | .float => "floating point"
  | .truth b => "boolean `" ++ String.ofList (Written.truth b) ++ "`"
  | .null => "null"
  | .text s => "string " ++ Diagnostic.text s
  | .sequence => "sequence"
  | .map => "map"
  | .bareCase => "unit variant"

/-- Why a JSON text has the wrong shape. -/
inductive Misfit where
  | wrongType (found : Found) (expected : String)
  | outOfRange (n : Int) (expected : String)
  | wrongLength (length : Nat) (expected : String)
  | unknownField (name : String) (known : List String)
  | duplicateField (name : String)
  | missingField (name : String)
  | unknownCase (name : String) (known : List String)
  | badIdentifier (e : IdentifierError)
  /-- A text or number that stands for no moment. -/
  | noMoment
deriving DecidableEq

def backquoted (s : String) : String := "`" ++ s ++ "`"

def oneOf : List String → String
  | [] => ""
  | [a] => backquoted a
  | [a, b] => backquoted a ++ " or " ++ backquoted b
  | names => "one of " ++ ", ".intercalate (names.map backquoted)

/-- The cause in words; that a moment cannot be read has no fixed wording. -/
def Misfit.message? : Misfit → Option String
  | .wrongType found expected =>
    some ("invalid type: " ++ found.message ++ ", expected " ++ expected)
  | .outOfRange n expected =>
    some ("invalid value: " ++ (Found.integer n).message ++ ", expected " ++ expected)
  | .wrongLength n expected => some ("invalid length " ++ toString n ++ ", expected " ++ expected)
  | .unknownField name known =>
    some ("unknown field " ++ backquoted name ++ ", expected " ++ oneOf known)
  | .duplicateField name => some ("duplicate field " ++ backquoted name)
  | .missingField name => some ("missing field " ++ backquoted name)
  | .unknownCase name known =>
    some ("unknown variant " ++ backquoted name ++ ", expected " ++ oneOf known)
  | .badIdentifier e => some e.message
  | .noMoment => none

/-- The part of a record that a misfit concerns. -/
inductive Place where
  /-- The record as a whole. -/
  | whole
  | field (name : String)
  | element (index : Nat)
deriving DecidableEq

def Place.path : Place → String
  | .whole => "."
  | .field name => name
  | .element index => "[" ++ toString index ++ "]"

/-- What is wrong with a text that was to be read as a value. -/
inductive Problem where
  | breach (b : Breach)
  | misfit (cause : Misfit) (place : Place)
deriving DecidableEq

namespace Problem

abbrev ended : Problem := .breach .ended

abbrev malformed : Problem := .breach .malformed

/-- Puts a misfit into its place. -/
def locate (place : Place) : Problem → Problem
  | .misfit cause .whole => .misfit cause place
  | problem => problem

end Problem

namespace Token

/-- What is wrong with a word that was to begin a value of another type. A value that
cannot itself be read counts as that fault, and of a list or an object only the
bracket has been seen. -/
def refuse (expected : String) : Token → Problem
  | .null => .misfit (.wrongType .null expected) .whole
  | .truth b => .misfit (.wrongType (.truth b) expected) .whole
  | .number (.integer n) => .misfit (.wrongType (.integer n) expected) .whole
  | .number .float => .misfit (.wrongType .float expected) .whole
  | .number .tooLarge => .malformed
  | .text (some s) => .misfit (.wrongType (.text s) expected) .whole
  | .text none => .malformed
  | .leftBracket => .misfit (.wrongType .sequence expected) .whole
  | .leftBrace => .misfit (.wrongType .map expected) .whole
  | .broken _ read _ => .breach read
  | .rightBracket | .rightBrace | .colon | .comma => .malformed

/-- Reads a word as an integer of some type, which need not hold them all. -/
def toInteger {α : Type} (ofInt? : Int → Option α) (expected : String) :
    Token → Except Problem α
  | .number (.integer n) => match ofInt? n with
    | some a => .ok a
    | none => .error (.misfit (.outOfRange n expected) .whole)
  | t => .error (t.refuse expected)

def toSigned (t : Token) : Except Problem SignedWord := t.toInteger SignedWord.ofInt? "i64"

def toUnsigned (t : Token) : Except Problem Word :=
  t.toInteger (fun n => if 0 ≤ n then Word.ofNat? n.toNat else none) "u64"

def toTruth : Token → Except Problem Bool
  | .truth b => .ok b
  | t => .error (t.refuse "a boolean")

def toText : Token → Except Problem String
  | .text (some s) => .ok s
  | t => .error (t.refuse "a string")

def toIdentifier (kind : IdentifierKind) (t : Token) : Except Problem (Identifier kind) :=
  match t.toText with
  | .error p => .error p
  | .ok s => match Identifier.ofString kind s with
    | .ok i => .ok i
    | .error e => .error (.misfit (.badIdentifier e) .whole)

def toStamp : Token → Except Problem Stamp
  | .text (some s) => match Stamp.parse? s.toList with
    | some stamp => .ok stamp
    | none => .error (.misfit .noMoment .whole)
  | t => .error (t.refuse "an RFC3339-formatted `OffsetDateTime`")

/-- Reads a word as a moment of whole seconds since 1970. -/
def toInstant (t : Token) : Except Problem Instant :=
  match t.toSigned with
  | .error p => .error p
  | .ok n =>
    if (Instant.ofSeconds n.toInt).InCalendar then .ok (Instant.ofSeconds n.toInt)
    else .error (.misfit .noMoment .whole)

end Token

/-- Reads a whole text as a value that is one word. Only blanks may follow it. -/
def readScalar {α : Type} (read : Token → Except Problem α) : List Token → Except Problem α
  | [] => .error .ended
  | t :: rest => match read t with
    | .error p => .error p
    | .ok a => if rest.isEmpty then .ok a else .error .malformed

end RequestGuard
