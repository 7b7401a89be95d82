import RequestGuard.Text.Plain

/-!
# Diagnostic texts

How values stand in a diagnostic. A text stands between double quotes, with a
backslash before a quote or a backslash, short names for the common control
characters, and the number of every other character that would not show. A record
stands as its name and, in braces, its fields.
-/

namespace RequestGuard

namespace Diagnostic

def char (c : Char) : List Char :=
  if c = '"' then ['\\', '"']
  else if c = '\\' then ['\\', '\\']
  else if c = '\n' then ['\\', 'n']
  else if c = '\r' then ['\\', 'r']
  else if c = '\t' then ['\\', 't']
  else if c = '\x00' then ['\\', '0']
  else if isPlain c then [c]
  else ['\\', 'u', '\x7b'] ++ Nat.toDigits 16 c.toNat ++ ['\x7d']

def text (s : String) : String :=
  String.ofList ('"' :: s.toList.flatMap char ++ ['"'])

/-- A list in brackets. -/
def list (items : List String) : String := "[" ++ ", ".intercalate items ++ "]"

/-- A name that wraps one value. -/
def wrapped (name inner : String) : String := name ++ "(" ++ inner ++ ")"

/-- A name with named fields. -/
def record (name : String) (fields : List (String × String)) : String :=
  name ++ " \x7b " ++ ", ".intercalate (fields.map fun f => f.1 ++ ": " ++ f.2) ++ " \x7d"

end Diagnostic

end RequestGuard
