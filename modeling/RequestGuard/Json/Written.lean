import RequestGuard.Text.Digits

/-!
# Written JSON

The compact form in which values are written: no space between words, and in a text
only the characters escaped that must be, the common ones by a letter.
-/

namespace RequestGuard

namespace Written

/-- A character as it stands between the quotes. -/
def char (c : Char) : List Char :=
  if c = '"' then ['\\', '"']
  else if c = '\\' then ['\\', '\\']
  else if c = '\x08' then ['\\', 'b']
  else if c = '\t' then ['\\', 't']
  else if c = '\n' then ['\\', 'n']
  else if c = '\x0c' then ['\\', 'f']
  else if c = '\r' then ['\\', 'r']
  else if c.toNat < 0x20 then
    ['\\', 'u', '0', '0', Nat.digitChar (c.toNat / 16), Nat.digitChar (c.toNat % 16)]
  else [c]

def text (cs : List Char) : List Char := '"' :: cs.flatMap char ++ ['"']

def number (n : Int) : List Char := signedDecimal n

def truth (b : Bool) : List Char := if b then ['t', 'r', 'u', 'e'] else ['f', 'a', 'l', 's', 'e']

def member (name : List Char) (value : List Char) : List Char := text name ++ ':' :: value

def separated : List (List Char) → List Char
  | [] => []
  | [m] => m
  | m :: rest => m ++ ',' :: separated rest

def object (members : List (List Char)) : List Char :=
  '\x7b' :: separated members ++ ['\x7d']

end Written

end RequestGuard
