import RequestGuard.Json.Problem

/-!
# Account versions

A version counts the changes of an account's credentials. A refresh token carries
the version that was current when it was issued, so one change of credentials
outdates every token issued before it. The last version has no successor but itself.
-/

namespace RequestGuard

/-- The version of an account's credentials. -/
structure Version where
  number : Word
deriving DecidableEq, Inhabited

namespace Version

/-- The version after a change of credentials. -/
def next (v : Version) : Version := ⟨v.number.saturatingSucc⟩

def label (v : Version) : String := "v" ++ toString v.number.toNat

def diagnostic (v : Version) : String :=
  Diagnostic.wrapped "AccountVersion" (toString v.number.toNat)

def written (v : Version) : List Char := Written.number v.number.toNat

def compare (v w : Version) : Ordering := Ord.compare v.number.toNat w.number.toNat

def later (v w : Version) : Version := if v.number.toNat ≤ w.number.toNat then w else v

def ofToken (t : Token) : Except Problem Version :=
  match t.toUnsigned with
  | .ok n => .ok ⟨n⟩
  | .error p => .error p

end Version

end RequestGuard
