import RequestGuard.Store.Entries

/-!
# Snapshots

The text in which a store keeps its entries on disk: one object with a member for each
entry. An empty text is the snapshot of an empty store, and of two members of one name
the later counts. Entries whose expiry has no text cannot be written.
-/

namespace RequestGuard

namespace Snapshot

/-- The member for an entry. -/
def member? (binding : String × Entry) : Option (List Char) :=
  binding.2.written?.map fun entry => Written.member binding.1.toList entry

def written? (es : Entries) : Option (List Char) :=
  (es.bindings.mapM member?).map Written.object

/-- Reads a member into a table: the table with it, and what follows. -/
def readMember (es : Entries) : List Token → Except Problem (Entries × List Token)
  | [] => .error .ended
  | .text (some key) :: rest => match Layout.readColon rest with
    | .error p => .error p
    | .ok rest => match Entry.layout.read rest with
      | .error p => .error p
      | .ok (entry, rest) => .ok (es.insert key entry, rest)
  | .broken true read _ :: _ => .error (.breach read)
  | _ :: _ => .error .malformed

theorem length_readMember_lt {es es' : Entries} {ts rest : List Token}
    (h : readMember es ts = .ok (es', rest)) : rest.length < ts.length := by
  unfold readMember at h
  split at h
  · contradiction
  · split at h
    · contradiction
    · rename_i colon
      have := Layout.length_readColon_lt colon
      split at h
      · contradiction
      · rename_i found
        have := Layout.length_read_lt found
        simp only [Except.ok.injEq, Prod.mk.injEq] at h
        simp only [List.length_cons]
        rw [← h.2]
        omega
  · contradiction
  · contradiction

/-- Reads members, each after a comma, up to the end of the object. -/
def readMembers (es : Entries) (ts : List Token) : Except Problem (Entries × List Token) :=
  match ts with
  | [] => .error .ended
  | .rightBrace :: rest => .ok (es, rest)
  | .comma :: rest => match _h : readMember es rest with
    | .error p => .error p
    | .ok (es, rest) => readMembers es rest
  | _ :: _ => .error .malformed
termination_by ts.length
decreasing_by
  have := length_readMember_lt _h
  simp only [List.length_cons]
  omega

/-- Reads the object of entries. -/
def read : List Token → Except Problem (Entries × List Token)
  | [] => .error .ended
  | .leftBrace :: .rightBrace :: rest => .ok (.empty, rest)
  | .leftBrace :: rest => match readMember .empty rest with
    | .error p => .error p
    | .ok (es, rest) => readMembers es rest
  | t :: _ => .error (t.refuse "a map")

def parse (contents : List Glyph) : Except Problem Entries :=
  if contents.isEmpty then .ok .empty
  else match read (Token.scan contents) with
    | .error p => .error p
    | .ok (es, rest) => if rest.isEmpty then .ok es else .error .malformed

end Snapshot

end RequestGuard
