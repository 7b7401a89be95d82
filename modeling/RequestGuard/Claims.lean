import RequestGuard.Account.Version
import RequestGuard.Json.Record

/-!
# Claims

What a verified refresh token says about itself: its id, the account it was issued
to, the version of that account's credentials, and when it expires. Written, the
expiry is a whole second, cut off downwards, so a token read back never lives longer
than the one that was written.
-/

namespace RequestGuard

/-- The claims of a refresh token. -/
structure Claims where
  tokenId : TokenId
  subject : AccountId
  version : Version
  expiresAt : Instant
deriving DecidableEq

namespace Claims

def ofTexts (tokenId subject : String) (version : Version) (expiresAt : Instant) :
    Except IdentifierError Claims :=
  match Identifier.ofString .token tokenId, Identifier.ofString .account subject with
  | .error e, _ => .error e
  | _, .error e => .error e
  | .ok tokenId, .ok subject => .ok ⟨tokenId, subject, version, expiresAt⟩

/-- How long the token still lives; none once it has expired. -/
def remaining? (c : Claims) (now : Instant) : Option Span :=
  if (c.expiresAt.since now).Positive then some (c.expiresAt.since now) else none

theorem remaining?_eq_none_iff (c : Claims) (now : Instant) :
    c.remaining? now = none ↔ c.expiresAt ≤ now := by
  simp only [remaining?, Span.positive_iff, Instant.since, Instant.le_iff]
  split <;> simp <;> omega

theorem remaining?_eq_some_iff (c : Claims) (now : Instant) (ttl : Span) :
    c.remaining? now = some ttl ↔ now < c.expiresAt ∧ ttl = c.expiresAt.since now := by
  simp only [remaining?, Span.positive_iff, Instant.lt_iff]
  split
  · rename_i h
    simp only [Instant.since] at h ⊢
    constructor
    · intro e
      injection e with e
      exact ⟨by omega, e.symm⟩
    · intro e
      rw [e.2]
  · rename_i h
    simp only [Instant.since] at h ⊢
    constructor
    · intro e
      contradiction
    · intro e
      omega

/-- Claims as written, the members in the order of declaration. -/
def written (c : Claims) : List Char :=
  Written.object [
    Written.member "token_id".toList c.tokenId.written,
    Written.member "subject".toList c.subject.written,
    Written.member "version".toList c.version.written,
    Written.member "expires_at".toList (Written.number c.expiresAt.seconds)]

structure Draft where
  tokenId : Option TokenId
  subject : Option AccountId
  version : Option Version
  expiresAt : Option Instant

/-- How claims are read. Members of other names are passed over. -/
def layout : Layout Draft Claims where
  title := "struct RefreshClaims"
  fields := [
    ⟨"token_id", fun d => d.tokenId.isSome,
      fun t => (t.toIdentifier .token).map fun v d => { d with tokenId := some v }⟩,
    ⟨"subject", fun d => d.subject.isSome,
      fun t => (t.toIdentifier .account).map fun v d => { d with subject := some v }⟩,
    ⟨"version", fun d => d.version.isSome,
      fun t => (Version.ofToken t).map fun v d => { d with version := some v }⟩,
    ⟨"expires_at", fun d => d.expiresAt.isSome,
      fun t => t.toInstant.map fun v d => { d with expiresAt := some v }⟩]
  strict := false
  hasDefaults := false
  draft := ⟨none, none, none, none⟩
  finish := fun d =>
    match d.tokenId, d.subject, d.version, d.expiresAt with
    | none, _, _, _ => .error (.missingField "token_id")
    | _, none, _, _ => .error (.missingField "subject")
    | _, _, none, _ => .error (.missingField "version")
    | _, _, _, none => .error (.missingField "expires_at")
    | some tokenId, some subject, some version, some expiresAt =>
      .ok ⟨tokenId, subject, version, expiresAt⟩

def parse (s : String) : Except Problem Claims := layout.readWhole (Token.ofString s)

end Claims

end RequestGuard
