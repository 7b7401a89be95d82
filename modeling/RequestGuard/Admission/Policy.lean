import RequestGuard.Failure

/-!
# Admission configuration

Every client may make so many requests in each window of time. The configuration may
hold any words; validation turns it into a policy, whose capacity fits a counter of 32
bits and whose window is not empty.

A text is read up to the end of the configuration, and what follows is not looked at.
-/

namespace RequestGuard

/-- A policy as configured. -/
structure AdmissionConfig where
  capacity : SignedWord
  /-- The length of the window in milliseconds. -/
  window : Word
deriving DecidableEq

/-- A policy: so many permits for each client in each window of milliseconds. -/
structure AdmissionPolicy where
  capacity : Nat
  window : Nat
  capacity_lt : capacity < 0x100000000
  window_pos : 0 < window
deriving DecidableEq

namespace AdmissionConfig

/-- A configuration from a window in seconds and nanoseconds. What is beyond whole
milliseconds is cut off, and a window too long for a word is the longest. -/
def ofWindow (capacity : SignedWord) (seconds nanos : Nat) : AdmissionConfig :=
  ⟨capacity, (Word.ofNat? (1000 * seconds + nanos / 1000000)).getD .max⟩

def windowSeconds (c : AdmissionConfig) : Nat := c.window.toNat / 1000

/-- The nanoseconds of the window beyond its seconds. -/
def windowNanos (c : AdmissionConfig) : Nat := c.window.toNat % 1000 * 1000000

/-- The policy that a configuration describes. -/
def validate (c : AdmissionConfig) : Except ConfigError AdmissionPolicy :=
  if c.capacity.toInt < 0 then .error (.negativeCapacity c.capacity)
  else if hw : c.window.toNat = 0 then .error .zeroWindow
  else if hc : c.capacity.toInt.toNat < 0x100000000 then
    .ok ⟨c.capacity.toInt.toNat, c.window.toNat, hc, by omega⟩
  else .error (.capacityOutOfRange c.capacity)

def written (c : AdmissionConfig) : List Char :=
  Written.object [
    Written.member "capacity".toList (Written.number c.capacity.toInt),
    Written.member "window_ms".toList (Written.number c.window.toNat)]

structure Draft where
  capacity : Option SignedWord
  window : Option Word

/-- How a configuration is read. No other member may stand in it. -/
def layout : Layout Draft AdmissionConfig where
  title := "struct AdmissionConfig"
  fields := [
    ⟨"capacity", fun d => d.capacity.isSome,
      fun t => t.toSigned.map fun v d => { d with capacity := some v }⟩,
    ⟨"window_ms", fun d => d.window.isSome,
      fun t => t.toUnsigned.map fun v d => { d with window := some v }⟩]
  strict := true
  hasDefaults := false
  draft := ⟨none, none⟩
  finish := fun d =>
    match d.capacity, d.window with
    | none, _ => .error (.missingField "capacity")
    | _, none => .error (.missingField "window_ms")
    | some capacity, some window => .ok ⟨capacity, window⟩

/-- Reads the configuration that a text begins with. What follows it is not looked at. -/
def parse (s : String) : Except ConfigError AdmissionConfig :=
  match layout.read (Token.ofString s) with
  | .ok (c, _) => .ok c
  | .error p => .error (.unreadable p)

end AdmissionConfig

namespace AdmissionPolicy

/-- The window in words: in milliseconds below a second, else in seconds with as many
places as needed. -/
def windowText (p : AdmissionPolicy) : String :=
  if p.window < 1000 then toString p.window ++ "ms"
  else
    let fraction := fractionDigits 3 (p.window % 1000)
    toString (p.window / 1000) ++
      (if fraction.isEmpty then "" else "." ++ String.ofList fraction) ++ "s"

end AdmissionPolicy

end RequestGuard
