import RequestGuard.Failure
import RequestGuard.Text.Blank

/-!
# Ledger configuration

A ledger keeps its records under keys that begin with its namespace. A namespace
without any visible character is refused.
-/

namespace RequestGuard

/-- The settings of a ledger. -/
structure LedgerConfig where
  space : String
deriving DecidableEq

namespace LedgerConfig

/-- The namespace of a ledger unless configured otherwise. -/
def defaultSpace : String := "refresh"

def standard : LedgerConfig := ⟨defaultSpace⟩

instance : Inhabited LedgerConfig := ⟨standard⟩

def validate (c : LedgerConfig) : Except ConfigError Unit :=
  if isBlankText c.space then .error .emptyNamespace else .ok ()

def written (c : LedgerConfig) : List Char :=
  Written.object [Written.member "namespace".toList (Written.text c.space.toList)]

/-- How settings are read. No other member may stand beside them, and what is missing
has its default. -/
def layout : Layout (Option String) LedgerConfig where
  title := "struct LedgerConfig"
  fields := [⟨"namespace", Option.isSome, fun t => t.toText.map fun v _ => some v⟩]
  strict := true
  hasDefaults := true
  draft := none
  finish := fun d => .ok ⟨d.getD defaultSpace⟩

def parse (s : String) : Except Problem LedgerConfig := layout.readWhole (Token.ofString s)

end LedgerConfig

end RequestGuard
