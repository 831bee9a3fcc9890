import CathedralCompute.Platform

/-!
# Launch limits and audiences

The cardinality contract shared by the score producer, the evidence exporter and
the verifier, and the validation of the two identities a report is bound to: its
network audience and its anchor block.
-/

set_option autoImplicit false

namespace Cathedral

open Codec Semantics

def maxLaunchCandidates : ℕ := 4096

def maxLaunchVerifiedCandidates : ℕ := 28

def maxLaunchHotkeyBytes : ℕ := 128

def maxLaunchWireReportBytes : ℕ := 1024 * 1024

def maxLaunchScoreReportBytes : ℕ := 2 * 1024 * 1024

def maxLaunchEvidenceBaseUriBytes : ℕ := 2048

/-- `is_launch_hotkey` of a text. -/
def isLaunchHotkey (t : Text) : Bool :=
  1 ≤ t.length && t.length ≤ maxLaunchHotkeyBytes && t.strip == t && t.all Text.isVisible

/-- The launch hotkey a JSON value is, if it is one. -/
def launchHotkey? : Option Json → Option Text
  | some (.str t) => if isLaunchHotkey t then some t else none
  | _ => none

def maxScoreNetworkLength : ℕ := 128

def maxScoreNetuid : ℤ := 2 ^ 16 - 1

/-- `validate_score_audience`; an absent part fails its check. -/
def validateScoreAudience (network : Option Text) (netuid : Option ℤ) :
    Except Text (Text × ℤ) := do
  let network ← demand "score network must be a nonempty visible-ASCII string"
    (network.filter fun t => 1 ≤ t.length ∧ t.length ≤ maxScoreNetworkLength ∧ t.strip = t ∧
      t.all Text.isVisible)
  let netuid ← demand ("score netuid must be an integer between 0 and " ++ intText maxScoreNetuid)
    (netuid.filter fun z => 0 ≤ z ∧ z ≤ maxScoreNetuid)
  return (network, netuid)

/-- `^(0x)?[0-9a-f]{64}$`. -/
def isBlockHash (t : Text) : Bool := Text.isHex 64 (Text.removeHead "0x" t)

/-- `normalize_block_hash`. Only ASCII capitals matter to `lower` here: no other
character lowers to a hexadecimal digit. -/
def normalizeBlockHash (blockHash : Text) : Except Text Text := do
  let text := blockHash.strip.lower
  require (isBlockHash text) "block hash must be a 32-byte hex value"
  return Text.removeHead "0x" text

end Cathedral
