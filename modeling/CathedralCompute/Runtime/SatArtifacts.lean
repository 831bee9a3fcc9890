import CathedralCompute.Lanes.SatLane

/-!
# The artifacts of SAT work

What the runtime publishes for a paid job: the item and the miner's certificate
as canonical JSON, so that their digests stand in the signed receipt.
-/

set_option autoImplicit false

namespace Cathedral.Runtime

open Codec

/-- The document of an item. -/
def manifestDocument (item : SatWorkItem) : Json := .obj
  [("schema", .str "cathedral_sat_manifest_v1"),
    ("challenge_id", .str item.challengeId),
    ("seed", .int item.seed),
    ("instance", .obj
      [("n_vars", .int item.satInstance.nVars),
        ("clauses", Sat.clausesJson item.satInstance.clauses)])]

/-- `_sat_manifest_bytes`; `none` where the writer raises. -/
def satManifestBytes (p : Platform) (item : SatWorkItem) : Option Bytes :=
  canonicalJson p (manifestDocument item)

/-- The document of a certificate. -/
def resultDocument (item : SatWorkItem) (certificate : SatCertificate) : Json := .obj
  [("assigned_hotkey", .str certificate.assignedHotkey),
    ("assignment", certificate.assignment.elim .null fun literals => .arr (literals.map .int)),
    ("challenge_id", .str item.challengeId),
    ("satisfiable", .bool certificate.satisfiable),
    ("work_units", .float certificate.workUnits)]

/-- `_sat_result_bytes` of a certificate. -/
def satResultBytes (p : Platform) (item : SatWorkItem) (certificate : SatCertificate) :
    Option Bytes :=
  canonicalJson p (resultDocument item certificate)

end Cathedral.Runtime
