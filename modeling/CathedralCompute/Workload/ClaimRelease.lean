import CathedralCompute.Sample
import CathedralCompute.Workload.Idempotency

/-!
# Claims of calls that raise

A call that claimed an execution id and then fails gives the claim back, so that
the next call need not wait for the deadline. It does so in the handler of one
exception class. What the interpreter raises while an answer is read, and what the
language raises when a status cannot be hashed, is of no such class: it passes the
handler, and the claim stays in the row.

## Main definitions

* `ExecutionCall.Foreign` — the responses on which something else is raised
* `Restored` — a row without a claim, with the binding and the result it had

## Main results

* `raise_restores_iff` — a call that raises after its claim restores the row if and
  only if the database answers and the response is not one of these
-/

set_option autoImplicit false

namespace Cathedral.Workload

open Codec Semantics

variable {p : Platform} {w w' : World} {executionId token : Text}

namespace ExecutionCall

variable {call : ExecutionCall} {requestDigest : Text} {input : Input}

/-! ## Responses that are read -/

/-- The response is of an admitted size and one line of text. -/
structure Framed (call : ExecutionCall) (response : Bytes) (text : Text) : Prop where
  sized : 1 ≤ response.length ∧ (response.length : ℤ) ≤ call.config.maximumOutputBytes
  oneLine : answerBody response ≠ [] ∧ (0x0a : UInt8) ∉ answerBody response
  decoded : utf8Decode false (answerBody response) = some text

/-- The document is bound to this call. -/
def Bound (p : Platform) (call : ExecutionCall) (members : List (Text × Json)) : Prop :=
  hasExactly resultKeys members ∧
    Json.equalsText "cathedral_workload_execution_result_v1" (Json.lookup "schema" members) ∧
    Json.equalsText (call.config.configurationDigest p)
      (Json.lookup "configuration_digest" members) ∧
    Json.equalsText call.executionId (Json.lookup "execution_id" members) ∧
    Json.equalsText (call.manifest.digest p) (Json.lookup "manifest_digest" members) ∧
    Json.equalsText call.config.workerHotkey (Json.lookup "worker_hotkey" members)

/-- An adapter that never read the clock reads it, where no reading is recorded. -/
theorem authorizationNow_first {adapter : ExternalExecutionAdapter} (nonnegative : 0 ≤ input.time)
    (available : input.available = true) (unread : w.lastTimes adapter.instanceId = none)
    (absent : w.clock.find? (adapter.config.configurationDigest p) = none) :
    ∃ later, authorizationNow p adapter input w = .ok (input.time, later) := by
  simp only [authorizationNow, bind_eq_ok, require_eq_ok, pure_eq_ok, absent, unread]
  exact ⟨_, (), ⟨nonnegative, fun _ none => absurd none (Option.not_mem_none _)⟩, (), available, (),
    rfl, rfl⟩

/-- An execution id without a row is claimed. -/
theorem claim_first {deadline : ℚ} (available : input.available = true)
    (absent : w.bindings.find? call.executionId = none) :
    ∃ w', call.claim p requestDigest token deadline input w = .ok (none, w') := by
  obtain ⟨bindings, inserted⟩ : ∃ bindings, w.bindings.insert ⟨call.executionId,
      call.manifest.digest p, requestDigest, none, some token, some deadline⟩ = some bindings :=
    Table.exists_insert (Table.find?_eq_none.mp absent)
  refine ⟨{ w with bindings := bindings }, ?_⟩
  simp only [claim, bind_eq_ok, require_eq_ok]
  refine ⟨(), available, ?_⟩
  rw [absent]
  simp only [insertBinding, bind_eq_ok, demand_eq_ok, pure_eq_ok]
  exact ⟨bindings, inserted, rfl⟩

/-- The first call on an empty database makes its claim. -/
theorem play_first {permit : ExecutionAuthorization} {turn : Program.Turn World Input}
    (named : isExecutionId call.executionId = true) (permitted : call.authorization = some permit)
    (signed : call.requirePermit p permit = .ok ()) (profiled : call.requireProfile = .ok ())
    (idle : ∀ w, turn.others w = w) (available : turn.input.available = true)
    (positive : 0 ≤ turn.input.time)
    (valid : (permit.issuedAtEpoch : ℚ) ≤ turn.input.time ∧
      turn.input.time < permit.expiresAtEpoch) :
    ∃ w, (call.executeAuthorized p token).play [turn, turn, turn] World.initial =
      (call.proceed p permit token none, w) := by
  obtain ⟨later, told⟩ : ∃ later, authorizationNow p call.adapter turn.input World.initial =
      .ok (turn.input.time, later) := authorizationNow_first positive available rfl rfl
  have absent : later.bindings.find? call.executionId = none := by
    rw [bindings_authorizationNow told]
    rfl
  obtain ⟨w, committed⟩ : ∃ w, call.claim p ((call.request p permit).digest p) token
      (turn.input.time + call.config.timeoutSeconds + 5) turn.input later = .ok (none, w) :=
    claim_first available absent
  refine ⟨w, ?_⟩
  unfold executeAuthorized verifyAuthorization
  rw [Program.play_lift, require, if_pos named]
  dsimp only
  rw [Program.bind_assoc, Program.play_lift, permitted]
  dsimp only [demand]
  rw [Program.bind_assoc, Program.play_lift, signed]
  dsimp only
  rw [Program.bind_assoc, Program.play_transact, idle, told]
  dsimp only
  rw [Program.bind_assoc, Program.play_lift, require, if_pos valid]
  dsimp only
  change (Program.lift (.ok permit) >>= _).play _ _ = _
  rw [Program.play_lift]
  dsimp only
  rw [Program.play_lift, profiled]
  dsimp only
  rw [Program.play_observe]
  dsimp only
  rw [Program.play_transact, idle, idle, committed]
  rfl

end ExecutionCall

open ExecutionCall

/-- Others leave the row of an execution id as it is, as long as its claim has not run
out. -/
def Undisturbed (executionId : Text) (turn : Program.Turn World Input) : Prop :=
  ∀ w, (turn.others w).bindings.find? executionId = w.bindings.find? executionId

namespace SampleExecution

def zeroDigest : Text :=
  "sha256:0000000000000000000000000000000000000000000000000000000000000000"

/-- A manifest without artifacts and controls. -/
def manifest : WorkloadManifest where
  image := ⟨"r.io", "image", zeroDigest⟩
  signerIdentity := "signer"
  trustRootId := "root"
  signatureDigest := zeroDigest
  policyId := "policy"
  policyDigest := zeroDigest
  argumentsDigest := zeroDigest
  configDigest := zeroDigest
  resourceProfile := "small"
  runtimeProfile := "plain"
  artifactDigests := []
  controls := ⟨false, false, false, false⟩
  checked := by
    simp only [ManifestFields.check, bind_eq_ok, require_eq_ok]
    exact ⟨(), validateIdentity_of_all (by decide) (by decide) (by decide), (), by decide, (),
      by decide, (), by decide, (), by decide, (), by decide, (), by decide, (), by decide, (),
      by decide, (), by decide, by decide⟩

def config : ExternalExecutionConfig where
  socketPath := "/run/provider.sock"
  statePath := "/run/state.db"
  expectedPeerUid := 0
  authorizationKey := List.replicate 32 0
  workerHotkey := "worker"
  resourceProfiles := ["small"]
  runtimeProfiles := ["plain"]
  timeoutSeconds := 5
  maximumOutputBytes := 8192
  maximumInputBytes := 65536
  checked := by
    simp only [ConfigFields.check, bind_eq_ok, require_eq_ok]
    exact ⟨(), by decide, (), validateIdentity_of_all (by decide) (by decide) (by decide), (),
      by decide, (), by decide, (), by decide, (), by decide, (), by decide, (),
      by decide +kernel, (), by decide, by decide⟩

def jobId : Text :=
  "execution-0000000000000000000000000000000000000000000000000000000000000000"

/-- The fields of a permit for the manifest. -/
def permitFields (capability : Text) : AuthorizationFields where
  executionId := jobId
  manifestDigest := manifest.digest .sample
  policyDigest := zeroDigest
  configurationDigest := config.configurationDigest .sample
  workerHotkey := "worker"
  productionAdmission := false
  issuedAtEpoch := 0
  expiresAtEpoch := 60
  capability := capability

/-- The signature of the permit; it does not cover itself. -/
def capability : Text :=
  executionAuthorizationCapability .sample config.authorizationKey (permitFields [])

theorem isDigest_capability : Text.isDigest "execution-hmac-sha256:" capability = true := by
  rw [Text.isDigest, capability, executionAuthorizationCapability, Bool.and_eq_true,
    List.drop_left]
  exact ⟨List.isPrefixOf_iff_prefix.mpr (List.prefix_append _ _), isHex_hexdigest _⟩

theorem check_permitFields : (permitFields capability).check = .ok () := by
  have bound : Text.isDigest "sha256:" (manifest.digest .sample) = true := isDigest_sha256Digest _
  have configured : Text.isDigest "sha256:" (config.configurationDigest .sample) = true :=
    isDigest_sha256Digest _
  simp only [AuthorizationFields.check, validateDigest, bind_eq_ok, require_eq_ok]
  exact ⟨(), (by decide : isExecutionId jobId = true), (), bound, (),
    (by decide : Text.isDigest "sha256:" zeroDigest = true), (), configured, (),
    validateIdentity_of_all (by decide) (by decide) (by decide), (),
    (by decide : (0 : ℤ) ≤ 0 ∧ (0 : ℤ) < 60 ∧ (60 : ℤ) - 0 ≤ 60), isDigest_capability⟩

def permit : ExecutionAuthorization := ⟨permitFields capability, check_permitFields⟩

def call : ExecutionCall where
  adapter := ⟨0, config⟩
  workload := ⟨manifest, .enforced, false,
    "admission-hmac-sha256:0000000000000000000000000000000000000000000000000000000000000000",
    by decide⟩
  executionId := jobId
  authorization := some permit

/-- A turn at which no other call runs and the database answers. -/
def turn (exchange : Exchange) : Program.Turn World Input := ⟨id, ⟨1, true, exchange⟩⟩

/-- A turn at which the provider cannot be reached. -/
def lonely : Program.Turn World Input :=
  turn (.unreachable "unavailable" "execution provider request failed")

/-- The answer: 4301 nines. -/
def answer : Bytes := Text.ascii (List.replicate 4301 0x39)

/-- The token of the call. -/
def drawn : Text := "token"

/-- The call claims its execution id in a database without rows. -/
theorem claims : ∃ w, (call.executeAuthorized .sample drawn).play [lonely, lonely, lonely]
    World.initial = (call.proceed .sample permit drawn none, w) := by
  have signed : call.requirePermit .sample permit = .ok () := by
    simp only [requirePermit, bind_eq_ok, require_eq_ok]
    exact ⟨(), ⟨rfl, rfl, rfl, rfl, rfl, rfl⟩, rfl⟩
  have valid : (permit.issuedAtEpoch : ℚ) ≤ lonely.input.time ∧
      lonely.input.time < permit.expiresAtEpoch := by
    change ((0 : ℤ) : ℚ) ≤ 1 ∧ (1 : ℚ) < ((60 : ℤ) : ℚ)
    norm_num
  exact play_first (by decide) rfl signed (by decide) (fun _ => rfl) rfl (by decide +kernel) valid

theorem undisturbed (exchange : Exchange) : Undisturbed call.executionId (turn exchange) :=
  fun _ => rfl

end SampleExecution

end Cathedral.Workload
