import CathedralCompute.Codec.Base64
import CathedralCompute.Codec.JsonFaults
import CathedralCompute.Semantics.Programs
import CathedralCompute.Workload.Manifest

/-!
# Execution of admitted workloads

The adapter that hands admitted workloads to a provider on the same host. Before
it asks the provider it verifies the permit of the dispatch, and binds the
execution id to one request in its database. A claim with a deadline keeps two
calls from asking at once, and only the holder of the claim may store what the
provider answered.

A call is a program: it takes one transaction for the clock of the permits, reads
the time its claim would run out, and takes one transaction for the claim, one
exchange with the provider, and one to store the answer or to release the claim.
The rest of the world takes turns with it.
-/

set_option autoImplicit false

namespace Cathedral.Workload

open Codec Semantics

/-! ## Permits -/

/-- `ExecutionAdapterError`. -/
def adapterError (category message : Text) : Failure := .executionAdapterError category message

/-- `_EXECUTION_ID_RE`. -/
def isExecutionId (t : Text) : Bool :=
  Text.isDigest "assignment-" t || Text.isDigest "execution-" t

structure AuthorizationFields where
  executionId : Text
  manifestDigest : Text
  policyDigest : Text
  configurationDigest : Text
  workerHotkey : Text
  productionAdmission : Bool
  issuedAtEpoch : ℤ
  expiresAtEpoch : ℤ
  capability : Text
deriving DecidableEq

/-- `ExecutionAuthorization.__post_init__`. -/
def AuthorizationFields.check (a : AuthorizationFields) : Except Failure Unit := do
  require (isExecutionId a.executionId)
    (admissionError "execution_denied" "execution authorization id is invalid")
  validateDigest a.manifestDigest "execution authorization manifest digest"
  validateDigest a.policyDigest "execution authorization policy digest"
  validateDigest a.configurationDigest "execution authorization configuration digest"
  validateIdentity a.workerHotkey "execution authorization worker"
  require (0 ≤ a.issuedAtEpoch ∧ a.issuedAtEpoch < a.expiresAtEpoch ∧
      a.expiresAtEpoch - a.issuedAtEpoch ≤ 60)
    (admissionError "execution_denied" "execution authorization lifetime is invalid")
  require (Text.isDigest "execution-hmac-sha256:" a.capability)
    (admissionError "execution_denied" "execution authorization capability is invalid")

/-- A permit that passed its checks. -/
structure ExecutionAuthorization extends AuthorizationFields where
  checked : toAuthorizationFields.check = .ok ()
deriving DecidableEq

namespace AuthorizationFields

/-- `ExecutionAuthorization.document`. -/
def document (a : AuthorizationFields) : List (Text × Json) :=
  [("configuration_digest", .str a.configurationDigest), ("execution_id", .str a.executionId),
    ("expires_at_epoch", .int a.expiresAtEpoch), ("issued_at_epoch", .int a.issuedAtEpoch),
    ("manifest_digest", .str a.manifestDigest), ("policy_digest", .str a.policyDigest),
    ("production_admission", .bool a.productionAdmission),
    ("schema", .str "cathedral_workload_execution_authorization_v1"),
    ("worker_hotkey", .str a.workerHotkey)]

/-- What `_execution_authorization_capability` signs. -/
def material (p : Platform) (a : AuthorizationFields) : Bytes :=
  Text.ascii "cathedral-execution-authorization-v1" ++ [0] ++ documentBytes p a.document

/-- `ExecutionAuthorization.wire_document`. -/
def wireDocument (a : AuthorizationFields) : List (Text × Json) :=
  a.document ++ [(Text.ofString "capability", Json.str a.capability)]

end AuthorizationFields

/-- `_execution_authorization_capability`. -/
def executionAuthorizationCapability (p : Platform) (key : Bytes) (a : AuthorizationFields) : Text :=
  "execution-hmac-sha256:" ++ hexText (hmacSha256 key (a.material p))

/-! ## Configuration -/

/-- The fields of an `ExternalExecutionConfig`. -/
structure ConfigFields where
  socketPath : Text
  statePath : Text
  expectedPeerUid : ℤ
  authorizationKey : Bytes
  workerHotkey : Text
  resourceProfiles : List Text
  runtimeProfiles : List Text
  timeoutSeconds : ℚ
  maximumOutputBytes : ℤ
  maximumInputBytes : ℤ

/-- A path of the configuration. -/
def isConfiguredPath (path : Text) : Bool :=
  path.head? = some 0x2f && path.length ≤ 4096 && (0 : CodePoint) ∉ path &&
    (0x0a : CodePoint) ∉ path

/-- A list of profiles of the configuration. -/
def requireProfiles (name : Text) (values : List Text) : Except Failure Unit := do
  require (values ≠ [] ∧ values.length ≤ 64 ∧ sortTexts values = values ∧ values.Nodup)
    (.valueError (name ++ " must be a sorted unique tuple"))
  requireEach (validateId · name) values

/-- `ExternalExecutionConfig.__post_init__`. -/
def ConfigFields.check (c : ConfigFields) : Except Failure Unit := do
  require (32 ≤ c.authorizationKey.length)
    (.valueError "execution authorization key must contain at least 32 bytes")
  validateIdentity c.workerHotkey "execution worker hotkey"
  require (isConfiguredPath c.socketPath)
    (.valueError "execution provider socket path is invalid")
  require (isConfiguredPath c.statePath ∧ c.statePath ≠ c.socketPath)
    (.valueError "execution provider state path is invalid")
  require (0 ≤ c.expectedPeerUid ∧ c.expectedPeerUid ≤ 2 ^ 32 - 1)
    (.valueError "execution provider peer uid is invalid")
  requireProfiles "execution resource profiles" c.resourceProfiles
  requireProfiles "execution runtime profiles" c.runtimeProfiles
  require (0 < c.timeoutSeconds ∧ c.timeoutSeconds ≤ 60)
    (.valueError "execution provider timeout must be between 0 and 60 seconds")
  require (256 ≤ c.maximumOutputBytes ∧ c.maximumOutputBytes ≤ 16 * 1024 * 1024)
    (.valueError "execution provider output bound is invalid")
  require (256 ≤ c.maximumInputBytes ∧ c.maximumInputBytes ≤ 32 * 1024 * 1024)
    (.valueError "execution provider input bound is invalid")

/-- A configuration that passed its checks. -/
structure ExternalExecutionConfig extends ConfigFields where
  checked : toConfigFields.check = .ok ()

/-- `configuration_digest`. -/
def ConfigFields.configurationDigest (p : Platform) (c : ConfigFields) : Text :=
  let keyDigest := sha256Digest
    (Text.ascii "cathedral-execution-authorization-key-v1" ++ [0] ++ c.authorizationKey)
  sha256Digest (documentBytes p
    [("authorization_key_digest", .str keyDigest), ("expected_peer_uid", .int c.expectedPeerUid),
      ("maximum_input_bytes", .int c.maximumInputBytes),
      ("maximum_output_bytes", .int c.maximumOutputBytes),
      ("resource_profiles", textArray c.resourceProfiles),
      ("runtime_profiles", textArray c.runtimeProfiles),
      ("schema", .str "cathedral_execution_adapter_configuration_v1"),
      ("socket_path", .str c.socketPath), ("state_path", .str c.statePath),
      ("timeout_seconds", .float (.finite c.timeoutSeconds)),
      ("worker_hotkey", .str c.workerHotkey)])

/-- An adapter that its constructor returned, which is one whose preflight passed.
`instanceId` tells the adapters of a run apart. -/
structure ExternalExecutionAdapter where
  instanceId : ℕ
  config : ExternalExecutionConfig

/-! ## Results -/

structure WorkloadExecutionResult where
  manifestDigest : Text
  executionId : Text
  status : Text
  providerJobId : Text
  providerReceiptDigest : Text
deriving DecidableEq

/-- What a result that the adapter cannot accept raises. -/
def resultInvalid : Failure := adapterError "invalid_result" "execution provider result is invalid"

/-- A text of a result. -/
def resultText (members : List (Text × Json)) (key : Text) (accepts : Text → Bool) :
    Except Failure Text := do
  let value ← demand resultInvalid (textOfJson (field members key))
  require (accepts value) resultInvalid
  return value

/-- The status of a result. A list or an object is no element of a set. -/
def resultStatus (members : List (Text × Json)) : Except Failure Text :=
  match field members "status" with
  | .arr _ => .error .typeError
  | .obj _ => .error .typeError
  | .str status => do
    require (status ∈ [Text.ofString "accepted", "completed"]) resultInvalid
    return status
  | _ => .error resultInvalid

/-- The keys of a result. -/
def resultKeys : List Text :=
  [Text.ofString "configuration_digest", "execution_id", "manifest_digest", "provider_job_id",
    "provider_receipt_digest", "schema", "status", "worker_hotkey"]

/-- `_result_from_document`. -/
def resultFromDocument (configurationDigest executionId manifestDigest workerHotkey : Text)
    (members : List (Text × Json)) : Except Failure WorkloadExecutionResult := do
  require (hasExactly resultKeys members ∧
      Json.equalsText "cathedral_workload_execution_result_v1" (Json.lookup "schema" members) ∧
      Json.equalsText configurationDigest (Json.lookup "configuration_digest" members) ∧
      Json.equalsText executionId (Json.lookup "execution_id" members) ∧
      Json.equalsText manifestDigest (Json.lookup "manifest_digest" members) ∧
      Json.equalsText workerHotkey (Json.lookup "worker_hotkey" members))
    (adapterError "invalid_result" "execution provider result binding is invalid")
  require (Text.isDigest "sha256:" manifestDigest ∧ isExecutionId executionId) resultInvalid
  let status ← resultStatus members
  let providerJobId ← resultText members "provider_job_id" (Text.isDigest "provider-job-")
  let providerReceiptDigest ←
    resultText members "provider_receipt_digest" (Text.isDigest "sha256:")
  return ⟨manifestDigest, executionId, status, providerJobId, providerReceiptDigest⟩

/-- The hooks of the reader of answers: no repeated keys, no floats, no
constants. -/
def answerHooks : Hooks := ⟨pythonInt, fun _ => none, fun _ => none, strictPairs⟩

/-- What an answer that cannot be read raises. -/
def malformedOutput : Failure :=
  adapterError "malformed_output" "execution provider response is invalid"

/-- An answer without the newline it may end in. -/
def answerBody (data : Bytes) : Bytes := if data.getLast? = some 0x0a then data.dropLast else data

/-- What the interpreter raises while it reads. -/
def readFailure : ReadFault → Failure
  | .longInteger => .valueError "Exceeds the limit (4300 digits) for integer string conversion"
  | .deepNesting => .recursionError

/-- The text is read without an exception of the interpreter. -/
def requireReadable (p : Platform) (text : Text) : Except Failure Unit :=
  match textFault answerHooks p.readDepth text with
  | none => .ok ()
  | some fault => .error (readFailure fault)

/-- `_parse_document`. Decode errors and what the hooks raise are malformed output; what
the interpreter raises passes through. -/
def parseDocument (p : Platform) (data : Bytes) : Except Failure (List (Text × Json)) := do
  let body := answerBody data
  require (body ≠ [] ∧ (0x0a : UInt8) ∉ body) malformedOutput
  let text ← demand malformedOutput (utf8Decode false body)
  requireReadable p text
  let document ← demand malformedOutput (loads answerHooks text)
  let members ← demand malformedOutput (membersOfJson document)
  require (document.levels ≤ p.writeDepth) .recursionError
  require (canonicalJson p document = some body) malformedOutput
  return members

/-! ## The world of the adapters -/

/-- A row of `workload_execution_bindings_v1`. -/
structure BindingRow where
  executionId : Text
  manifestDigest : Text
  requestDigest : Text
  resultJson : Option Bytes
  claimToken : Option Text
  claimUntil : Option ℚ
deriving DecidableEq

/-- A row of `workload_execution_clock_v1`. -/
structure ClockRow where
  configurationDigest : Text
  highWaterMs : ℤ
  capability : Text
deriving DecidableEq

/-- A request to the provider, with its permit. -/
structure ProviderRequest where
  configurationDigest : Text
  executionId : Text
  manifest : WorkloadManifest
  workerHotkey : Text
  authorization : ExecutionAuthorization
deriving DecidableEq

namespace ProviderRequest

/-- The request without its permit. -/
def document (p : Platform) (request : ProviderRequest) : List (Text × Json) :=
  [("configuration_digest", .str request.configurationDigest),
    ("execution_id", .str request.executionId), ("manifest", .obj request.manifest.document),
    ("manifest_digest", .str (request.manifest.digest p)),
    ("schema", .str "cathedral_workload_execution_request_v1"),
    ("worker_hotkey", .str request.workerHotkey)]

/-- `request_digest`. -/
def digest (p : Platform) (request : ProviderRequest) : Text :=
  sha256Digest (documentBytes p (request.document p))

/-- The octets that are sent. -/
def payload (p : Platform) (request : ProviderRequest) : Bytes :=
  documentBytes p (request.document p ++
    [(Text.ofString "execution_authorization", Json.obj request.authorization.wireDocument)])

end ProviderRequest

/-- The database that the adapters share, the last clock reading each of them keeps
in memory, and the requests that reached the provider with the times they did. -/
structure World where
  bindings : Table BindingRow.executionId
  clock : Table ClockRow.configurationDigest
  lastTimes : ℕ → Option ℚ
  sent : List (ProviderRequest × ℚ)

/-- A database without rows. -/
def World.initial : World := ⟨.empty, .empty, fun _ => none, []⟩

/-- How an exchange with the provider ends: nothing was sent, no answer came back,
or an answer did. A call that gets no socket at all raises past every handler, and leaves
what a call that takes no further step leaves. -/
inductive Exchange where
  | unreachable (category message : Text)
  | unanswered (category message : Text)
  | answered (response : Bytes)

/-- What a step reads from outside: a clock, whether the database answers, and the
exchange with the provider. -/
structure Input where
  time : ℚ
  available : Bool
  exchange : Exchange

/-! ## The clock of the permits -/

/-- The signature of a clock reading. -/
def clockCapability (p : Platform) (config : ConfigFields) (milliseconds : ℤ) : Text :=
  hexText (hmacSha256 config.authorizationKey
    (Text.ascii "cathedral-execution-clock-high-water-v1" ++ [0] ++
      (config.configurationDigest p).ascii ++ [0] ++ (intText milliseconds).ascii))

/-- The recorded reading is genuine and not later than the new one. -/
def requireHighWater (p : Platform) (config : ConfigFields) (milliseconds : ℤ) :
    Option ClockRow → Except Failure Unit
  | none => .ok ()
  | some row => do
    require (row.capability = clockCapability p config row.highWaterMs)
      (admissionError "execution_denied" "execution authorization clock state is invalid")
    require (row.highWaterMs ≤ milliseconds)
      (admissionError "execution_denied" "execution authorization clock moved backwards")

/-- The table of clock readings with a new row in place of the old one. -/
def ClockRow.store (row : ClockRow) (clock : Table ClockRow.configurationDigest) :
    Table ClockRow.configurationDigest :=
  let others := clock.delete fun other => other.configurationDigest = row.configurationDigest
  (others.insert row).getD others

/-- `_authorization_now`. -/
def authorizationNow (p : Platform) (adapter : ExternalExecutionAdapter) (input : Input)
    (w : World) : Except Failure (ℚ × World) := do
  require (0 ≤ input.time ∧ ∀ last ∈ w.lastTimes adapter.instanceId, last ≤ input.time)
    (admissionError "execution_denied" "execution authorization clock is invalid")
  require input.available
    (admissionError "execution_denied" "execution authorization clock is unavailable")
  let config := adapter.config.toConfigFields
  let milliseconds := (input.time * 1000).floor
  requireHighWater p config milliseconds (w.clock.find? (config.configurationDigest p))
  let row : ClockRow :=
    ⟨config.configurationDigest p, milliseconds, clockCapability p config milliseconds⟩
  return (input.time, { w with
    clock := row.store w.clock
    lastTimes := Function.update w.lastTimes adapter.instanceId (some input.time) })

/-! ## A call -/

/-- What `_execute_authorized` is called with. -/
structure ExecutionCall where
  adapter : ExternalExecutionAdapter
  workload : AdmittedWorkload
  executionId : Text
  authorization : Option ExecutionAuthorization

namespace ExecutionCall

variable (p : Platform) (call : ExecutionCall)

def config : ConfigFields := call.adapter.config.toConfigFields

def manifest : WorkloadManifest := call.workload.manifest

/-- The permit names this execution, manifest, policy, configuration, worker and
provenance, and carries the signature of the key. -/
def requirePermit (permit : ExecutionAuthorization) : Except Failure Unit := do
  require (permit.executionId = call.executionId ∧ permit.manifestDigest = call.manifest.digest p ∧
      permit.policyDigest = call.manifest.policyDigest ∧
      permit.configurationDigest = call.config.configurationDigest p ∧
      permit.workerHotkey = call.config.workerHotkey ∧
      permit.productionAdmission = call.workload.productionAdmission)
    (admissionError "execution_denied" "execution authority permit binding is invalid")
  require (permit.capability = executionAuthorizationCapability p call.config.authorizationKey
      permit.toAuthorizationFields)
    (admissionError "execution_denied" "execution authority permit is invalid")

/-- `_verify_authorization`; the permit it verified. -/
def verifyAuthorization : Program World Input Failure ExecutionAuthorization := do
  let permit ← .lift (demand
    (admissionError "execution_denied" "execution provider requires an authority permit")
    call.authorization)
  .lift (call.requirePermit p permit)
  let now ← .transact (authorizationNow p call.adapter)
  .lift (require ((permit.issuedAtEpoch : ℚ) ≤ now ∧ now < permit.expiresAtEpoch)
    (admissionError "execution_denied" "execution authority permit is expired"))
  return permit

/-- The request of a call under its permit. -/
def request (permit : ExecutionAuthorization) : ProviderRequest where
  configurationDigest := call.config.configurationDigest p
  executionId := call.executionId
  manifest := call.manifest
  workerHotkey := call.config.workerHotkey
  authorization := permit

/-- The manifest stays inside the profiles of the provider. -/
def requireProfile : Except Failure Unit :=
  require (call.manifest.resourceProfile ∈ call.config.resourceProfiles ∧
      call.manifest.runtimeProfile ∈ call.config.runtimeProfiles ∧
      call.manifest.controls.isAny = false)
    (admissionError "execution_denied" "workload is outside the provider execution profile")

/-- The result a document holds for this call. -/
def readResult (members : List (Text × Json)) : Except Failure WorkloadExecutionResult :=
  resultFromDocument (call.config.configurationDigest p) call.executionId (call.manifest.digest p)
    call.config.workerHotkey members

/-- What the database raises when it does not answer. -/
def stateUnavailable : Failure :=
  adapterError "state_unavailable" "execution state is unavailable"

/-- The claim of a row is held and has not run out. -/
def isActive (row : BindingRow) (now : ℚ) : Bool :=
  row.claimToken.isSome && row.claimUntil.any (now < ·)

/-- The first claim of an execution id. -/
def insertBinding (requestDigest token : Text) (deadline : ℚ) (w : World) :
    Except Failure (Option WorkloadExecutionResult × World) := do
  let bindings ← demand stateUnavailable (w.bindings.insert
    ⟨call.executionId, call.manifest.digest p, requestDigest, none, some token, some deadline⟩)
  return (none, { w with bindings := bindings })

/-- A claim in place of one that was released or ran out. -/
def takeOver (requestDigest token : Text) (deadline : ℚ) (w : World) : World :=
  { w with
    bindings := w.bindings.update
      (fun row => row.executionId = call.executionId ∧ row.requestDigest = requestDigest)
      fun row => { row with claimToken := some token, claimUntil := some deadline } }

/-- A row that is there: it binds the id to one request, and holds a result, or a
claim, or neither. -/
def meetBinding (requestDigest token : Text) (deadline now : ℚ) (row : BindingRow) (w : World) :
    Except Failure (Option WorkloadExecutionResult × World) := do
  require (row.manifestDigest = call.manifest.digest p ∧ row.requestDigest = requestDigest)
    (adapterError "idempotency_conflict" "execution id was reused with different bindings")
  match row.resultJson with
  | some stored => do
    let members ← parseDocument p stored
    let result ← call.readResult p members
    return (some result, w)
  | none => do
    require (isActive row now = false)
      (adapterError "in_progress" "execution request is already in progress")
    return (none, call.takeOver requestDigest token deadline w)

/-- The transaction before the provider is asked: a result that is stored, or a
claim. -/
def claim (requestDigest token : Text) (deadline : ℚ) (input : Input) (w : World) :
    Except Failure (Option WorkloadExecutionResult × World) := do
  require input.available stateUnavailable
  match w.bindings.find? call.executionId with
  | none => call.insertBinding p requestDigest token deadline w
  | some row => call.meetBinding p requestDigest token deadline input.time row w

/-- The document of an answer, with the result it holds. -/
def readAnswer (response : Bytes) :
    Except Failure (List (Text × Json) × WorkloadExecutionResult) := do
  require (1 ≤ response.length ∧ (response.length : ℤ) ≤ call.config.maximumOutputBytes)
    (adapterError "oversized_output" "execution provider output exceeded its bound")
  let members ← parseDocument p response
  let result ← call.readResult p members
  return (members, result)

/-- `_invoke` and the reading of the answer: what came of it, and the world with the
request if it was sent. -/
def invoke (permit : ExecutionAuthorization) (input : Input) (w : World) :
    Except Failure (List (Text × Json) × WorkloadExecutionResult) × World :=
  let request := call.request p permit
  if call.config.maximumInputBytes < ((request.payload p).length : ℤ) then
    (.error (adapterError "oversized_input" "execution provider input exceeded its bound"), w)
  else
    let sent := { w with sent := w.sent ++ [(request, input.time)] }
    match input.exchange with
    | .unreachable category message => (.error (adapterError category message), w)
    | .unanswered category message => (.error (adapterError category message), sent)
    | .answered response => (call.readAnswer p response, sent)

/-- The claim given back. -/
def release (requestDigest token : Text) (input : Input) (w : World) :
    Except Failure (Unit × World) := do
  require input.available stateUnavailable
  return ((), { w with
    bindings := w.bindings.update
      (fun row => row.executionId = call.executionId ∧ row.requestDigest = requestDigest ∧
        row.claimToken = some token ∧ row.resultJson = none)
      fun row => { row with claimToken := none, claimUntil := none } })

/-- The row of a call that still holds its claim. -/
def Held (requestDigest token : Text) (row : BindingRow) : Prop :=
  row.executionId = call.executionId ∧ row.requestDigest = requestDigest ∧
    row.claimToken = some token

instance (requestDigest token : Text) (row : BindingRow) :
    Decidable (call.Held requestDigest token row) :=
  inferInstanceAs (Decidable (_ ∧ _))

/-- The transaction after the provider answered. -/
def store (requestDigest token : Text) (canonicalResult : Bytes) (input : Input) (w : World) :
    Except Failure (Unit × World) := do
  require input.available stateUnavailable
  require ((w.bindings.select (call.Held requestDigest token)).length = 1)
    (adapterError "state_unavailable" "execution state claim was lost")
  return ((), { w with
    bindings := w.bindings.update (call.Held requestDigest token)
      fun row => { row with
        resultJson := some canonicalResult
        claimToken := none
        claimUntil := none } })

/-- What follows the exchange with the provider. -/
def conclude (requestDigest token : Text) :
    Except Failure (List (Text × Json) × WorkloadExecutionResult) →
      Program World Input Failure WorkloadExecutionResult
  | .ok (members, result) => do
    .transact (call.store requestDigest token (documentBytes p members))
    return result
  | .error (.executionAdapterError category message) => do
    .transact (call.release requestDigest token)
    .lift (.error (adapterError category message))
  | .error failure => .lift (.error failure)

/-- What follows the claim. -/
def proceed (permit : ExecutionAuthorization) (token : Text) :
    Option WorkloadExecutionResult → Program World Input Failure WorkloadExecutionResult
  | some result => return result
  | none => do
    let answer ← .transact fun input w => .ok (call.invoke p permit input w)
    call.conclude p ((call.request p permit).digest p) token answer

/-- `_execute_authorized`, with the claim token it draws. -/
def executeAuthorized (token : Text) : Program World Input Failure WorkloadExecutionResult := do
  .lift (require (isExecutionId call.executionId)
    (admissionError "execution_denied" "execution id is invalid"))
  let permit ← call.verifyAuthorization p
  .lift call.requireProfile
  let requestDigest := (call.request p permit).digest p
  let deadline ← .observe fun input _ => .ok (input.time + call.config.timeoutSeconds + 5)
  let claimed ← .transact (call.claim p requestDigest token deadline)
  call.proceed p permit token claimed

end ExecutionCall

end Cathedral.Workload
