import CathedralCompute.Ledger.State

/-!
# Customer jobs

Customers enqueue SAT items; workers claim them under a lease that names one
challenge of the running epoch, and resolve challenge and job together. This
module holds the payload codec, the checks on a result, and the operations that
write `customer_jobs`. Clock readings and random identifiers are arguments.
-/

set_option autoImplicit false

namespace Cathedral.Ledger

open Codec Semantics Cathedral.Sat

def maxCustomerJobResultBytes : ℕ := 64 * 1024

def maxCustomerJobErrorLength : ℕ := 1000

def maxActiveCustomerJobs : ℕ := 1024

def maxActiveCustomerJobsPerCustomer : ℕ := 64

def maxCustomerJobStorageBytes : ℕ := 256 * 1024 * 1024

/-- `[A-Za-z0-9][A-Za-z0-9._:-]{0,127}`, the form of customer and key ids. -/
def isPublicIdentifier : Text → Bool
  | [] => false
  | c :: rest =>
    Text.isAlphanumeric c && rest.length ≤ 127 &&
      rest.all fun d => Text.isAlphanumeric d || d = 0x2e || d = 0x5f || d = 0x3a || d = 0x2d

/-- `[\x21-\x7e]{1,128}`. -/
def isIdempotencyKey (t : Text) : Bool := 1 ≤ t.length && t.length ≤ 128 && t.all Text.isVisible

/-! ## Payloads -/

/-- The stored form of an item. -/
def customerItemDocument (item : SatWorkItem) : Json := .obj
  [("challenge_id", .str item.challengeId), ("clauses", clausesJson item.satInstance.clauses),
    ("n_vars", .int item.satInstance.nVars), ("seed", .int item.seed)]

/-- `_customer_item_body`. -/
def customerItemBody (p : Platform) (item : SatWorkItem) : Except Failure Bytes := do
  (validateSatWorkItem p item).mapError .ledgerError
  demand (.valueError "Out of range float values are not JSON compliant")
    (canonicalJson p (customerItemDocument item))

/-- A JSON array of arrays of integers. -/
def clausesOfJson : Json → Option (List (List ℤ))
  | .arr items => items.mapM intsOfJson
  | _ => none

/-- The item a stored document describes. -/
def itemOfDocument : Json → Option SatWorkItem
  | .obj members =>
    if hasExactly ["challenge_id", "clauses", "n_vars", "seed"] members then do
      let nVars ← (Json.lookup "n_vars" members).bind intOfJson
      let clauses ← (Json.lookup "clauses" members).bind clausesOfJson
      let seed ← (Json.lookup "seed" members).bind intOfJson
      let challengeId ← (Json.lookup "challenge_id" members).bind textOfJson
      return ⟨⟨nVars, clauses⟩, seed, challengeId⟩
    else none
  | _ => none

/-- `_customer_item_from_body`. -/
def customerItemFromBody (p : Platform) (body : Bytes) (digest : Text) :
    Except Failure SatWorkItem := do
  require (sha256Digest body = digest)
    (.ledgerError "customer job payload integrity check failed")
  let item ← demand (.ledgerError "customer job payload is invalid")
    ((loadsBytes (strictHooks p) p.decodeWide body).bind itemOfDocument)
  (validateSatWorkItem p item).mapError fun _ => .ledgerError "customer job payload is invalid"
  return item

/-- `_customer_dispatch_item`: the instance of the job under a seed and challenge
id of this attempt alone. -/
def customerDispatchItem (p : Platform) (original : SatWorkItem) (jobId : Text) (attempt : ℕ) :
    SatWorkItem :=
  let document : Json := .obj
    [("domain", .str "cathedral-customer-sat-dispatch-v1"), ("job_id", .str jobId),
      ("attempt", .int attempt), ("submitted_seed", .int original.seed)]
  let seedMaterial := (document.sortKeys.render (compactStyle p)).ascii
  let dispatchSeed : ℤ := (fromBigEndian ((sha256 seedMaterial).take 8) % 2 ^ 63 : ℕ)
  ⟨original.satInstance, dispatchSeed, computeChallengeId p original.satInstance dispatchSeed⟩

/-! ## Results -/

/-- A Python mapping with string keys. -/
structure Mapping where
  members : List (Text × Json)
  distinct : (members.map Prod.fst).Nodup

/-- The authority to complete one attempt at a job. -/
structure CustomerJobLease where
  jobId : Text
  leaseToken : Text
  ownerHotkey : Text
  epochId : ℕ
  challengeId : Text
  attempt : ℕ
  item : SatWorkItem

/-- `_customer_result_body`. -/
def customerResultBody (p : Platform) : Option Mapping → Except Failure (Option Bytes)
  | none => .ok none
  | some result => do
    let body ← demand (.ledgerError "customer job result is invalid")
      (canonicalJson p (.obj result.members))
    require (body ≠ [] ∧ body.length ≤ maxCustomerJobResultBytes)
      (.ledgerError "customer job result exceeds size limit")
    return some body

/-- Whether a JSON value is the work units of a customer job. -/
def isCustomerWorkUnits : Option Json → Bool
  | some (.int z) => (z : ℚ) = customerSatWorkUnits
  | some (.float (.finite q)) => q = customerSatWorkUnits
  | _ => false

def isBool : Option Json → Bool
  | some (.bool _) => true
  | _ => false

/-- `_validate_customer_result`. -/
def validateCustomerResult (lease : CustomerJobLease) (result : Mapping) :
    Except Failure Unit := do
  require (hasExactly ["satisfiable", "assignment", "work_units", "challenge_id",
      "assigned_hotkey"] result.members)
    (.ledgerError "customer job result schema is invalid")
  let satisfiable := Json.lookup "satisfiable" result.members
  require (isBool satisfiable ∧
      Json.equalsText lease.challengeId (Json.lookup "challenge_id" result.members) ∧
      Json.equalsText lease.ownerHotkey (Json.lookup "assigned_hotkey" result.members) ∧
      isCustomerWorkUnits (Json.lookup "work_units" result.members))
    (.ledgerError "customer job result does not match its dispatch")
  require (∃ value ∈ satisfiable, value.isTrue)
    (.ledgerError "customer job success requires a satisfiable assignment witness")
  let assignment ← demand (.ledgerError "customer job SAT result assignment is invalid")
    ((Json.lookup "assignment" result.members).bind intsOfJson)
  require ((assignment.length : ℤ) = lease.item.satInstance.nVars)
    (.ledgerError "customer job SAT result assignment is invalid")
  require (namesVariables lease.item.satInstance.nVars assignment)
    (.ledgerError "customer job SAT result assignment is invalid")
  require (∀ clause ∈ lease.item.satInstance.clauses, ∃ literal ∈ clause, literal ∈ assignment)
    (.ledgerError "customer job SAT result does not satisfy its instance")

inductive Disposition where
  | succeeded
  | failed
  | retry
deriving DecidableEq

def Disposition.ofText (t : Text) : Option Disposition :=
  if t = Text.ofString "succeeded" then some succeeded
  else if t = Text.ofString "failed" then some failed
  else if t = Text.ofString "retry" then some retry
  else none

/-- The customer side of a resolution, once its arguments are checked. -/
structure Resolution where
  lease : CustomerJobLease
  disposition : Disposition
  resultBody : Option Bytes
  error : Option Text
  maxAttempts : ℤ

/-- The customer arguments of a resolution. -/
structure CustomerArguments where
  lease : Option CustomerJobLease
  disposition : Option Text
  result : Option Mapping
  error : Option Text
  maxAttempts : ℤ

/-- The arguments of a resolution that does not concern a customer job. -/
def CustomerArguments.none : CustomerArguments := ⟨.none, .none, .none, .none, 3⟩

/-- The checks of a disposition against the challenge status and the result. -/
def validateDisposition (status : ChallengeStatus) (lease : CustomerJobLease)
    (disposition : Disposition) (arguments : CustomerArguments) : Except Failure Unit :=
  if disposition = .succeeded then do
    require (status = .verified ∧ arguments.error = .none)
      (.ledgerError "successful customer jobs require a verified bounded result")
    let result ← demand
      (.ledgerError "successful customer jobs require a verified bounded result")
      arguments.result
    validateCustomerResult lease result
  else
    require ((status = .failed ∨ status = .abandoned) ∧ arguments.result.isNone)
      (.ledgerError "failed or retried customer jobs require a failed resolution")

/-- `_validate_customer_resolution`. -/
def validateCustomerResolution (p : Platform) (status : ChallengeStatus)
    (arguments : CustomerArguments) : Except Failure (Option Resolution) :=
  match arguments.lease with
  | .none => do
    require (arguments.disposition = .none ∧ arguments.result.isNone ∧ arguments.error = .none)
      (.ledgerError "customer resolution fields require a customer lease")
    return .none
  | some lease => do
    let disposition ← demand (.ledgerError "customer job disposition is invalid")
      (arguments.disposition.bind Disposition.ofText)
    require (1 ≤ arguments.maxAttempts ∧ arguments.maxAttempts ≤ 100)
      (.ledgerError "customer_max_attempts must be between 1 and 100")
    validateDisposition status lease disposition arguments
    require (∀ error ∈ arguments.error,
        error.strip ≠ [] ∧ error.length ≤ maxCustomerJobErrorLength)
      (.ledgerError "customer job error must be a bounded nonempty string")
    require (disposition ≠ .succeeded → arguments.error ≠ .none)
      (.ledgerError "failed or retried customer jobs require an error")
    let resultBody ← customerResultBody p arguments.result
    return some ⟨lease, disposition, resultBody, arguments.error.map Text.strip,
      arguments.maxAttempts⟩

/-! ## Lease checks and job resolution inside a transaction -/

/-- `_require_current_customer_lease`. -/
def requireCurrentCustomerLease (p : Platform) (s : State) (lease : CustomerJobLease)
    (now : Instant) : Except Failure Unit := do
  storable [lease.jobId]
  let row ← demand (.ledgerError ("customer job " ++ p.repr lease.jobId ++ " not found"))
    (s.jobs.find? lease.jobId)
  let current ← demand
    (.ledgerError "customer job lease is stale or does not match its dispatch") row.status.lease?
  require (current.token = lease.leaseToken ∧ current.owner = lease.ownerHotkey ∧
      current.epochId = lease.epochId ∧ current.challengeId = lease.challengeId ∧
      row.attemptCount = lease.attempt)
    (.ledgerError "customer job lease is stale or does not match its dispatch")
  let original ← customerItemFromBody p row.payloadBody row.payloadDigest
  require (lease.item = customerDispatchItem p original lease.jobId lease.attempt)
    (.ledgerError "customer job lease item does not match its durable payload")
  require (now < current.expiresAt) (.ledgerError "customer job lease has expired")

/-- The status a resolved job ends in. -/
def Resolution.finalStatus (resolution : Resolution) : JobStatus :=
  if resolution.disposition = .succeeded then .succeeded
  else if resolution.disposition = .retry ∧ (resolution.lease.attempt : ℤ) < resolution.maxAttempts
  then .queued
  else .failed

/-- The row of a resolved job. -/
def Resolution.apply (resolution : Resolution) (now : Instant) (row : JobRow) : JobRow :=
  { row with
    status := resolution.finalStatus
    availableAt := now
    resultBody := resolution.resultBody
    resultDigest := resolution.resultBody.map sha256Digest
    lastError := resolution.error
    resolvedAt := if resolution.finalStatus = .queued then none else some now }

/-- The row is leased under the given token. -/
def JobRow.LeasedUnder (row : JobRow) (jobId token : Text) : Prop :=
  row.jobId = jobId ∧ ∃ lease ∈ row.status.lease?, lease.token = token

instance (row : JobRow) (jobId token : Text) : Decidable (row.LeasedUnder jobId token) :=
  inferInstanceAs (Decidable (_ ∧ _))

/-- `_resolve_customer_job_in_transaction`. -/
def resolveCustomerJobInTransaction (s : State) (resolution : Resolution) (now : Instant) :
    Except Failure State := do
  storable (resolution.lease.jobId :: resolution.lease.leaseToken :: resolution.error.toList)
  require (∃ row ∈ s.jobs.rows,
      row.LeasedUnder resolution.lease.jobId resolution.lease.leaseToken)
    (.ledgerError "customer job lease changed during atomic resolution")
  return { s with
    jobs := s.jobs.update
      (fun row => row.LeasedUnder resolution.lease.jobId resolution.lease.leaseToken)
      (resolution.apply now) }

/-! ## Snapshots of a job -/

/-- `CustomerJobSnapshot`. -/
structure CustomerJobSnapshot where
  jobId : Text
  customerId : Text
  status : Text
  attemptCount : ℕ
  item : SatWorkItem
  idempotencyKey : Option Text
  leaseOwner : Option Text
  leaseEpochId : Option ℕ
  result : Option (List (Text × Json))
  lastError : Option Text

/-- `_customer_job_snapshot`. -/
def customerJobSnapshot (p : Platform) (row : JobRow) : Except Failure CustomerJobSnapshot := do
  let result ← match row.resultBody with
    | none => .ok none
    | some body => do
      require (row.resultDigest = some (sha256Digest body))
        (.ledgerError "customer job result integrity check failed")
      match loadsBytes (strictHooks p) p.decodeWide body with
      | some (.obj members) => .ok (some members)
      | _ => .error (.ledgerError "customer job result is invalid")
  let item ← customerItemFromBody p row.payloadBody row.payloadDigest
  return {
    jobId := row.jobId
    customerId := row.customerId
    status := row.status.value
    attemptCount := row.attemptCount
    item := item
    idempotencyKey := row.idempotencyKey
    leaseOwner := row.status.lease?.map Lease.owner
    leaseEpochId := row.status.lease?.map Lease.epochId
    result := result
    lastError := row.lastError }

/-- `customer_job`. -/
def customerJob (p : Platform) (s : State) (jobId : Text) :
    Except Failure CustomerJobSnapshot := do
  require (jobId.take 4 = Text.ofString "job-" ∧ Text.isHex 32 (jobId.drop 4))
    (.ledgerError "customer job_id is invalid")
  let row ← demand (.ledgerError ("customer job " ++ p.repr jobId ++ " not found"))
    (s.jobs.find? jobId)
  customerJobSnapshot p row

/-! ## Enqueueing -/

/-- Queued or leased. -/
def JobRow.IsActive (row : JobRow) : Prop := ¬ row.status.IsTerminal

instance (row : JobRow) : Decidable row.IsActive := inferInstanceAs (Decidable (¬ _))

/-- `LENGTH(text)`, which stops at the first NUL. -/
def sqlLength (t : Text) : ℕ := (t.takeWhile (· ≠ 0)).length

/-- The bytes a job is charged with; an active job reserves the largest
result. -/
def JobRow.storageBytes (row : JobRow) : ℕ :=
  row.payloadBody.length +
    (if row.IsActive then maxCustomerJobResultBytes
      else (row.resultBody.map List.length).getD 0) +
    (row.lastError.map sqlLength).getD 0

/-- `enqueue_customer_job`. -/
def enqueueCustomerJob (p : Platform) (item : SatWorkItem) (customerId : Text)
    (idempotencyKey : Option Text) (newJobId : Text) (now : Instant) (s : State) :
    Except Failure (CustomerJobSnapshot × State) := do
  require (isPublicIdentifier customerId)
    (.ledgerError "customer_id must be a bounded public identifier")
  require (∀ key ∈ idempotencyKey, isIdempotencyKey key)
    (.ledgerError "idempotency_key must be 1-128 printable non-space ASCII bytes")
  let body ← customerItemBody p item
  let digest := sha256Digest body
  match idempotencyKey.bind fun key => (s.jobs.select fun row =>
      row.customerId = customerId ∧ row.idempotencyKey = some key).head? with
  | some existing =>
    require (existing.payloadDigest = digest)
      (.ledgerError "idempotency_key was already used for different work")
    let snapshot ← customerJobSnapshot p existing
    return (snapshot, s)
  | none =>
    require ((s.jobs.select JobRow.IsActive).length < maxActiveCustomerJobs)
      (.ledgerError "customer job queue capacity reached")
    require ((s.jobs.select fun row => row.customerId = customerId ∧ row.IsActive).length <
        maxActiveCustomerJobsPerCustomer)
      (.ledgerError "customer active-job quota reached")
    require ((s.jobs.rows.map JobRow.storageBytes).sum + (body.length + maxCustomerJobResultBytes)
        ≤ maxCustomerJobStorageBytes)
      (.ledgerError "customer job ledger storage capacity reached; prune terminal jobs")
    let row : JobRow :=
      { jobId := newJobId, customerId := customerId, idempotencyKey := idempotencyKey,
        payloadBody := body, payloadDigest := digest, status := .queued, submittedAt := now,
        availableAt := now, attemptCount := 0, resultBody := none, resultDigest := none,
        lastError := none, resolvedAt := none }
    let jobs ← demand .integrityError (s.jobs.insert row)
    let snapshot ← customerJobSnapshot p row
    return (snapshot, { s with jobs := jobs })

/-! ## Pruning -/

/-- `ORDER BY resolved_at, job_id`. -/
def pruneOrder (a b : JobRow) : Prop :=
  a.resolvedAt.getD 0 < b.resolvedAt.getD 0 ∨
    (a.resolvedAt.getD 0 = b.resolvedAt.getD 0 ∧ a.jobId ≤ b.jobId)

instance : DecidableRel pruneOrder := fun _ _ => inferInstanceAs (Decidable (_ ∨ _))

/-- The jobs a pruning call may delete, oldest first. -/
def prunable (s : State) (resolvedBefore : Instant) (customerId : Option Text) : List JobRow :=
  (s.jobs.select fun row => row.status.IsTerminal ∧
    (∃ resolvedAt ∈ row.resolvedAt, resolvedAt < resolvedBefore) ∧
    ∀ customer ∈ customerId, row.customerId = customer).insertionSort pruneOrder

/-- `prune_customer_jobs`. -/
def pruneCustomerJobs (resolvedBefore : Instant) (limit : ℤ) (customerId : Option Text)
    (s : State) : Except Failure (ℕ × State) := do
  require (1 ≤ limit ∧ limit ≤ 10000) (.ledgerError "prune limit must be between 1 and 10000")
  require (∀ customer ∈ customerId, isPublicIdentifier customer)
    (.ledgerError "customer_id must be a bounded public identifier")
  let pruned := ((prunable s resolvedBefore customerId).take limit.toNat).map JobRow.jobId
  return (pruned.length, { s with jobs := s.jobs.delete fun row => row.jobId ∈ pruned })

/-! ## Claiming -/

/-- A row released from its lease; `resolvedAt` is set when it is not retried. -/
def JobRow.release (row : JobRow) (status : JobStatus) (now : Instant) (error : Text)
    (resolvedAt : Option Instant) : JobRow :=
  { row with
    status := status, availableAt := now, lastError := some error, resolvedAt := resolvedAt }

/-- A fresh challenge. -/
def ChallengeRow.issue (challengeId : Text) (epochId : ℕ) (hotkey : Text) (now : Instant) :
    ChallengeRow :=
  { challengeId := challengeId, epochId := epochId, hotkey := hotkey, status := .issued,
    workUnits := 0, issuedAt := now, resolvedAt := none }

/-- An issued challenge given up. -/
def ChallengeRow.abandon (row : ChallengeRow) (now : Instant) : ChallengeRow :=
  { row with status := .abandoned, workUnits := 0, resolvedAt := some now }

/-- The challenges with one issued challenge given up. -/
def abandonIssued (challenges : Table ChallengeRow.challengeId) (challengeId : Text)
    (now : Instant) : Table ChallengeRow.challengeId :=
  challenges.update (fun row => row.challengeId = challengeId ∧ row.status = .issued)
    (fun row => row.abandon now)

/-- Take a lease back: its challenge is given up and its job released. -/
def takeBack (now : Instant) (status : JobStatus) (error : Text)
    (resolvedAt : JobRow → Option Instant) (s : State) (job : JobRow × Lease) : State :=
  { s with
    challenges := abandonIssued s.challenges job.2.challengeId now
    jobs := s.jobs.update (fun row => row.jobId = job.1.jobId) fun row =>
      row.release status now error (resolvedAt row) }

/-- One turn of the loop over expired leases: the job is queued again, or failed
when its attempts are used up. -/
def reclaim (now : Instant) (maxAttempts : ℤ) (s : State) (stale : JobRow × Lease) : State :=
  let terminal : Prop := maxAttempts ≤ (stale.1.attemptCount : ℤ)
  takeBack now (if terminal then .failed else .queued) "customer job lease expired"
    (fun _ => if terminal then some now else none) s stale

/-- The leased jobs that meet a condition on their lease, with their leases. -/
def leasedJobs (s : State) (condition : Lease → Prop) [DecidablePred condition] :
    List (JobRow × Lease) :=
  s.jobs.rows.filterMap fun row =>
    row.status.lease?.bind fun lease => if condition lease then some (row, lease) else none

/-- The queued jobs that have used up their attempts are failed. -/
def failExhausted (now : Instant) (maxAttempts : ℤ) (s : State) : State :=
  { s with
    jobs := s.jobs.update
      (fun row => row.status = .queued ∧ maxAttempts ≤ (row.attemptCount : ℤ))
      fun row => { row with
        status := .failed, lastError := some (Text.ofString "customer job retry limit reached"),
        resolvedAt := some now } }

/-- The state in which a claim looks for work: expired leases are reclaimed and
exhausted jobs failed. -/
def sweep (now : Instant) (maxAttempts : ℤ) (s : State) : State :=
  failExhausted now maxAttempts
    ((leasedJobs s fun lease => lease.expiresAt ≤ now).foldl (reclaim now maxAttempts) s)

/-- `ORDER BY available_at, submitted_at, job_id`. -/
def claimOrder (a b : JobRow) : Prop :=
  a.availableAt < b.availableAt ∨ (a.availableAt = b.availableAt ∧
    (a.submittedAt < b.submittedAt ∨ (a.submittedAt = b.submittedAt ∧ a.jobId ≤ b.jobId)))

instance : DecidableRel claimOrder := fun _ _ => inferInstanceAs (Decidable (_ ∨ _))

/-- The job a claim takes. -/
def nextQueued (now : Instant) (maxAttempts : ℤ) (s : State) : Option JobRow :=
  ((s.jobs.select fun row => row.status = .queued ∧ row.availableAt ≤ now ∧
    (row.attemptCount : ℤ) < maxAttempts).insertionSort claimOrder).head?

/-- The row of a leased job. -/
def JobRow.leaseTo (row : JobRow) (lease : Lease) (attempt : ℕ) : JobRow :=
  { row with
    status := .leased lease, attemptCount := attempt, lastError := none, resolvedAt := none }

/-- Lease the job under a fresh challenge. -/
def leaseJob (p : Platform) (ownerHotkey : Text) (epochId : ℕ) (leaseSeconds : ℤ)
    (leaseToken : Text) (now : Instant) (row : JobRow) (s : State) :
    Except Failure (Option CustomerJobLease × State) := do
  let original ← customerItemFromBody p row.payloadBody row.payloadDigest
  let attempt := row.attemptCount + 1
  let item := customerDispatchItem p original row.jobId attempt
  let expiresAt := now + Instant.seconds leaseSeconds.toNat
  storable [ownerHotkey]
  let challenges ← demand (.ledgerError "failed to issue a unique customer job challenge")
    (s.challenges.insert (.issue item.challengeId epochId ownerHotkey now))
  let lease : Lease := ⟨leaseToken, ownerHotkey, epochId, item.challengeId, expiresAt⟩
  return (some ⟨row.jobId, leaseToken, ownerHotkey, epochId, item.challengeId, attempt, item⟩,
    { s with
      challenges := challenges
      jobs := s.jobs.update (fun job => job.jobId = row.jobId ∧ job.status = .queued) fun job =>
        job.leaseTo lease attempt })

/-- `claim_customer_job`. -/
def claimCustomerJob (p : Platform) (ownerHotkey : Text) (epochId : ℕ)
    (leaseSeconds maxAttempts : ℤ) (leaseToken : Text) (now : Instant) (s : State) :
    Except Failure (Option CustomerJobLease × State) := do
  require (ownerHotkey ≠ [] ∧ ownerHotkey.length ≤ 256)
    (.ledgerError "customer job owner hotkey is invalid")
  require (1 ≤ leaseSeconds ∧ leaseSeconds ≤ 86400)
    (.ledgerError "lease_seconds must be between 1 and 86400")
  require (1 ≤ maxAttempts ∧ maxAttempts ≤ 100)
    (.ledgerError "max_attempts must be between 1 and 100")
  requireRunning s epochId "claim customer jobs"
  let swept := sweep now maxAttempts s
  match nextQueued now maxAttempts swept with
  | none => return (none, swept)
  | some row => leaseJob p ownerHotkey epochId leaseSeconds leaseToken now row swept

end Cathedral.Ledger
