import CathedralCompute.Platform

/-!
# Workload manifests

The reference of an image, a workload policy, a request, and the manifest that
admission makes of them. Every one of them checks its fields when it is built and
carries the proof that it passed. References hold no tag, no credentials and no
transport syntax, so a manifest names one immutable image.
-/

set_option autoImplicit false

namespace Cathedral.Workload

open Codec Semantics

/-! ## Checks of fields -/

/-- `WorkloadAdmissionError`. -/
def admissionError (category message : Text) : Failure := .workloadAdmissionError category message

/-- `_validate_digest`. -/
def validateDigest (value name : Text) : Except Failure Unit :=
  require (Text.isDigest "sha256:" value)
    (admissionError "invalid_manifest" (name ++ " must be a SHA-256 digest"))

/-- A character that may stand first in an id. -/
def isIdHead (c : CodePoint) : Bool := Text.isDigit c || Text.inRange 'a' 'z' c

/-- `_ID_RE`. -/
def isId : Text → Bool
  | [] => false
  | c :: rest => isIdHead c && rest.length ≤ 63 &&
      rest.all fun c => isIdHead c || c ∈ ([0x2e, 0x5f, 0x2d] : Text)

/-- `_validate_id`. -/
def validateId (value name : Text) : Except Failure Unit :=
  require (isId value) (admissionError "invalid_policy" (name ++ " is invalid"))

/-- `_validate_identity`. -/
def validateIdentity (value name : Text) : Except Failure Unit :=
  require (1 ≤ value.length ∧ value.length ≤ 256 ∧ value = value.strip ∧
      ∀ c ∈ value, 0x20 ≤ c.val ∧ c.val ≠ 0x7f)
    (admissionError "invalid_policy" (name ++ " is invalid"))

/-- The check of an identity, character by character. -/
theorem validateIdentity_of_all {value name : Text}
    (sized : 1 ≤ value.length ∧ value.length ≤ 256) (stripped : value = value.strip)
    (plain : (value.all fun c => 0x20 ≤ c.val && c.val ≠ 0x7f) = true) :
    validateIdentity value name = .ok () := by
  refine require_eq_ok.mpr ⟨sized.1, sized.2, stripped, fun c listed => ?_⟩
  have kept := List.all_eq_true.mp plain c listed
  rw [Bool.and_eq_true, decide_eq_true_eq, decide_eq_true_eq] at kept
  exact kept

/-- `sorted` of a collection of texts. -/
def sortTexts (texts : List Text) : List Text := texts.insertionSort (· ≤ ·)

/-! ## Image references -/

/-- `_REGISTRY_LABEL_RE`. -/
def isRegistryLabel (label : Text) : Bool :=
  1 ≤ label.length && label.length ≤ 63 && label.head?.any isIdHead && label.getLast?.any isIdHead &&
    label.all fun c => isIdHead c || c = 0x2d

/-- `_REPOSITORY_COMPONENT_RE`: runs of letters and digits with single separators
between them. -/
def isRepositoryComponent (component : Text) : Bool :=
  component.head?.any isIdHead && component.getLast?.any isIdHead &&
    component.all (fun c => isIdHead c || c ∈ ([0x2e, 0x5f, 0x2d] : Text)) &&
    (component.zip component.tail).all fun (c, d) => isIdHead c || isIdHead d

/-- What `_validate_registry` raises. -/
def registryInvalid : Failure := admissionError "invalid_image_reference" "image registry is invalid"

/-- `_validate_registry`. -/
def validateRegistry (p : Platform) (production : Bool) (registry : Text) : Except Failure Unit := do
  require (1 ≤ registry.length ∧ registry.length ≤ 253 ∧ registry = p.lower registry ∧
      (0x3a : CodePoint) ∉ registry) registryInvalid
  require ((registry.splitOn 0x2e).all isRegistryLabel) registryInvalid
  require (p.ipAddress registry = none)
    (admissionError "invalid_image_reference" "IP-literal image registries are unavailable")
  require (production → registry ≠ Text.ofString "localhost" ∧ (0x2e : CodePoint) ∈ registry)
    (admissionError "invalid_image_reference" "production image registry must be a DNS name")

structure ImageReference where
  registry : Text
  repository : Text
  digest : Text
deriving DecidableEq

/-- Whether the needle stands somewhere in the text. -/
def containsText (needle text : Text) : Bool := text.tails.any fun rest => needle.isPrefixOf rest

/-- `ImageReference.parse`. -/
def ImageReference.parse (p : Platform) (production : Bool) (raw : Text) :
    Except Failure ImageReference := do
  require ((1 ≤ raw.length ∧ raw.length ≤ 512) ∧ raw = raw.strip ∧ raw.count 0x40 = 1 ∧
      (∀ token ∈ [Text.ofString "://", "?", "#", "%", "\\"], containsText token raw = false) ∧
      ∀ c ∈ raw, 0x21 ≤ c.val ∧ c.val ≠ 0x7f)
    (admissionError "invalid_image_reference" "image reference must be an immutable OCI digest")
  let name := raw.takeWhile (· ≠ 0x40)
  let digest := (raw.dropWhile (· ≠ 0x40)).tail
  require ((0x2f : CodePoint) ∈ name ∧ (0x3a : CodePoint) ∉ name)
    (admissionError "invalid_image_reference"
      "image reference cannot contain a tag or credentials")
  let registry := name.takeWhile (· ≠ 0x2f)
  let repository := (name.dropWhile (· ≠ 0x2f)).tail
  validateRegistry p production registry
  require ((1 ≤ repository.length ∧ repository.length ≤ 255) ∧ repository = p.lower repository ∧
      (repository.splitOn 0x2f).all isRepositoryComponent)
    (admissionError "invalid_image_reference" "image repository is invalid")
  require (Text.isDigest "sha256:" digest)
    (admissionError "invalid_image_reference" "image digest must use canonical SHA-256")
  return ⟨registry, repository, digest⟩

/-- `ImageReference.canonical`. -/
def ImageReference.canonical (image : ImageReference) : Text :=
  image.registry ++ [0x2f] ++ image.repository ++ [0x40] ++ image.digest

/-! ## Policies -/

/-- An array of texts. -/
def textArray (texts : List Text) : Json := .arr (texts.map .str)

/-- A workload policy. Its sets are lists in any order. -/
structure PolicyFields where
  policyId : Text
  allowedRegistries : List Text
  allowedSigners : List Text
  trustedRootIds : List Text
  allowedResourceProfiles : List Text
  allowedRuntimeProfiles : List Text

/-- A set of a policy has 1 to 256 elements. -/
def requireBounded (name : Text) (values : List Text) : Except Failure Unit :=
  require (1 ≤ values.dedup.length ∧ values.dedup.length ≤ 256)
    (admissionError "invalid_policy" (name ++ " must be nonempty"))

/-- A check of every element. -/
def requireEach (check : Text → Except Failure Unit) (values : List Text) : Except Failure Unit :=
  values.foldlM (fun _ value => check value) ()

/-- `WorkloadAdmissionPolicy.__post_init__`. -/
def PolicyFields.check (p : Platform) (policy : PolicyFields) : Except Failure Unit := do
  validateId policy.policyId "policy id"
  requireBounded "allowed registries" policy.allowedRegistries
  requireBounded "allowed signers" policy.allowedSigners
  requireBounded "trusted root ids" policy.trustedRootIds
  requireBounded "allowed resource profiles" policy.allowedResourceProfiles
  requireBounded "allowed runtime profiles" policy.allowedRuntimeProfiles
  requireEach (validateRegistry p true) policy.allowedRegistries
  requireEach (validateIdentity · "allowed signer") policy.allowedSigners
  requireEach (validateId · "trusted root id") policy.trustedRootIds
  requireEach (validateId · "resource profile") policy.allowedResourceProfiles
  requireEach (validateId · "runtime profile") policy.allowedRuntimeProfiles

/-- A workload policy that passed its checks. -/
structure WorkloadAdmissionPolicy (p : Platform) extends PolicyFields where
  checked : toPolicyFields.check p = .ok ()

/-- `WorkloadAdmissionPolicy.document`. -/
def PolicyFields.document (policy : PolicyFields) : List (Text × Json) :=
  [("allowed_registries", textArray (sortTexts policy.allowedRegistries.dedup)),
    ("allowed_resource_profiles", textArray (sortTexts policy.allowedResourceProfiles.dedup)),
    ("allowed_runtime_profiles", textArray (sortTexts policy.allowedRuntimeProfiles.dedup)),
    ("allowed_signers", textArray (sortTexts policy.allowedSigners.dedup)),
    ("policy_id", .str policy.policyId),
    ("schema", .str "cathedral_workload_admission_policy_v1"),
    ("trusted_root_ids", textArray (sortTexts policy.trustedRootIds.dedup))]

/-- `WorkloadAdmissionPolicy.digest`. -/
def PolicyFields.digest (p : Platform) (policy : PolicyFields) : Text :=
  sha256Digest (documentBytes p policy.document)

/-! ## Requests and manifests -/

/-- The isolation controls a workload asks for. -/
structure Controls where
  defaultServiceCredentials : Bool
  hostIntegration : Bool
  hostNetwork : Bool
  privileged : Bool
deriving DecidableEq

/-- Whether any control is set. -/
def Controls.isAny (controls : Controls) : Bool :=
  controls.defaultServiceCredentials || controls.hostIntegration || controls.hostNetwork ||
    controls.privileged

/-- The fields of a `WorkloadRequest`. -/
structure RequestFields where
  imageReference : Text
  requiredSigner : Text
  argumentsDigest : Text
  configDigest : Text
  resourceProfile : Text
  runtimeProfile : Text
  artifactDigests : List Text
  controls : Controls
deriving DecidableEq

/-- `WorkloadRequest.__post_init__`. -/
def RequestFields.check (request : RequestFields) : Except Failure Unit := do
  validateIdentity request.requiredSigner "required signer"
  validateDigest request.argumentsDigest "arguments digest"
  validateDigest request.configDigest "config digest"
  validateId request.resourceProfile "resource profile"
  validateId request.runtimeProfile "runtime profile"
  require (request.artifactDigests.length ≤ 64 ∧ request.artifactDigests.Nodup)
    (admissionError "invalid_manifest" "artifact digests must be a bounded unique tuple")
  requireEach (validateDigest · "artifact digest") request.artifactDigests

/-- A request that passed its checks. -/
structure WorkloadRequest extends RequestFields where
  checked : toRequestFields.check = .ok ()

/-- The fields of a `WorkloadManifest`. -/
structure ManifestFields where
  image : ImageReference
  signerIdentity : Text
  trustRootId : Text
  signatureDigest : Text
  policyId : Text
  policyDigest : Text
  argumentsDigest : Text
  configDigest : Text
  resourceProfile : Text
  runtimeProfile : Text
  artifactDigests : List Text
  controls : Controls
deriving DecidableEq

/-- `WorkloadManifest.__post_init__`. -/
def ManifestFields.check (manifest : ManifestFields) : Except Failure Unit := do
  validateIdentity manifest.signerIdentity "signer identity"
  validateId manifest.trustRootId "trust root id"
  validateDigest manifest.signatureDigest "signature digest"
  validateId manifest.policyId "policy id"
  validateDigest manifest.policyDigest "policy digest"
  validateDigest manifest.argumentsDigest "arguments digest"
  validateDigest manifest.configDigest "config digest"
  validateId manifest.resourceProfile "resource profile"
  validateId manifest.runtimeProfile "runtime profile"
  require (sortTexts manifest.artifactDigests = manifest.artifactDigests ∧
      manifest.artifactDigests.Nodup ∧ manifest.artifactDigests.length ≤ 64)
    (admissionError "invalid_manifest" "manifest artifacts are invalid")
  requireEach (validateDigest · "artifact digest") manifest.artifactDigests

/-- A manifest that passed its checks. -/
structure WorkloadManifest extends ManifestFields where
  checked : toManifestFields.check = .ok ()
deriving DecidableEq

/-- Build a manifest, or raise what its checks raise. -/
def makeManifest (fields : ManifestFields) : Except Failure WorkloadManifest :=
  match checked : fields.check with
  | .ok () => .ok ⟨fields, checked⟩
  | .error failure => .error failure

theorem makeManifest_eq_ok {fields : ManifestFields} {manifest : WorkloadManifest} :
    makeManifest fields = .ok manifest ↔ manifest.toManifestFields = fields := by
  unfold makeManifest
  split
  case h_1 checked =>
    constructor
    · rintro ⟨⟩
      rfl
    · rintro rfl
      rfl
  case h_2 failure refused =>
    constructor
    · intro made
      cases made
    · rintro rfl
      rw [manifest.checked] at refused
      cases refused

namespace ManifestFields

/-- `WorkloadManifest.document`. -/
def document (manifest : ManifestFields) : List (Text × Json) :=
  [("arguments_digest", .str manifest.argumentsDigest),
    ("artifact_digests", textArray manifest.artifactDigests),
    ("config_digest", .str manifest.configDigest),
    ("default_service_credentials", .bool manifest.controls.defaultServiceCredentials),
    ("host_integration", .bool manifest.controls.hostIntegration),
    ("host_network", .bool manifest.controls.hostNetwork),
    ("image_digest", .str manifest.image.digest),
    ("image_reference", .str manifest.image.canonical),
    ("policy_digest", .str manifest.policyDigest),
    ("policy_id", .str manifest.policyId),
    ("privileged", .bool manifest.controls.privileged),
    ("registry", .str manifest.image.registry),
    ("repository", .str manifest.image.repository),
    ("resource_profile", .str manifest.resourceProfile),
    ("runtime_profile", .str manifest.runtimeProfile),
    ("schema", .str "cathedral_workload_manifest_v1"),
    ("signature_digest", .str manifest.signatureDigest),
    ("signer_identity", .str manifest.signerIdentity),
    ("trust_root_id", .str manifest.trustRootId)]

/-- `WorkloadManifest.canonical_bytes`. -/
def canonicalBytes (p : Platform) (manifest : ManifestFields) : Bytes :=
  documentBytes p manifest.document

/-- `WorkloadManifest.digest`. -/
def digest (p : Platform) (manifest : ManifestFields) : Text :=
  sha256Digest (manifest.canonicalBytes p)

end ManifestFields

/-! ## Admitted workloads -/

inductive AdmissionMode where
  | enforced
  | developmentBypass
deriving DecidableEq

def AdmissionMode.value : AdmissionMode → Text
  | enforced => "enforced"
  | developmentBypass => "development_bypass"

/-- A manifest with the capability that admission signed. -/
structure AdmittedWorkload where
  manifest : WorkloadManifest
  admissionMode : AdmissionMode
  productionAdmission : Bool
  capability : Text
  formed : Text.isDigest "admission-hmac-sha256:" capability = true

/-- `AdmittedWorkload.manifest_digest`. -/
def AdmittedWorkload.manifestDigest (p : Platform) (workload : AdmittedWorkload) : Text :=
  workload.manifest.digest p

end Cathedral.Workload
