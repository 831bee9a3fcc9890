import CathedralCompute.Registry.Endpoints

/-!
# Epoch targets

How the runtime prepares the workers of an epoch: each target needs a usable
token and an endpoint in normal form, and every claimant of a repeated endpoint
is left out.
-/

set_option autoImplicit false

namespace Cathedral.Runtime

open Codec Semantics

/-- The runtime's configuration, as far as target preparation reads it. The
constructor refuses plain HTTP in production. -/
structure RuntimeConfig where
  productionMode : Bool
  allowInsecureHttpForTests : Bool
  secure : ¬ (productionMode = true ∧ allowInsecureHttpForTests = true)

structure MinerTarget where
  hotkey : Text
  endpointUrl : Text
  bearerToken : Option Text
deriving DecidableEq

/-- Why a target is left out of an epoch. -/
inductive TargetFailure where
  | missingAuth (message : Text)
  | invalidEndpoint (message : Text)
deriving DecidableEq

def maxBearerTokenLength : ℕ := 4096

/-- `_validate_bearer_token`. -/
def validateBearerToken (token : Option Text) (required : Bool) : Except TargetFailure Unit :=
  require ((token = none ∧ ¬ required) ∨
      ∃ t ∈ token, t ≠ [] ∧ t.length ≤ maxBearerTokenLength ∧ t.all Text.isVisible = true)
    (.missingAuth "bearer token must be a nonempty bounded ASCII value")

/-- The host of a target in normal form; in production it is a public address. -/
def canonicalHost (p : Platform) (productionMode : Bool) (host : Text) : Except Failure Text :=
  match p.ipAddress host with
  | none => do
    require (¬ productionMode) (.valueError "production endpoint must use a public IP literal")
    return host
  | some ip => do
    require (productionMode → isGloballyRoutable p ip)
      (.valueError "production endpoint must use a public address")
    return hostText ip

/-- `_canonical_endpoint`. -/
def canonicalEndpoint (p : Platform) (config : RuntimeConfig) (endpoint : Text) :
    Except Failure Text := do
  let parsed ← demand (.valueError "invalid URL") (p.urlsplit endpoint)
  require (parsed.scheme = Text.ofString "http" ∨ parsed.scheme = Text.ofString "https")
    (.valueError "endpoint must be an absolute HTTP(S) URL")
  let hostname ← demand (.valueError "endpoint must be an absolute HTTP(S) URL") parsed.hostname
  require (parsed.username = none ∧ parsed.password = none)
    (.valueError "endpoint must not contain credentials")
  require (parsed.query = [] ∧ parsed.fragment = [])
    (.valueError "endpoint must not contain query or fragment")
  require (parsed.path = [] ∨ parsed.path = Text.ofString "/")
    (.valueError "endpoint must not contain a path")
  require (parsed.scheme = Text.ofString "https" ∨ config.allowInsecureHttpForTests)
    (.valueError "endpoint must use HTTPS")
  let host ← canonicalHost p config.productionMode (p.lower (rstripDots hostname))
  let port ← demand (.valueError "endpoint port is invalid") parsed.port
  return parsed.scheme ++ Text.ofString "://" ++ authority parsed.scheme host port

/-- The message of a `ValueError`. -/
def valueErrorMessage : Failure → Text
  | .valueError message => message
  | _ => []

/-- `_validate_target`: the endpoint of a target in normal form. -/
def validateTarget (p : Platform) (config : RuntimeConfig) (target : MinerTarget) :
    Except TargetFailure Text := do
  require (target.hotkey ≠ []) (.invalidEndpoint "target hotkey must be a nonempty string")
  validateBearerToken target.bearerToken config.productionMode
  (canonicalEndpoint p config target.endpointUrl).mapError fun failure =>
    .invalidEndpoint (valueErrorMessage failure)

/-- The targets that passed, each with its endpoint. -/
def preparedTargets (p : Platform) (config : RuntimeConfig) (targets : List MinerTarget) :
    List (MinerTarget × Text) :=
  targets.filterMap fun target =>
    match validateTarget p config target with
    | .ok endpoint => some (target, endpoint)
    | .error _ => none

/-- `groups[endpoint]`: the targets that share an endpoint. -/
def endpointGroup (prepared : List (MinerTarget × Text)) (endpoint : Text) : List MinerTarget :=
  (prepared.filter fun entry => entry.2 = endpoint).map Prod.fst

/-- The hotkeys of the targets whose endpoint is claimed more than once. -/
def duplicateHotkeys (prepared : List (MinerTarget × Text)) : List Text :=
  (prepared.filter fun entry => 1 < (endpointGroup prepared entry.2).length).map
    fun entry => entry.1.hotkey

/-- The first result of `_prepare_targets`: the targets of the epoch. -/
def prepareTargets (p : Platform) (config : RuntimeConfig) (targets : List MinerTarget) :
    List (MinerTarget × Text) :=
  let prepared := preparedTargets p config targets
  prepared.filter fun entry => entry.1.hotkey ∉ duplicateHotkeys prepared

end Cathedral.Runtime
