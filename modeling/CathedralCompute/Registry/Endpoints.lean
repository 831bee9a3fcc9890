import CathedralCompute.Platform

/-!
# Worker endpoints at enrollment

What an enrollment accepts as an endpoint, and the normal form under which two
enrollments are the same machine. The stored endpoint stays what the miner
signed; the normal form is a comparison key only.
-/

set_option autoImplicit false

namespace Cathedral

open Codec Semantics

/-! ## Addresses -/

/-- `_embedded_ipv4`: the IPv4 address inside an IPv6 transition address. -/
def embeddedIpv4 (value : ℕ) : Option ℕ :=
  -- IPv4-mapped, `::ffff:0:0/96`
  if value / 2 ^ 32 = 0xffff then some (value % 2 ^ 32)
  -- 6to4, `2002::/16`
  else if value / 2 ^ 112 = 0x2002 then some (value / 2 ^ 80 % 2 ^ 32)
  -- the NAT64 well-known `64:ff9b::/96`
  else if value / 2 ^ 32 = 0x64ff9b * 2 ^ 64 then some (value % 2 ^ 32)
  -- the deprecated IPv4-compatible `::/96`
  else if value / 2 ^ 32 = 0 ∧ 1 < value then some (value % 2 ^ 32)
  else none

/-- `is_globally_routable`. -/
def isGloballyRoutable (p : Platform) (ip : IpAddress) : Bool :=
  match ip.version with
  | .v4 => p.isGlobal .v4 ip.value
  | .v6 => (embeddedIpv4 ip.value).all (p.isGlobal .v4) && p.isGlobal .v6 ip.value

/-- `ip.ipv4_mapped` or `ip.sixtofour`. -/
def IpAddress.isAlias (ip : IpAddress) : Bool :=
  ip.version = .v6 && (ip.value / 2 ^ 32 = 0xffff || ip.value / 2 ^ 112 = 0x2002)

/-- `text.rstrip(".")`. -/
def rstripDots (t : Text) : Text := (t.reverse.dropWhile (· = 0x2e)).reverse

/-- The host part of an authority. -/
def hostText (ip : IpAddress) : Text :=
  match ip.version with
  | .v4 => ip.compressed
  | .v6 => [0x5b] ++ ip.compressed ++ [0x5d]

/-! ## Validation -/

def maxEndpointUrlLength : ℕ := 300

def rejectedHosts : List Text := ["localhost", "metadata.google.internal"]

/-- Whether an optional text is absent or empty. -/
def isFalsy (t : Option Text) : Bool := t.all List.isEmpty

/-- The checks on an address: public, and in production spelled canonically. -/
def validateAddress (p : Platform) (requireIpLiteral : Bool) (literalHost : Text)
    (ip : IpAddress) : Except Failure Unit := do
  require (isGloballyRoutable p ip) (.valueError "endpoint_url host must be a public address")
  require (requireIpLiteral → ip.compressed = literalHost)
    (.valueError "endpoint_url host must be a canonical IP literal")
  require (requireIpLiteral → ¬ ip.isAlias)
    (.valueError "endpoint_url host must not be an IPv4-in-IPv6 alias")

/-- The checks on a host, which in production is an address. -/
def validateHost (p : Platform) (requireIpLiteral : Bool) (host : Text) : Except Failure Unit :=
  match p.ipAddress (rstripDots (p.lower host)) with
  | none => require (¬ requireIpLiteral) (.valueError
      ("endpoint_url must be a public IP literal in production mode (hostnames are rejected " ++
        "to close the DNS check/use gap)"))
  | some ip => validateAddress p requireIpLiteral (p.lower host) ip

/-- `validate_endpoint_url` of a text. `urlparse` sees parameters behind a `;` of
the path only, and a path is refused. -/
def validateEndpointUrl (p : Platform) (requireIpLiteral : Bool) (endpointUrl : Text) :
    Except Failure Text := do
  require (endpointUrl ≠ [] ∧ endpointUrl.length ≤ maxEndpointUrlLength)
    (.valueError "endpoint_url is empty or too long")
  require (endpointUrl.strip = endpointUrl ∧ endpointUrl.all Text.isVisible)
    (.valueError "endpoint_url must be visible ASCII with no whitespace")
  let parsed ← demand (.valueError "invalid URL") (p.urlsplit endpointUrl)
  require (parsed.scheme = Text.ofString "http" ∨ parsed.scheme = Text.ofString "https")
    (.valueError "endpoint_url must use http or https")
  require (parsed.netloc ≠ [] ∧ isFalsy parsed.username ∧ isFalsy parsed.password)
    (.valueError "endpoint_url must include a host and no credentials")
  require (parsed.fragment = []) (.valueError "endpoint_url must not include a fragment")
  require (parsed.query = []) (.valueError "endpoint_url must not include a query string")
  require (parsed.path = []) (.valueError "endpoint_url must not include a path")
  let host ← demand (.valueError "endpoint_url must include a host") parsed.hostname
  let normalizedHost := rstripDots (p.lower host)
  require (0x25 ∉ normalizedHost ∧ normalizedHost ∉ rejectedHosts)
    (.valueError "endpoint_url host is not allowed")
  let port ← demand (.valueError "endpoint_url port must be an integer from 1 to 65535") parsed.port
  require (∀ n ∈ port, 1 ≤ n ∧ n ≤ 65535)
    (.valueError "endpoint_url port must be an integer from 1 to 65535")
  validateHost p requireIpLiteral host
  require (requireIpLiteral → parsed.scheme = Text.ofString "https")
    (.valueError "endpoint_url must use https in production mode")
  require (requireIpLiteral → port ≠ none)
    (.valueError "endpoint_url must carry an explicit port in production mode")
  return endpointUrl

/-! ## Normal form -/

/-- The host in normal form: an address as the library writes it. -/
def normalHost (p : Platform) (host : Text) : Text :=
  match p.ipAddress host with
  | some ip => hostText ip
  | none => host

/-- The host, with the port unless it is the default of the scheme. -/
def authority (scheme host : Text) (port : Option ℕ) : Text :=
  let defaultPort := if scheme = Text.ofString "https" then 443 else 80
  match port with
  | none => host
  | some n => if n = defaultPort then host else host ++ [0x3a] ++ natText n

/-- `canonical_endpoint_key`. -/
def canonicalEndpointKey (p : Platform) (endpointUrl : Text) : Except Failure Text := do
  let parsed ← demand (.valueError "invalid URL") (p.urlsplit endpointUrl)
  let scheme := p.lower parsed.scheme
  let host := normalHost p (p.lower (rstripDots (parsed.hostname.getD [])))
  return scheme ++ Text.ofString "://" ++
    match parsed.port with
    | none => p.lower parsed.netloc
    | some port => authority scheme host port

end Cathedral
