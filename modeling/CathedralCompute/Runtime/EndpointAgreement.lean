import CathedralCompute.Runtime.Targets
import CathedralCompute.Sample

/-!
# One machine, two normal forms

Enrollment and the runtime normalize endpoints separately. For an endpoint that
enrollment accepts in production, the runtime accepts it with the same normal
form exactly when its authority has no user information. An authority that
starts with a bare `@` passes enrollment, whose check takes an empty user name
for none, and is then refused by the runtime.

## Main results

* `endpoints_agree_iff` — agreement of the two normal forms, and of the groups
  the runtime builds with the enrollment keys
-/

set_option autoImplicit false

namespace Cathedral.Runtime

open Codec Semantics

/-- `str.lower` and `urlsplit` as documented, on ASCII. -/
structure UrlsAsDocumented (p : Platform) : Prop where
  lower_ascii : ∀ t : Text, t.IsAscii → p.lower t = t.lower
  hostname_ascii : ∀ {url : Text} {parsed : SplitUrl} {host : Text}, url.IsAscii →
    p.urlsplit url = some parsed → parsed.hostname = some host → host.IsAscii

/-- The authority has no `@`. -/
def NoUserinfo (p : Platform) (url : Text) : Prop :=
  ∀ parsed ∈ p.urlsplit url, parsed.username = none ∧ parsed.password = none

/-- An endpoint that enrollment accepts in production. -/
def Accepted (p : Platform) (url : Text) : Prop := validateEndpointUrl p true url = .ok url

/-! ## Lowering and stripping -/

theorem lower_eq_dot {c : CodePoint} :
    (if Text.inRange 'A' 'Z' c then c + 32 else c) = 0x2e ↔ c = 0x2e := by
  constructor
  · intro same
    by_cases capital : Text.inRange 'A' 'Z' c = true
    · -- a capital lowers to a letter, never to a point
      exfalso
      rw [if_pos capital] at same
      simp only [Text.inRange, Bool.and_eq_true, decide_eq_true_eq] at capital
      have value := congrArg Fin.val same
      have low : (65 : ℕ) ≤ c.val := capital.1
      have high : c.val ≤ 90 := capital.2
      rw [Fin.val_add] at value
      have small : (c.val + (32 : CodePoint).val) % 0x110000 = c.val + 32 :=
        Nat.mod_eq_of_lt (show c.val + 32 < 0x110000 by omega)
      rw [small] at value
      have dot : ((0x2e : CodePoint).val : ℕ) = 46 := rfl
      omega
    · rwa [if_neg capital] at same
  · rintro rfl
    decide

theorem lower_dropWhile (t : Text) :
    Text.lower (t.dropWhile (· = 0x2e)) = (Text.lower t).dropWhile (· = 0x2e) := by
  induction t with
  | nil => rfl
  | cons c t ih =>
    by_cases dot : c = 0x2e
    · simp only [Text.lower, List.dropWhile_cons, List.map_cons, dot, decide_true, if_true]
      exact ih
    · have lowered := mt lower_eq_dot.mp dot
      simp only [Text.lower, List.dropWhile_cons, List.map_cons, decide_eq_true_eq, dot,
        lowered, if_false]

theorem lower_rstripDots (t : Text) : Text.lower (rstripDots t) = rstripDots (Text.lower t) := by
  have reversed : ∀ u : Text, Text.lower u.reverse = (Text.lower u).reverse :=
    fun u => List.map_reverse
  rw [rstripDots, rstripDots, reversed, lower_dropWhile, reversed]

theorem isAscii_rstripDots {t : Text} (ascii : t.IsAscii) : (rstripDots t).IsAscii := by
  intro c member
  have inside := List.dropWhile_subset _ (List.mem_reverse.mp member)
  exact ascii c (List.mem_reverse.mp inside)

/-! ## The two normal forms -/

/-- What acceptance in production says of the parts of an endpoint. -/
structure AcceptedParts (p : Platform) (url : Text) (parsed : SplitUrl) : Prop where
  split : p.urlsplit url = some parsed
  ascii : url.IsAscii
  scheme : parsed.scheme = Text.ofString "https"
  query : parsed.query = []
  fragment : parsed.fragment = []
  path : parsed.path = []
  host : ∃ host ip, parsed.hostname = some host ∧
    p.ipAddress (rstripDots (p.lower host)) = some ip ∧ isGloballyRoutable p ip = true
  port : ∃ port, parsed.port = some port

theorem Accepted.parts {p : Platform} {url : Text} (accepted : Accepted p url) :
    ∃ parsed, AcceptedParts p url parsed := by
  simp only [Accepted, validateEndpointUrl, bind_eq_ok, require_eq_ok, demand_eq_ok, pure_eq_ok]
    at accepted
  obtain ⟨-, -, -, ⟨-, visible⟩, parsed, split, -, -, -, -, -, fragment, -, query, -, path, host,
    hosted, -, -, port, ported, -, -, _, checked, -, secure, -⟩ := accepted
  refine ⟨parsed, split, ?_, secure trivial, query, fragment, path, ?_, port, ported⟩
  · intro c member
    exact Text.val_lt_of_inRange (List.all_eq_true.mp visible c member) (by decide)
  · unfold validateHost at checked
    cases found : p.ipAddress (rstripDots (p.lower host)) with
    | none =>
      simp only [found, require_eq_ok] at checked
      exact absurd trivial checked
    | some ip =>
      simp only [found, validateAddress, bind_eq_ok, require_eq_ok] at checked
      obtain ⟨_, routable, -⟩ := checked
      exact ⟨host, ip, hosted, found, routable⟩

/-- The host both sides look up is the one enrollment checked. -/
theorem lookedUp_host {p : Platform} (documented : UrlsAsDocumented p) {host : Text}
    (ascii : host.IsAscii) : p.lower (rstripDots host) = rstripDots (p.lower host) := by
  rw [documented.lower_ascii _ (isAscii_rstripDots ascii), documented.lower_ascii _ ascii,
    lower_rstripDots]

/-- The enrollment key of an accepted endpoint. -/
theorem canonicalEndpointKey_of_parts {p : Platform} (documented : UrlsAsDocumented p)
    {url : Text} {parsed : SplitUrl} (parts : AcceptedParts p url parsed) :
    ∃ ip port, parsed.port = some port ∧
      (∃ host, parsed.hostname = some host ∧
        p.ipAddress (p.lower (rstripDots host)) = some ip) ∧
      isGloballyRoutable p ip = true ∧
      canonicalEndpointKey p url = .ok (Text.ofString "https" ++ Text.ofString "://" ++
        authority (Text.ofString "https") (hostText ip) port) := by
  obtain ⟨host, ip, hosted, found, routable⟩ := parts.host
  obtain ⟨port, ported⟩ := parts.port
  have same := lookedUp_host documented (documented.hostname_ascii parts.ascii parts.split hosted)
  rw [← same] at found
  have lowered : p.lower (Text.ofString "https") = Text.ofString "https" := by
    rw [documented.lower_ascii _ (by decide)]
    decide
  refine ⟨ip, port, ported, ⟨host, hosted, found⟩, routable, ?_⟩
  simp only [canonicalEndpointKey, bind_eq_ok, demand_eq_ok, pure_eq_ok]
  refine ⟨parsed, parts.split, ?_⟩
  rw [hosted, ported, parts.scheme, lowered, Option.getD_some]
  simp only [normalHost, found]

/-- The runtime's normal form of an accepted endpoint: with no user information
it is the enrollment key, and with any it is refused. -/
theorem canonicalEndpoint_of_parts {p : Platform} (documented : UrlsAsDocumented p)
    (config : RuntimeConfig) {url : Text} {parsed : SplitUrl}
    (parts : AcceptedParts p url parsed) :
    canonicalEndpoint p config url =
      if parsed.username = none ∧ parsed.password = none then canonicalEndpointKey p url
      else .error (.valueError "endpoint must not contain credentials") := by
  obtain ⟨ip, port, ported, ⟨host, hosted, found⟩, routable, key⟩ :=
    canonicalEndpointKey_of_parts documented parts
  have schemed : parsed.scheme = Text.ofString "http" ∨ parsed.scheme = Text.ofString "https" :=
    .inr parts.scheme
  have secure : parsed.scheme = Text.ofString "https" ∨ config.allowInsecureHttpForTests = true :=
    .inl parts.scheme
  have hostText : canonicalHost p config.productionMode (p.lower (rstripDots host)) =
      .ok (hostText ip) := by
    simp [canonicalHost, found, require, routable, bind, Except.bind, pure, Except.pure]
  by_cases bare : parsed.username = none ∧ parsed.password = none
  · rw [if_pos bare, key]
    simp only [canonicalEndpoint, bind_eq_ok, demand_eq_ok, require_eq_ok, pure_eq_ok]
    refine ⟨parsed, parts.split, (), schemed, host, hosted, (), bare, (),
      ⟨parts.query, parts.fragment⟩, (), .inl parts.path, (), secure, _, hostText, port, ported, ?_⟩
    rw [parts.scheme]
  · rw [if_neg bare]
    unfold canonicalEndpoint
    rw [parts.split]
    simp only [demand, hosted, require, if_pos schemed, if_neg bare, bind, Except.bind]

/-! ## Grouping -/

/-- A target that nothing but its endpoint can keep out of an epoch. -/
def MinerTarget.Usable (target : MinerTarget) : Prop :=
  target.hotkey ≠ [] ∧ ∃ t ∈ target.bearerToken, t ≠ [] ∧ t.length ≤ maxBearerTokenLength ∧
    t.all Text.isVisible = true

/-- Where the normal forms agree, the runtime's groups are the classes of the
enrollment key. -/
theorem endpointGroup_eq {p : Platform} {config : RuntimeConfig} {targets : List MinerTarget}
    (usable : ∀ target ∈ targets, target.Usable)
    (agree : ∀ target ∈ targets, canonicalEndpoint p config target.endpointUrl =
      canonicalEndpointKey p target.endpointUrl) (key : Text) :
    endpointGroup (preparedTargets p config targets) key =
      targets.filter fun target => canonicalEndpointKey p target.endpointUrl = .ok key := by
  induction targets with
  | nil => rfl
  | cons target targets ih =>
    have rest := ih (fun t member => usable t (List.mem_cons_of_mem _ member))
      fun t member => agree t (List.mem_cons_of_mem _ member)
    obtain ⟨named, token⟩ := usable target List.mem_cons_self
    have same := agree target List.mem_cons_self
    have authorized : validateBearerToken target.bearerToken config.productionMode = .ok () :=
      require_eq_ok.mpr (.inr token)
    have validated : validateTarget p config target =
        (canonicalEndpoint p config target.endpointUrl).mapError fun failure =>
          .invalidEndpoint (valueErrorMessage failure) := by
      simp only [validateTarget, require, if_pos named, authorized, bind, Except.bind]
    unfold endpointGroup preparedTargets at rest ⊢
    cases outcome : canonicalEndpointKey p target.endpointUrl with
    | error failure =>
      rw [same, outcome] at validated
      simp [validated, Except.mapError, outcome, rest]
    | ok endpoint =>
      rw [same, outcome] at validated
      by_cases chosen : endpoint = key
      · simp [validated, Except.mapError, outcome, chosen, rest]
      · simp [validated, Except.mapError, outcome, chosen, rest]

/-- **Endpoint agreement.** For an endpoint that enrollment accepts in
production, the runtime accepts it with the enrollment key as its normal form if
and only if its authority has no user information. Over targets with such
endpoints, the runtime's duplicate groups are the classes of the enrollment
key. -/
theorem endpoints_agree_iff {p : Platform} (documented : UrlsAsDocumented p)
    (config : RuntimeConfig) :
    (∀ url, Accepted p url →
      ((∃ key, canonicalEndpointKey p url = .ok key ∧ canonicalEndpoint p config url = .ok key) ↔
        NoUserinfo p url)) ∧
    ∀ targets : List MinerTarget,
      (∀ target ∈ targets, target.Usable ∧ Accepted p target.endpointUrl ∧
        NoUserinfo p target.endpointUrl) →
      ∀ key, endpointGroup (preparedTargets p config targets) key =
        targets.filter fun target => canonicalEndpointKey p target.endpointUrl = .ok key := by
  constructor
  · intro url accepted
    obtain ⟨parsed, parts⟩ := accepted.parts
    obtain ⟨ip, port, -, -, -, key⟩ := canonicalEndpointKey_of_parts documented parts
    rw [canonicalEndpoint_of_parts documented config parts]
    constructor
    · rintro ⟨agreed, -, accepts⟩ other split
      rw [parts.split] at split
      cases split
      by_contra userinfo
      rw [if_neg userinfo] at accepts
      cases accepts
    · intro bare
      rw [if_pos (bare parsed parts.split)]
      exact ⟨_, key, key⟩
  · intro targets conditions key
    refine endpointGroup_eq (fun target member => (conditions target member).1) ?_ key
    intro target member
    obtain ⟨-, accepted, bare⟩ := conditions target member
    obtain ⟨parsed, parts⟩ := accepted.parts
    rw [canonicalEndpoint_of_parts documented config parts, if_pos (bare parsed parts.split)]

/-! ## A concrete address -/

theorem documented_sampleNetwork : UrlsAsDocumented .sampleNetwork where
  lower_ascii _ _ := rfl
  hostname_ascii := by
    intro url parsed host _ split hosted
    have first : (Text.ofString "1.1.1.1").IsAscii := by decide
    have second : (Text.ofString "8.8.8.8").IsAscii := by decide
    simp only [Platform.sampleNetwork, sampleUrlsplit] at split
    split_ifs at split <;> cases split <;> cases hosted
    · exact first
    · exact first
    · exact second

def productionConfig : RuntimeConfig := ⟨true, false, by decide⟩

/-- A target of the concrete epoch. -/
def sampleTarget (hotkey url : Text) : MinerTarget := ⟨hotkey, url, some (Text.ofString "token")⟩

/-- The first and the third target share an endpoint. -/
def sampleTargets : List MinerTarget :=
  [sampleTarget "first" "https://1.1.1.1:8443", sampleTarget "second" "https://8.8.8.8:8443",
    sampleTarget "third" "https://1.1.1.1:8443"]

/-- The theorem applied to `https://1.1.1.1:8443`, and to an epoch in which two of three
targets have this endpoint. -/
theorem endpoints_agree_plain :
    (∃ key, canonicalEndpointKey .sampleNetwork "https://1.1.1.1:8443" = .ok key ∧
      canonicalEndpoint .sampleNetwork productionConfig "https://1.1.1.1:8443" = .ok key) ∧
    endpointGroup (preparedTargets .sampleNetwork productionConfig sampleTargets)
        "https://1.1.1.1:8443" =
      [sampleTarget "first" "https://1.1.1.1:8443",
        sampleTarget "third" "https://1.1.1.1:8443"] := by
  have one : Accepted .sampleNetwork "https://1.1.1.1:8443" ∧
      NoUserinfo .sampleNetwork "https://1.1.1.1:8443" := by
    refine ⟨by unfold Accepted; decide +kernel, fun parsed split => ?_⟩
    have known : some (sampleOrigin "1.1.1.1:8443" "1.1.1.1" none) = some parsed := split
    cases known
    exact ⟨rfl, rfl⟩
  have eight : Accepted .sampleNetwork "https://8.8.8.8:8443" ∧
      NoUserinfo .sampleNetwork "https://8.8.8.8:8443" := by
    refine ⟨by unfold Accepted; decide +kernel, fun parsed split => ?_⟩
    have known : some (sampleOrigin "8.8.8.8:8443" "8.8.8.8" none) = some parsed := split
    cases known
    exact ⟨rfl, rfl⟩
  have usable : ∀ hotkey url, hotkey ≠ [] → (sampleTarget hotkey url).Usable :=
    fun _ _ named => ⟨named, Text.ofString "token", rfl, by decide, by decide, by decide⟩
  obtain ⟨single, grouped⟩ := endpoints_agree_iff documented_sampleNetwork productionConfig
  refine ⟨(single _ one.1).mpr one.2, ?_⟩
  rw [grouped]
  · decide +kernel
  · intro target member
    simp only [sampleTargets, List.mem_cons, List.not_mem_nil, or_false] at member
    rcases member with rfl | rfl | rfl
    · exact ⟨usable _ _ (by decide), one⟩
    · exact ⟨usable _ _ (by decide), eight⟩
    · exact ⟨usable _ _ (by decide), one⟩

/-- Enrollment accepts an authority that starts with a bare `@`, under the key of
the address behind it, and the runtime refuses it. -/
theorem not_endpoints_agree_userinfo :
    UrlsAsDocumented Platform.sampleNetwork ∧
      Accepted Platform.sampleNetwork (Text.ofString "https://@1.1.1.1:8443") ∧
      canonicalEndpointKey Platform.sampleNetwork (Text.ofString "https://@1.1.1.1:8443") =
        .ok (Text.ofString "https://1.1.1.1:8443") ∧
      ¬ ∃ key, canonicalEndpoint Platform.sampleNetwork productionConfig
        (Text.ofString "https://@1.1.1.1:8443") = .ok key := by
  have refused : canonicalEndpoint Platform.sampleNetwork productionConfig
      (Text.ofString "https://@1.1.1.1:8443") =
        .error (.valueError "endpoint must not contain credentials") := by
    decide +kernel
  refine ⟨documented_sampleNetwork, ?_, by decide +kernel, ?_⟩
  · unfold Accepted
    decide +kernel
  · rintro ⟨key, accepts⟩
    rw [refused] at accepts
    cases accepts

end Cathedral.Runtime
