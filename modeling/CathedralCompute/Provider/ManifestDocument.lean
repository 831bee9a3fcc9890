import CathedralCompute.Provider.RoundTrip
import CathedralCompute.Sample
import CathedralCompute.Workload.Manifest

/-!
# The manifest in a dispatch

Admission makes a workload manifest; a dispatch carries its document, and the provider's
side reads a manifest from it again. The two sides write documents with encoders of their
own. What is read has the bytes that the digest of the assignment covers, so a manifest
arrives as it was admitted.

A text may hold the two halves of a surrogate pair as code points of their own. Both
encoders write them as they write the one character, and a reader reads that character.

## Main definitions

* `parseWorkloadManifestDocument`, `loadDispatchWorkloadManifest` — the reader

## Main results

* `documentBytes_eq_canonicalJsonBytes` — the two encoders agree on documents without floats
* `parse_document` — a manifest's bytes are read as its document
* `manifest_fidelity` — what is loaded is what was admitted
-/

set_option autoImplicit false

namespace Cathedral.Provider

open Codec Semantics Workload

/-! ## The reader -/

/-- `_WORKLOAD_MANIFEST_DOCUMENT_KEYS`. -/
def workloadManifestDocumentKeys : List Text := [
  "schema", "arguments_digest", "artifact_digests", "config_digest",
  "default_service_credentials", "host_integration", "host_network", "image_digest",
  "image_reference", "policy_digest", "policy_id", "privileged", "registry", "repository",
  "resource_profile", "runtime_profile", "signature_digest", "signer_identity", "trust_root_id"]

def workloadManifestSchema : Text := "cathedral_workload_manifest_v1"

/-- A text of a document. A value that is no text fails every check of a manifest with the
error that the empty text fails it with. -/
def textMember (members : List (Text × Json)) (key : Text) : Text :=
  ((Json.lookup key members).bind textOfJson).getD []

/-- The isolation controls of a document. -/
def controlsOf (members : List (Text × Json)) : Option Controls := do
  let control (key : Text) : Option Bool := (Json.lookup key members).bind boolOfJson
  let defaultServiceCredentials ← control "default_service_credentials"
  let hostIntegration ← control "host_integration"
  let hostNetwork ← control "host_network"
  let privileged ← control "privileged"
  return { defaultServiceCredentials, hostIntegration, hostNetwork, privileged }

/-- The `WorkloadManifest` of the fields of a document. -/
def manifestOf (p : Platform) (members : List (Text × Json)) (artifactDigests : List Text) :
    Except Failure WorkloadManifest := do
  let image ← ImageReference.parse p false (textMember members "image_reference")
  let manifest ← makeManifest {
    image
    signerIdentity := textMember members "signer_identity"
    trustRootId := textMember members "trust_root_id"
    signatureDigest := textMember members "signature_digest"
    policyId := textMember members "policy_id"
    policyDigest := textMember members "policy_digest"
    argumentsDigest := textMember members "arguments_digest"
    configDigest := textMember members "config_digest"
    resourceProfile := textMember members "resource_profile"
    runtimeProfile := textMember members "runtime_profile"
    artifactDigests
    controls := (controlsOf members).getD ⟨false, false, false, false⟩ }
  require (controlsOf members).isSome
    (admissionError "invalid_manifest" "manifest runtime isolation controls are invalid")
  return manifest

/-- A `WorkloadAdmissionError`, raised as a contract error. -/
def admissionContractError : Failure → ContractError
  | .workloadAdmissionError _ message =>
    invalid (Text.ofString "workload manifest is invalid: " ++ message)
  | _ => invalid "workload manifest is invalid: "

/-- `parse_workload_manifest_document`. -/
def parseWorkloadManifestDocument (p : Platform) (document : Json) :
    Checked WorkloadManifest := do
  let members ← demand (invalid "workload manifest must be an object with string keys")
    (membersOfJson document)
  rejectProviderPrivateFields document
  require (hasExactly workloadManifestDocumentKeys members = true)
    (invalid "workload manifest has missing or unknown fields for its real schema")
  require (Json.equalsText workloadManifestSchema (Json.lookup "schema" members) = true)
    (invalid "workload manifest schema is unsupported")
  let artifactDigests ← demand (invalid "workload manifest artifact digests are invalid")
    (((Json.lookup "artifact_digests" members).bind itemsOfJson).bind (·.mapM textOfJson))
  let manifest ← (manifestOf p members artifactDigests).mapError admissionContractError
  let own ← canonicalJsonBytes 0 (.obj manifest.document)
  let given ← canonicalJsonBytes 0 document
  require (own = given)
    (invalid "workload manifest does not round-trip to the same canonical document")
  return manifest

/-- `load_dispatch_workload_manifest`. -/
def loadDispatchWorkloadManifest (p : Platform) (envelope : ProviderDispatchEnvelope) :
    Checked WorkloadManifest := do
  let manifest ← parseWorkloadManifestDocument p envelope.workloadManifest.copy
  require (manifest.digest p = envelope.assignment.workloadManifestDigest)
    ⟨"loaded workload manifest digest does not match the assignment", .digestMismatch⟩
  return manifest

/-! ## Private fields -/

mutual

/-- The names of the fields of all objects in a value, at any depth. -/
def fieldNames : Json → List Text
  | .obj members => memberNames members
  | .arr items => itemNames items
  | _ => []

def memberNames : List (Text × Json) → List Text
  | [] => []
  | (key, value) :: members => key :: (fieldNames value ++ memberNames members)

def itemNames : List Json → List Text
  | [] => []
  | item :: items => fieldNames item ++ itemNames items

end

mutual

/-- A value passes exactly if no name in it is forbidden. -/
theorem rejectProviderPrivateFields_eq_ok : ∀ value : Json,
    rejectProviderPrivateFields value = .ok () ↔
      ∀ name ∈ fieldNames value, lowerName name ∉ forbiddenFieldNames
  | .null => ⟨fun _ => List.forall_mem_nil _, fun _ => rfl⟩
  | .bool _ => ⟨fun _ => List.forall_mem_nil _, fun _ => rfl⟩
  | .int _ => ⟨fun _ => List.forall_mem_nil _, fun _ => rfl⟩
  | .float _ => ⟨fun _ => List.forall_mem_nil _, fun _ => rfl⟩
  | .str _ => ⟨fun _ => List.forall_mem_nil _, fun _ => rfl⟩
  | .arr items => rejectPrivateItems_eq_ok items
  | .obj members => rejectPrivateMembers_eq_ok members

theorem rejectPrivateMembers_eq_ok : ∀ members : List (Text × Json),
    rejectPrivateMembers members = .ok () ↔
      ∀ name ∈ memberNames members, lowerName name ∉ forbiddenFieldNames
  | [] => ⟨fun _ => List.forall_mem_nil _, fun _ => rfl⟩
  | (key, value) :: members => by
    rw [rejectPrivateMembers, memberNames, List.forall_mem_cons, List.forall_mem_append,
      ← rejectProviderPrivateFields_eq_ok value, ← rejectPrivateMembers_eq_ok members]
    simp only [bind_eq_ok, require_eq_ok]
    exact ⟨fun ⟨_, fits, _, inner, outer⟩ => ⟨fits, inner, outer⟩,
      fun ⟨fits, inner, outer⟩ => ⟨(), fits, (), inner, outer⟩⟩

theorem rejectPrivateItems_eq_ok : ∀ items : List Json,
    rejectPrivateItems items = .ok () ↔
      ∀ name ∈ itemNames items, lowerName name ∉ forbiddenFieldNames
  | [] => ⟨fun _ => List.forall_mem_nil _, fun _ => rfl⟩
  | item :: items => by
    rw [rejectPrivateItems, itemNames, List.forall_mem_append,
      ← rejectProviderPrivateFields_eq_ok item, ← rejectPrivateItems_eq_ok items]
    simp only [bind_eq_ok]
    exact ⟨fun ⟨_, inner, outer⟩ => ⟨inner, outer⟩, fun ⟨inner, outer⟩ => ⟨(), inner, outer⟩⟩

end

/-! ## Two encoders -/

mutual

/-- A value without floats is written alike, whatever writes the floats. -/
theorem render_of_floatFree (p : Platform) : ∀ value : Json, floatFree value = true →
    value.render (compactStyle p) = value.render canonicalStyle
  | .null, _ => rfl
  | .bool true, _ => rfl
  | .bool false, _ => rfl
  | .int _, _ => rfl
  | .str _, _ => rfl
  | .arr [], _ => rfl
  | .arr (item :: items), free => by
    obtain ⟨first, others⟩ := Bool.and_eq_true_iff.mp free
    rw [Json.render, Json.render, render_of_floatFree p item first,
      renderItems_of_floatFree p items others]
  | .obj [], _ => rfl
  | .obj ((key, value) :: members), free => by
    obtain ⟨first, others⟩ := Bool.and_eq_true_iff.mp free
    rw [Json.render, Json.render, render_of_floatFree p value first,
      renderMembers_of_floatFree p members others]
    rfl

theorem renderItems_of_floatFree (p : Platform) : ∀ items : List Json,
    itemsFloatFree items = true →
      Json.renderItems (compactStyle p) items = Json.renderItems canonicalStyle items
  | [], _ => rfl
  | item :: items, free => by
    obtain ⟨first, others⟩ := Bool.and_eq_true_iff.mp free
    rw [Json.renderItems, Json.renderItems, render_of_floatFree p item first,
      renderItems_of_floatFree p items others]
    rfl

theorem renderMembers_of_floatFree (p : Platform) : ∀ members : List (Text × Json),
    membersFloatFree members = true →
      Json.renderMembers (compactStyle p) members = Json.renderMembers canonicalStyle members
  | [], _ => rfl
  | (key, value) :: members, free => by
    obtain ⟨first, others⟩ := Bool.and_eq_true_iff.mp free
    rw [Json.renderMembers, Json.renderMembers, render_of_floatFree p value first,
      renderMembers_of_floatFree p members others]
    rfl

end

/-- The encoder of the admission writes what the encoder of the contract writes. -/
theorem documentBytes_eq_canonicalJsonBytes (p : Platform) {members : List (Text × Json)}
    {data : Bytes} (written : canonicalJsonBytes 0 (.obj members) = .ok data) :
    documentBytes p members = data := by
  obtain ⟨free, -, -, -, rfl, -⟩ := canonicalJsonBytes_eq_ok.mp written
  have sorted : floatFree (Json.obj members).sortKeys = true := by
    have shapes := shape_sortKeys (.obj members)
    simp only [shape, Shape.mk.injEq] at shapes
    rw [shapes.2.2.1]
    exact free
  rw [documentBytes, render_of_floatFree p _ sorted]

/-! ## Surrogate pairs -/

theorem surrogate_bounds {high low : CodePoint}
    (pair : high.isHighSurrogate = true ∧ low.isLowSurrogate = true) :
    (0xd800 ≤ high.val ∧ high.val ≤ 0xdbff) ∧ 0xdc00 ≤ low.val ∧ low.val ≤ 0xdfff := by
  simpa [CodePoint.isHighSurrogate, CodePoint.isLowSurrogate] using pair

theorem joined_val {high low : CodePoint}
    (pair : high.isHighSurrogate = true ∧ low.isLowSurrogate = true) :
    (joinSurrogates high.val low.val).val =
      0x10000 + (high.val - 0xd800) * 0x400 + (low.val - 0xdc00) := by
  obtain ⟨above, below⟩ := surrogate_bounds pair
  exact Nat.mod_eq_of_lt (by omega)

theorem val_lt_of_shortEscape {c letter : CodePoint} (short : shortEscape c = some letter) :
    c.val < 0x80 := by
  unfold shortEscape at short
  split_ifs at short <;> subst_vars <;> decide

/-- A character outside the basic plane is written as two units. -/
theorem escapeChar_wide {c : CodePoint} (wide : 0x10000 ≤ c.val) :
    escapeChar c = unicodeEscape (0xd800 + (c.val - 0x10000) / 0x400) ++
      unicodeEscape (0xdc00 + (c.val - 0x10000) % 0x400) := by
  unfold escapeChar
  split
  case h_1 letter short =>
    have narrow := val_lt_of_shortEscape short
    omega
  case h_2 => rw [if_neg (by omega), if_neg (by omega)]

theorem escapeChar_joinSurrogates {high low : CodePoint}
    (pair : high.isHighSurrogate = true ∧ low.isLowSurrogate = true) :
    escapeChar (joinSurrogates high.val low.val) = escapeChar high ++ escapeChar low := by
  obtain ⟨above, below⟩ := surrogate_bounds pair
  have value := joined_val pair
  have upper : 0xd800 + ((joinSurrogates high.val low.val).val - 0x10000) / 0x400 = high.val := by
    omega
  have lower : 0xdc00 + ((joinSurrogates high.val low.val).val - 0x10000) % 0x400 = low.val := by
    omega
  rw [escapeChar_wide (by omega), upper, lower, escapeChar_surrogate (by omega),
    escapeChar_surrogate (by omega)]

/-- A text is written as the text with its pairs joined. -/
theorem quoted_joinPairs (t : Text) : quoted t.joinPairs = quoted t := by
  have escaped : t.joinPairs.flatMap escapeChar = t.flatMap escapeChar := by
    fun_induction Text.joinPairs t with
    | case1 => rfl
    | case2 c => rfl
    | case3 a b t pair ih =>
      rw [List.flatMap_cons, List.flatMap_cons, List.flatMap_cons, ih,
        escapeChar_joinSurrogates pair, List.append_assoc]
    | case4 a b t single ih => rw [List.flatMap_cons, List.flatMap_cons, ih]
  rw [quoted, quoted, escaped]

/-- No pair is left after joining. -/
theorem unpaired_joinPairs (t : Text) : t.joinPairs.Unpaired := by
  have head (t : Text) : ∀ c ∈ t.joinPairs.head?, c.isLowSurrogate = true → t.head? = some c := by
    intro c first low
    fun_induction Text.joinPairs t with
    | case1 => cases first
    | case2 c => exact first
    | case3 a b t pair ih =>
      -- A joined pair lies above all surrogates.
      obtain rfl := Option.some.inj first
      have value := joined_val pair
      simp only [CodePoint.isLowSurrogate, Bool.and_eq_true, decide_eq_true_eq] at low
      omega
    | case4 a b t single ih => exact first
  fun_induction Text.joinPairs t with
  | case1 => exact .nil
  | case2 c => exact .singleton c
  | case3 a b t pair ih =>
    refine List.isChain_cons.mpr ⟨fun c _ both => ?_, ih⟩
    have value := joined_val pair
    have high := both.1
    simp only [CodePoint.isHighSurrogate, Bool.and_eq_true, decide_eq_true_eq] at high
    omega
  | case4 a b t single ih =>
    refine List.isChain_cons.mpr ⟨fun c first both => ?_, ih⟩
    obtain rfl := Option.some.inj (head _ c first both.2)
    exact single both

/-! ## Image references -/

theorem isAscii_of_splitOn {sep : CodePoint} (small : sep.val < 0x80) {t : Text}
    (parts : ∀ part ∈ t.splitOn sep, Text.IsAscii part) : t.IsAscii := by
  induction t with
  | nil => exact fun _ member => nomatch member
  | cons c t ih =>
    rw [List.splitOn, List.splitOnP_cons_eq_if_modifyHead] at parts
    obtain ⟨head, others, split⟩ := List.exists_cons_of_ne_nil (List.splitOnP_ne_nil (· == sep) t)
    rw [List.splitOn, split] at ih
    rw [split] at parts
    split at parts
    case isTrue same =>
      have equal : c = sep := by simpa using same
      exact Text.isAscii_cons.mpr ⟨equal ▸ small, ih (List.forall_mem_cons.mp parts).2⟩
    case isFalse other =>
      obtain ⟨first, later⟩ := List.forall_mem_cons.mp parts
      obtain ⟨head', rest⟩ := Text.isAscii_cons.mp first
      exact Text.isAscii_cons.mpr ⟨head', ih (List.forall_mem_cons.mpr ⟨rest, later⟩)⟩

theorem val_lt_of_isIdHead {c : CodePoint} (head : isIdHead c = true) : c.val < 0x80 := by
  rcases Bool.or_eq_true_iff.mp head with digit | letter
  · exact Text.val_lt_of_isDigit digit
  · exact Text.val_lt_of_inRange letter (by decide)

/-- A letter, a digit or one of the separators. -/
theorem val_lt_of_idOrMark {c : CodePoint}
    (fits : (isIdHead c || c ∈ ([0x2e, 0x5f, 0x2d] : Text)) = true) : c.val < 0x80 := by
  rcases Bool.or_eq_true_iff.mp fits with letter | mark
  · exact val_lt_of_isIdHead letter
  · have marked := of_decide_eq_true mark
    simp only [List.mem_cons, List.not_mem_nil, or_false] at marked
    rcases marked with rfl | rfl | rfl <;> decide

theorem isAscii_of_isRegistryLabel {label : Text} (fits : isRegistryLabel label = true) :
    label.IsAscii := by
  simp only [isRegistryLabel, Bool.and_eq_true] at fits
  refine Text.isAscii_of_all (fun c listed => ?_) fits.2
  rcases Bool.or_eq_true_iff.mp listed with letter | mark
  · exact val_lt_of_isIdHead letter
  · rw [of_decide_eq_true mark]
    decide

theorem isAscii_of_isRepositoryComponent {component : Text}
    (fits : isRepositoryComponent component = true) : component.IsAscii := by
  simp only [isRepositoryComponent, Bool.and_eq_true] at fits
  exact Text.isAscii_of_all (fun c => val_lt_of_idOrMark) fits.1.2

/-- A separator stands between the text before it and the text behind it. -/
theorem takeWhile_append_dropWhile {sep : CodePoint} {t : Text} (member : sep ∈ t) :
    t.takeWhile (· ≠ sep) ++ [sep] ++ (t.dropWhile (· ≠ sep)).tail = t := by
  induction t with
  | nil => cases member
  | cons c t ih =>
    by_cases same : c = sep
    · simp [same]
    · have later : sep ∈ t := (List.mem_cons.mp member).resolve_left (Ne.symm same)
      simpa [same] using ih later

/-- What a parsed reference is: its canonical text is the text it was parsed from, which is
parsed the same outside production, and its parts are ASCII. -/
structure ParsedImage (p : Platform) (image : ImageReference) : Prop where
  reparsed : ImageReference.parse p false image.canonical = .ok image
  short : image.canonical.length ≤ 512
  registry : image.registry.IsAscii
  repository : image.repository.IsAscii
  digest : Text.isDigest "sha256:" image.digest = true

theorem parsedImage {p : Platform} {production : Bool} {raw : Text} {image : ImageReference}
    (parsed : ImageReference.parse p production raw = .ok image) : ParsedImage p image := by
  have whole := parsed
  simp only [ImageReference.parse, validateRegistry, bind_eq_ok, require_eq_ok, pure_eq_ok] at whole
  obtain ⟨_, ⟨sized, stripped, once, tokens, plain⟩, _, ⟨slash, colon⟩, _,
    ⟨_, bounded, _, labels, _, literal, named⟩, _, ⟨sized', lower, components⟩, _, digest, rfl⟩ :=
    whole
  have canonical : ImageReference.canonical ⟨(raw.takeWhile (· ≠ 0x40)).takeWhile (· ≠ 0x2f),
      ((raw.takeWhile (· ≠ 0x40)).dropWhile (· ≠ 0x2f)).tail,
      (raw.dropWhile (· ≠ 0x40)).tail⟩ = raw := by
    rw [ImageReference.canonical]
    dsimp only
    rw [takeWhile_append_dropWhile slash]
    exact takeWhile_append_dropWhile (List.count_pos_iff.mp (by omega))
  refine ⟨?_, by rw [canonical]; exact sized.2, ?_, ?_, digest⟩
  · rw [canonical]
    simp only [ImageReference.parse, validateRegistry, bind_eq_ok, require_eq_ok, pure_eq_ok]
    exact ⟨(), ⟨sized, stripped, once, tokens, plain⟩, (), ⟨slash, colon⟩, (),
      ⟨(), bounded, (), labels, (), literal, by rintro ⟨⟩⟩, (), ⟨sized', lower, components⟩, (), digest,
      trivial⟩
  · exact isAscii_of_splitOn (by decide) fun part listed =>
      isAscii_of_isRegistryLabel (List.all_eq_true.mp labels part listed)
  · exact isAscii_of_splitOn (by decide) fun part listed =>
      isAscii_of_isRepositoryComponent (List.all_eq_true.mp components part listed)

/-! ## The document of a manifest -/

/-- A text that is written and read back unchanged, and is not long. -/
structure Modest (t : Text) : Prop where
  unpaired : t.Unpaired
  short : t.length ≤ 512

theorem modest_of_isDigest {t : Text} (digest : Text.isDigest "sha256:" t = true) : Modest t :=
  ⟨(noSurrogate_of_isDigest digest).unpaired, (length_of_isDigest digest).trans_le (by decide)⟩

theorem modest_of_isId {t : Text} (fits : Workload.isId t = true) : Modest t := by
  cases t with
  | nil => cases fits
  | cons c t =>
    simp only [Workload.isId, Bool.and_eq_true, decide_eq_true_eq] at fits
    obtain ⟨⟨first, short⟩, rest⟩ := fits
    refine ⟨(Text.IsAscii.noSurrogate (Text.isAscii_cons.mpr ⟨val_lt_of_isIdHead first,
      Text.isAscii_of_all (fun c => val_lt_of_idOrMark) rest⟩)).unpaired, ?_⟩
    rw [List.length_cons]
    omega

/-- A manifest of an image that was parsed. -/
structure Formed (p : Platform) (manifest : ManifestFields) : Prop where
  image : ParsedImage p manifest.image
  signer : manifest.signerIdentity.length ≤ 256
  root : Modest manifest.trustRootId
  signature : Modest manifest.signatureDigest
  policy : Modest manifest.policyId
  policyDigest : Modest manifest.policyDigest
  arguments : Modest manifest.argumentsDigest
  config : Modest manifest.configDigest
  resources : Modest manifest.resourceProfile
  runtime : Modest manifest.runtimeProfile
  artifacts : manifest.artifactDigests.length ≤ 64 ∧
    ∀ digest ∈ manifest.artifactDigests, Text.isDigest "sha256:" digest = true

theorem requireEach_eq_ok {check : Text → Except Failure Unit} {values : List Text} :
    requireEach check values = .ok () ↔ ∀ value ∈ values, check value = .ok () := by
  unfold requireEach
  induction values with
  | nil => exact ⟨fun _ => List.forall_mem_nil _, fun _ => rfl⟩
  | cons value values ih =>
    rw [List.foldlM_cons, bind_eq_ok, List.forall_mem_cons, ← ih]
    exact ⟨fun ⟨_, first, rest⟩ => ⟨first, rest⟩, fun ⟨first, rest⟩ => ⟨(), first, rest⟩⟩

theorem formed_of_check {p : Platform} {manifest : ManifestFields}
    (image : ParsedImage p manifest.image) (checked : manifest.check = .ok ()) :
    Formed p manifest := by
  simp only [ManifestFields.check, validateIdentity, validateId, validateDigest, bind_eq_ok,
    require_eq_ok, requireEach_eq_ok] at checked
  obtain ⟨_, signer, _, root, _, signature, _, policy, _, policyDigest, _, arguments, _, config, _,
    resources, _, runtime, _, artifacts, digests⟩ := checked
  exact ⟨image, signer.2.1, modest_of_isId root, modest_of_isDigest signature,
    modest_of_isId policy, modest_of_isDigest policyDigest, modest_of_isDigest arguments,
    modest_of_isDigest config, modest_of_isId resources, modest_of_isId runtime,
    artifacts.2.2, digests⟩

/-- The manifest as a reader sees its texts. -/
def joined (manifest : ManifestFields) : ManifestFields :=
  { manifest with signerIdentity := manifest.signerIdentity.joinPairs }

theorem joined_eq_self {manifest : ManifestFields} :
    joined manifest = manifest ↔ manifest.signerIdentity.Unpaired := by
  rw [← Text.joinPairs_eq_self]
  exact ⟨congrArg ManifestFields.signerIdentity, fun same => by rw [joined, same]⟩

theorem render_joined (manifest : ManifestFields) (style : Style) :
    (Json.obj (joined manifest).document).render style =
      (Json.obj manifest.document).render style := by
  simp only [ManifestFields.document, joined, Json.render, Json.renderMembers, quoted_joinPairs]

theorem sortKeys_texts (texts : List Text) :
    (textArray texts).sortKeys = textArray texts := by
  rw [textArray, Json.sortKeys, Json.sortKeysItems_eq_map, List.map_map]
  rfl

/-- The document lists its keys in order. -/
theorem sortKeys_document (manifest : ManifestFields) :
    (Json.obj manifest.document).sortKeys = .obj manifest.document := by
  have members : Json.sortKeysMembers manifest.document = manifest.document := by
    simp only [ManifestFields.document, Json.sortKeysMembers, sortKeys_texts, Json.sortKeys]
  rw [Json.sortKeys, members, Json.sortMembers_of_pairwise]
  have keys : (manifest.document.map Prod.fst).Pairwise (· ≤ ·) := by
    simp only [ManifestFields.document, List.map_cons, List.map_nil]
    decide
  exact List.pairwise_map.mp keys

/-- What the document of a manifest holds. -/
inductive ManifestValue : Json → Prop
  | text {t : Text} (modest : Modest t) : ManifestValue (.str t)
  | flag (b : Bool) : ManifestValue (.bool b)
  | texts {texts : List Text} (few : texts.length ≤ 64)
    (digests : ∀ t ∈ texts, Text.isDigest "sha256:" t = true) : ManifestValue (textArray texts)

theorem members_of_formed {p : Platform} {manifest : ManifestFields}
    (formed : Formed p manifest) : ∀ member ∈ (joined manifest).document,
      (member.1.NoSurrogate ∧ member.1.length ≤ 27) ∧ ManifestValue member.2 := by
  have image {t : Text} (ascii : t.IsAscii) (short : t.length ≤ 512) : Modest t :=
    ⟨ascii.noSurrogate.unpaired, short⟩
  have canonical := formed.image.short
  have digest := modest_of_isDigest formed.image.digest
  -- the parts of the reference are bounded with the whole of it
  have whole : manifest.image.canonical.IsAscii := by
    simp only [ImageReference.canonical, Text.isAscii_append]
    exact ⟨⟨⟨⟨formed.image.registry, by decide⟩, formed.image.repository⟩, by decide⟩,
      Text.isAscii_of_isDigest (by decide) formed.image.digest⟩
  obtain ⟨registry, repository⟩ : manifest.image.registry.length ≤ 512 ∧
      manifest.image.repository.length ≤ 512 := by
    have parts := canonical
    simp only [ImageReference.canonical, List.length_append] at parts
    omega
  have signer : Modest manifest.signerIdentity.joinPairs :=
    ⟨unpaired_joinPairs _, by
      have shorter := Text.length_joinPairs_le manifest.signerIdentity
      have := formed.signer
      omega⟩
  intro member listed
  constructor
  · have keys : ∀ key ∈ (joined manifest).document.map Prod.fst,
        key.NoSurrogate ∧ key.length ≤ 27 := by
      simp only [ManifestFields.document, List.map_cons, List.map_nil]
      decide
    exact keys _ (List.mem_map_of_mem (f := Prod.fst) listed)
  · simp only [ManifestFields.document, List.mem_cons, List.not_mem_nil, or_false] at listed
    -- the members in the order of the document
    rcases listed with rfl | rfl | rfl | rfl | rfl | rfl | rfl | rfl | rfl | rfl | rfl | rfl | rfl |
      rfl | rfl | rfl | rfl | rfl | rfl
    · exact .text formed.arguments
    · exact .texts formed.artifacts.1 formed.artifacts.2
    · exact .text formed.config
    · exact .flag _
    · exact .flag _
    · exact .flag _
    · exact .text digest
    · exact .text (image whole canonical)
    · exact .text formed.policyDigest
    · exact .text formed.policy
    · exact .flag _
    · exact .text (image formed.image.registry registry)
    · exact .text (image formed.image.repository repository)
    · exact .text formed.resources
    · exact .text formed.runtime
    · exact .text ⟨(noSurrogate_ofString _).unpaired, by decide⟩
    · exact .text formed.signature
    · exact .text signer
    · exact .text formed.root

theorem readable_texts {hooks : Hooks} {style : Style} {texts : List Text}
    (unpaired : ∀ t ∈ texts, t.Unpaired) : (textArray texts).Readable hooks style := by
  induction texts with
  | nil => trivial
  | cons t texts ih =>
    obtain ⟨first, others⟩ := List.forall_mem_cons.mp unpaired
    exact ⟨first, ih others⟩

theorem ManifestValue.readable {value : Json} (simple : ManifestValue value) :
    value.Readable canonicalHooks canonicalStyle := by
  cases simple with
  | text modest => exact modest.unpaired
  | flag b => trivial
  | texts few digests =>
    exact readable_texts fun t listed => (modest_of_isDigest (digests t listed)).unpaired

theorem length_renderItems_le {texts : List Text} {bound : ℕ}
    (short : ∀ t ∈ texts, (quoted t).length < bound) :
    (Json.renderItems canonicalStyle (texts.map .str)).length ≤ texts.length * bound := by
  induction texts with
  | nil => exact Nat.zero_le _
  | cons t texts ih =>
    obtain ⟨first, others⟩ := List.forall_mem_cons.mp short
    have rest := ih others
    rw [List.map_cons, length_renderItems_cons, List.length_cons, Nat.succ_mul, Json.render]
    omega

theorem ManifestValue.length_le {value : Json} (simple : ManifestValue value) :
    (value.render canonicalStyle).length ≤ 54722 := by
  cases simple with
  | @text t modest =>
    have long := length_quoted_le t
    have short := modest.short
    rw [Json.render]
    omega
  | flag b => cases b <;> decide
  | @texts texts few digests =>
    have each : ∀ t ∈ texts, (quoted t).length < 855 := by
      intro t listed
      have long := length_quoted_le t
      have digest := length_of_isDigest (digests t listed)
      omega
    have items := length_renderItems_le each
    rw [textArray, length_render_arr]
    have product := Nat.mul_le_mul_right 855 few
    omega

theorem length_renderMembers_le_mul {members : List (Text × Json)} {bound : ℕ}
    (short : ∀ member ∈ members,
      (quoted member.1).length + (member.2.render canonicalStyle).length + 2 ≤ bound) :
    (Json.renderMembers canonicalStyle members).length ≤ members.length * bound := by
  induction members with
  | nil => exact Nat.zero_le _
  | cons member members ih =>
    obtain ⟨key, value⟩ := member
    obtain ⟨first, others⟩ := List.forall_mem_cons.mp short
    have rest := ih others
    rw [length_renderMembers_cons, List.length_cons, Nat.succ_mul]
    dsimp only at first
    omega

theorem length_render_document {p : Platform} {manifest : ManifestFields}
    (formed : Formed p manifest) :
    ((Json.obj manifest.document).render canonicalStyle).length ≤ maxCanonicalBytes := by
  have members : (Json.renderMembers canonicalStyle (joined manifest).document).length ≤
      19 * 55050 := by
    refine length_renderMembers_le_mul fun member listed => ?_
    obtain ⟨⟨-, short⟩, simple⟩ := members_of_formed formed member listed
    have key := length_quoted_le member.1
    have value := simple.length_le
    omega
  rw [← render_joined, length_render_obj]
  have limit : maxCanonicalBytes = 1048576 := rfl
  omega

theorem floatFree_document (manifest : ManifestFields) :
    floatFree (.obj manifest.document) = true := by
  have texts (ts : List Text) : itemsFloatFree (ts.map .str) = true := by
    induction ts with
    | nil => rfl
    | cons t ts ih => exact ih
  simp [ManifestFields.document, textArray, floatFree, membersFloatFree, texts]

theorem height_document (manifest : ManifestFields) :
    height (.obj manifest.document) ≤ maxDepth := by
  have texts (ts : List Text) : itemsHeight (ts.map .str) ≤ 1 := by
    induction ts with
    | nil => exact Nat.zero_le 1
    | cons t ts ih => exact Nat.max_le.mpr ⟨le_rfl, ih⟩
  have artifacts := texts manifest.artifactDigests
  have deepest : maxDepth = 64 := rfl
  simp only [ManifestFields.document, textArray, height, membersHeight]
  omega

theorem dumpable_document (manifest : ManifestFields) :
    (Json.obj manifest.document).dumpable = true := by
  have texts (ts : List Text) : Json.dumpableItems (ts.map .str) = true := by
    induction ts with
    | nil => rfl
    | cons t ts ih => exact ih
  simp [ManifestFields.document, textArray, Json.dumpable, Json.dumpableMembers, texts]

/-- The encoder of the contract writes the canonical bytes of a manifest that is short. -/
theorem canonicalJsonBytes_of_length (p : Platform) {manifest : ManifestFields}
    (short : ((Json.obj manifest.document).render canonicalStyle).length ≤ maxCanonicalBytes) :
    canonicalJsonBytes 0 (.obj manifest.document) = .ok (manifest.canonicalBytes p) := by
  obtain ⟨data, written⟩ := (canonicalJsonBytes_isOk (floatFree_document manifest)
    ((Nat.zero_add _).trans_le (height_document manifest)) (dumpable_document manifest)).mpr short
  rw [written, ManifestFields.canonicalBytes, documentBytes_eq_canonicalJsonBytes p written]

theorem canonicalJsonBytes_document {p : Platform} {manifest : ManifestFields}
    (formed : Formed p manifest) :
    canonicalJsonBytes 0 (.obj manifest.document) = .ok (manifest.canonicalBytes p) :=
  canonicalJsonBytes_of_length p (length_render_document formed)

theorem canonicalBytes_joined (p : Platform) (manifest : ManifestFields) :
    (joined manifest).canonicalBytes p = manifest.canonicalBytes p := by
  rw [ManifestFields.canonicalBytes, documentBytes, sortKeys_document, render_joined,
    ManifestFields.canonicalBytes, documentBytes, sortKeys_document]

/-- The canonical bytes are read as the document, its pairs joined. -/
theorem parse_document {p : Platform} {manifest : ManifestFields} (formed : Formed p manifest) :
    parseCanonicalJson (manifest.canonicalBytes p) = .ok (.obj (joined manifest).document) := by
  have written : canonicalJsonBytes 0 (.obj (joined manifest).document) =
      .ok (manifest.canonicalBytes p) := by
    rw [← canonicalBytes_joined]
    exact canonicalJsonBytes_of_length p (render_joined manifest canonicalStyle ▸
      length_render_document formed)
  have values := members_of_formed formed
  have distinct : ((joined manifest).document.map Prod.fst).Nodup := by
    simp only [ManifestFields.document, List.map_cons, List.map_nil]
    decide
  have readable : (Json.obj (joined manifest).document).Readable canonicalHooks canonicalStyle :=
    ⟨faithful_canonicalHooks.pairs _ distinct, Json.readableMembers_iff.mpr fun member listed =>
      ⟨(values member listed).1.1.unpaired, (values member listed).2.readable⟩⟩
  rw [← sortKeys_document] at readable
  rw [parse_of_readable readable written, sortKeys_document]

/-! ## What is loaded -/

theorem fieldNames_document (manifest : ManifestFields) :
    fieldNames (.obj manifest.document) = manifest.document.map Prod.fst := by
  have texts (ts : List Text) : itemNames (ts.map .str) = [] := by
    induction ts with
    | nil => rfl
    | cons t ts ih => exact ih
  simp [ManifestFields.document, textArray, fieldNames, memberNames, texts]

/-- No field of a manifest's document is private. -/
theorem rejectProviderPrivateFields_document (manifest : ManifestFields) :
    rejectProviderPrivateFields (.obj manifest.document) = .ok () := by
  rw [rejectProviderPrivateFields_eq_ok, fieldNames_document]
  simp only [ManifestFields.document, List.map_cons, List.map_nil]
  decide

theorem mapM_textOfJson (texts : List Text) :
    (texts.map Json.str).mapM textOfJson = some texts := by
  induction texts with
  | nil => rfl
  | cons t texts ih => simp [textOfJson, ih]

/-- The document of a manifest holds the fields of the manifest. -/
theorem manifestOf_document {p : Platform} {manifest : WorkloadManifest}
    (image : ParsedImage p manifest.image) :
    manifestOf p manifest.document manifest.artifactDigests = .ok manifest := by
  rw [manifestOf, bind_eq_ok]
  exact ⟨manifest.image, image.reparsed, bind_eq_ok.mpr ⟨manifest, makeManifest_eq_ok.mpr rfl, rfl⟩⟩

theorem parseWorkloadManifestDocument_document {p : Platform} {manifest : WorkloadManifest}
    (image : ParsedImage p manifest.image) :
    parseWorkloadManifestDocument p (.obj manifest.document) = .ok manifest := by
  have written := canonicalJsonBytes_document (formed_of_check image manifest.checked)
  simp only [parseWorkloadManifestDocument, bind_eq_ok, demand_eq_ok, require_eq_ok, pure_eq_ok]
  refine ⟨_, rfl, (), rejectProviderPrivateFields_document _, (), ?_, (), ?_,
    manifest.artifactDigests, mapM_textOfJson _, manifest, ?_, _, written, _, written, (), rfl, rfl⟩
  · simp only [hasExactly, ManifestFields.document, List.map_cons, List.map_nil]
    decide
  · rfl
  · rw [manifestOf_document image]
    rfl

theorem mapError_eq_ok {α : Type} {f : Failure → ContractError} {result : Except Failure α}
    {a : α} : result.mapError f = .ok a ↔ result = .ok a := by
  cases result with
  | error failure => exact ⟨nofun, nofun⟩
  | ok b => exact ⟨fun same => congrArg _ (Except.ok.inj same), fun same =>
      congrArg _ (Except.ok.inj same)⟩

/-- What the reader makes of a document: a manifest of a parsed image and of the document's
texts, with the bytes of the document. -/
theorem of_parseWorkloadManifestDocument {p : Platform} {document : Json}
    {manifest : WorkloadManifest}
    (read : parseWorkloadManifestDocument p document = .ok manifest) :
    ParsedImage p manifest.image ∧
      (∃ members, document = .obj members ∧
        manifest.signerIdentity = textMember members "signer_identity") ∧
      ∃ data, canonicalJsonBytes 0 (.obj manifest.document) = .ok data ∧
        canonicalJsonBytes 0 document = .ok data := by
  simp only [parseWorkloadManifestDocument, manifestOf, bind_eq_ok, demand_eq_ok, require_eq_ok,
    pure_eq_ok, mapError_eq_ok, makeManifest_eq_ok] at read
  obtain ⟨members, object, _, -, _, -, _, -, artifacts, -, _, ⟨image, parsed, _, made, _, -, rfl⟩,
    own, written, _, given, _, rfl, rfl⟩ := read
  refine ⟨?_, ⟨members, membersOfJson_eq_some.mp object, ?_⟩, own, written, given⟩
  · rw [made]
    exact parsedImage parsed
  · rw [made]

/-- A frozen mapping is what is read from its bytes. -/
theorem FrozenMapping.parse_canonicalJsonBytes (mapping : FrozenMapping) {data : Bytes}
    (written : canonicalJsonBytes 0 mapping.copy = .ok data) :
    parseCanonicalJson data = .ok mapping.copy := by
  obtain ⟨-, -, own, written', read⟩ :=
    frozenCanonicalMapping_eq_ok.mp (mapping.refrozen "workload_manifest")
  obtain rfl := Except.ok.inj (written.symm.trans written')
  exact read

/-- A frozen mapping from which a manifest is read is the manifest's document. -/
theorem eq_document_of_parse {p : Platform} {mapping : FrozenMapping}
    {manifest : WorkloadManifest}
    (read : parseWorkloadManifestDocument p mapping.copy = .ok manifest) :
    mapping.copy = .obj manifest.document ∧ Formed p manifest.toManifestFields := by
  obtain ⟨image, ⟨members, object, signer⟩, data, own, given⟩ :=
    of_parseWorkloadManifestDocument read
  have formed := formed_of_check image manifest.checked
  obtain rfl := Except.ok.inj ((canonicalJsonBytes_document formed).symm.trans own)
  have same : mapping.copy = .obj (joined manifest.toManifestFields).document :=
    Except.ok.inj ((mapping.parse_canonicalJsonBytes given).symm.trans (parse_document formed))
  -- The signer identity was read from the document, where its pairs are joined.
  have identity : manifest.signerIdentity = manifest.signerIdentity.joinPairs := by
    rw [object] at same
    rw [Json.obj.inj same] at signer
    exact signer
  rw [joined_eq_self.mpr (Text.joinPairs_eq_self.mp identity.symm)] at same
  exact ⟨same, formed⟩

theorem loadDispatchWorkloadManifest_eq_ok {p : Platform} {envelope : ProviderDispatchEnvelope}
    {manifest : WorkloadManifest} : loadDispatchWorkloadManifest p envelope = .ok manifest ↔
      parseWorkloadManifestDocument p envelope.workloadManifest.copy = .ok manifest ∧
        manifest.digest p = envelope.assignment.workloadManifestDigest := by
  simp only [loadDispatchWorkloadManifest, bind_eq_ok, require_eq_ok, pure_eq_ok]
  constructor
  · rintro ⟨_, read, _, digest, rfl⟩
    exact ⟨read, digest⟩
  · rintro ⟨read, digest⟩
    exact ⟨manifest, read, (), digest, rfl⟩

/-! ## What is accepted -/

/-- What an envelope needs besides its manifest: a policy that the assignment names, a permit
for the assignment, and room for the whole document. -/
structure Ready (assignment : AttemptAssignment) (manifest policyDocument : Json)
    (permit : AssignmentPermit) (policy : FrozenMapping) : Prop where
  frozen : frozenCanonicalMapping policyDocument "policy_document" = .ok policy.copy
  publicFields : rejectProviderPrivateFields policy.copy = .ok ()
  digest : canonicalSha256 0 policy.copy = .ok assignment.policyDigest
  permitted : assignment.digest = .ok permit.assignmentDigest
  fits : ∃ data, canonicalJsonBytes 0 (.obj [
    ("schema", .str providerDispatchEnvelopeSchema), ("assignment", assignment.toDocument),
    ("workload_manifest", manifest), ("policy_document", policy.copy),
    ("permit", permit.toDocument)]) = .ok data

/-- The document of a manifest is frozen with its pairs joined. -/
theorem freeze_document {p : Platform} {manifest : ManifestFields} (formed : Formed p manifest)
    (label : Text) : frozenCanonicalMapping (.obj manifest.document) label =
      .ok (.obj (joined manifest).document) :=
  frozenCanonicalMapping_eq_ok.mpr ⟨⟨_, rfl⟩, ⟨_, rfl⟩, _, canonicalJsonBytes_document formed,
    parse_document formed⟩

/-- The document of a manifest is accepted wherever its digest is assigned and the rest of the
envelope is in order. -/
theorem make_document_isOk {p : Platform} {manifest : ManifestFields}
    (formed : Formed p manifest) {assignment : AttemptAssignment} {policyDocument : Json}
    {permit : AssignmentPermit}
    (assigned : assignment.workloadManifestDigest = manifest.digest p) :
    (∃ envelope, ProviderDispatchEnvelope.make assignment (.obj manifest.document) policyDocument
        permit = .ok envelope) ↔
      ∃ policy, Ready assignment (.obj (joined manifest).document) policyDocument permit
        policy := by
  have frozen := freeze_document formed "workload_manifest"
  have digest : canonicalSha256 0 (.obj (joined manifest).document) =
      .ok assignment.workloadManifestDigest := by
    rw [canonicalSha256, canonicalJsonBytes_of_parse (parse_document formed), assigned]
    rfl
  simp only [ProviderDispatchEnvelope.make_eq_ok]
  constructor
  · rintro ⟨envelope, copied, policy, rfl, rfl⟩
    have copy := Except.ok.inj (frozen.symm.trans copied)
    have valid := envelope.valid
    simp only [ProviderDispatchEnvelopeFields.check, bind_eq_ok, require_eq_ok] at valid
    obtain ⟨_, -, _, publicFields, _, -, _, -, _, named, _, rfl, _, own, _, same, data, written,
      -⟩ := valid
    refine ⟨envelope.policyDocument, policy, publicFields, named, same ▸ own, data, ?_⟩
    rw [copy]
    exact written
  · rintro ⟨policy, ready⟩
    obtain ⟨data, written⟩ := ready.fits
    let fields : ProviderDispatchEnvelopeFields := {
      assignment
      workloadManifest := ⟨.obj (joined manifest).document, _, _, frozen⟩
      policyDocument := policy
      permit }
    have valid : fields.check = .ok () := by
      simp only [ProviderDispatchEnvelopeFields.check, bind_eq_ok, require_eq_ok]
      exact ⟨(), rejectProviderPrivateFields_document _, (), ready.publicFields, _, digest, (), rfl,
        _, ready.digest, (), rfl, _, ready.permitted, (), rfl, data, written, rfl⟩
    exact ⟨⟨fields, valid⟩, frozen, ready.frozen, rfl, rfl⟩

/-- The bytes of an envelope's manifest are what its assignment names. -/
theorem digest_of_envelope (envelope : ProviderDispatchEnvelope) :
    ∃ data, canonicalJsonBytes 0 envelope.workloadManifest.copy = .ok data ∧
      sha256Digest data = envelope.assignment.workloadManifestDigest := by
  have valid := envelope.valid
  simp only [ProviderDispatchEnvelopeFields.check, bind_eq_ok, require_eq_ok] at valid
  obtain ⟨_, -, _, -, _, named, _, rfl, -⟩ := valid
  cases written : canonicalJsonBytes 0 envelope.workloadManifest.copy with
  | error error =>
    rw [canonicalSha256, written] at named
    cases named
  | ok data =>
    rw [canonicalSha256, written] at named
    exact ⟨data, rfl, Except.ok.inj named⟩

/-- An envelope whose assignment carries the digest of a manifest holds its document, unless
other bytes have the same SHA-256 digest. -/
theorem load_of_digest {p : Platform} {manifest : WorkloadManifest}
    (image : ParsedImage p manifest.image) (unpaired : manifest.signerIdentity.Unpaired)
    {envelope : ProviderDispatchEnvelope}
    (assigned : envelope.assignment.workloadManifestDigest = manifest.digest p) :
    loadDispatchWorkloadManifest p envelope = .ok manifest ∨
      ∃ data, canonicalJsonBytes 0 envelope.workloadManifest.copy = .ok data ∧
        data ≠ manifest.canonicalBytes p ∧ sha256Digest data = manifest.digest p := by
  obtain ⟨data, written, digest⟩ := digest_of_envelope envelope
  rcases eq_or_ne data (manifest.canonicalBytes p) with same | other
  · left
    have read := parse_document (formed_of_check image manifest.checked)
    rw [joined_eq_self.mpr unpaired] at read
    rw [same] at written
    have copied := envelope.workloadManifest.parse_canonicalJsonBytes written
    have copy := Except.ok.inj (copied.symm.trans read)
    rw [loadDispatchWorkloadManifest_eq_ok, copy]
    exact ⟨parseWorkloadManifestDocument_document image, assigned.symm⟩
  · exact .inr ⟨data, written, other, digest.trans assigned⟩

/-! ## Fidelity -/

/-- What an envelope from which a manifest was loaded holds. -/
structure Faithful (p : Platform) (envelope : ProviderDispatchEnvelope)
    (manifest : WorkloadManifest) : Prop where
  bytes : canonicalJsonBytes 0 envelope.workloadManifest.copy = .ok (manifest.canonicalBytes p)
  covered : sha256Digest (manifest.canonicalBytes p) = envelope.assignment.workloadManifestDigest
  redundant : ∃ members, envelope.workloadManifest.copy = .obj members ∧
    ImageReference.parse p false (textMember members "image_reference") =
      .ok ⟨textMember members "registry", textMember members "repository",
        textMember members "image_digest"⟩
  publicManifest : ∀ name ∈ fieldNames envelope.workloadManifest.copy,
    lowerName name ∉ forbiddenFieldNames
  publicPolicy : ∀ name ∈ fieldNames envelope.policyDocument.copy,
    lowerName name ∉ forbiddenFieldNames

theorem faithful_of_load {p : Platform} {envelope : ProviderDispatchEnvelope}
    {manifest : WorkloadManifest}
    (loaded : loadDispatchWorkloadManifest p envelope = .ok manifest) :
    Faithful p envelope manifest := by
  obtain ⟨read, digest⟩ := loadDispatchWorkloadManifest_eq_ok.mp loaded
  obtain ⟨copy, formed⟩ := eq_document_of_parse read
  have valid := envelope.valid
  simp only [ProviderDispatchEnvelopeFields.check, bind_eq_ok] at valid
  obtain ⟨_, publicManifest, _, publicPolicy, -⟩ := valid
  refine ⟨?_, digest, ⟨_, copy, formed.image.reparsed⟩,
    (rejectProviderPrivateFields_eq_ok _).mp publicManifest,
    (rejectProviderPrivateFields_eq_ok _).mp publicPolicy⟩
  rw [copy]
  exact canonicalJsonBytes_document formed

/-- A manifest is loaded from an envelope of its document exactly if its signer identity holds
no surrogate pair. -/
theorem load_of_make {p : Platform} {manifest : WorkloadManifest}
    (image : ParsedImage p manifest.image) {assignment : AttemptAssignment}
    {policyDocument : Json} {permit : AssignmentPermit} {envelope : ProviderDispatchEnvelope}
    (assigned : assignment.workloadManifestDigest = manifest.digest p)
    (made : ProviderDispatchEnvelope.make assignment (.obj manifest.document) policyDocument
      permit = .ok envelope) :
    loadDispatchWorkloadManifest p envelope = .ok manifest ↔ manifest.signerIdentity.Unpaired := by
  have formed := formed_of_check image manifest.checked
  obtain ⟨copied, -, rfl, -⟩ := ProviderDispatchEnvelope.make_eq_ok.mp made
  have copy := Except.ok.inj ((freeze_document formed _).symm.trans copied)
  constructor
  · intro loaded
    have same := (eq_document_of_parse (loadDispatchWorkloadManifest_eq_ok.mp loaded).1).1
    have documents := Json.obj.inj (copy.trans same)
    have signers := congrArg (textMember · "signer_identity") documents
    exact Text.joinPairs_eq_self.mp signers
  · intro unpaired
    rw [joined_eq_self.mpr unpaired] at copy
    rw [loadDispatchWorkloadManifest_eq_ok, ← copy]
    exact ⟨parseWorkloadManifestDocument_document image, assigned.symm⟩

/-- **Manifest fidelity.** The document of a manifest whose image was parsed is accepted in
every envelope that is otherwise in order and whose assignment carries its digest. The manifest
is loaded from it exactly if its signer identity holds no surrogate pair, and then from every
envelope that carries its digest, unless other bytes have the same SHA-256 digest. Conversely
the digest of the assignment covers exactly the canonical bytes of what is loaded, its redundant
image fields agree with its reference, and no name in the manifest or in the policy is private
in any case. -/
theorem manifest_fidelity (p : Platform) :
    (∀ (manifest : WorkloadManifest) (production : Bool) (raw : Text),
      ImageReference.parse p production raw = .ok manifest.image →
      (∀ (assignment : AttemptAssignment) (policyDocument : Json) (permit : AssignmentPermit),
        assignment.workloadManifestDigest = manifest.digest p →
          ((∃ envelope, ProviderDispatchEnvelope.make assignment (.obj manifest.document)
              policyDocument permit = .ok envelope) ↔
            ∃ policy, Ready assignment (.obj (joined manifest.toManifestFields).document)
              policyDocument permit policy) ∧
          ∀ envelope, ProviderDispatchEnvelope.make assignment (.obj manifest.document)
              policyDocument permit = .ok envelope →
            (loadDispatchWorkloadManifest p envelope = .ok manifest ↔
              manifest.signerIdentity.Unpaired)) ∧
      ∀ envelope : ProviderDispatchEnvelope, manifest.signerIdentity.Unpaired →
        envelope.assignment.workloadManifestDigest = manifest.digest p →
          loadDispatchWorkloadManifest p envelope = .ok manifest ∨
            ∃ data, canonicalJsonBytes 0 envelope.workloadManifest.copy = .ok data ∧
              data ≠ manifest.canonicalBytes p ∧ sha256Digest data = manifest.digest p) ∧
    ∀ (envelope : ProviderDispatchEnvelope) (manifest : WorkloadManifest),
      loadDispatchWorkloadManifest p envelope = .ok manifest → Faithful p envelope manifest := by
  refine ⟨fun manifest production raw parsed => ?_, fun _ _ => faithful_of_load⟩
  have image := parsedImage parsed
  have formed := formed_of_check image manifest.checked
  exact ⟨fun assignment policyDocument permit assigned =>
    ⟨make_document_isOk formed assigned, fun envelope => load_of_make image assigned⟩,
    fun envelope unpaired assigned => load_of_digest image unpaired assigned⟩

/-! ## A signer with a surrogate pair -/

namespace SampleDispatch

def zeroDigest : Text :=
  "sha256:0000000000000000000000000000000000000000000000000000000000000000"

def reference : Text := Text.ofString "r.io/image@" ++ zeroDigest

def image : ImageReference := ⟨"r.io", "image", zeroDigest⟩

theorem parse_reference : ImageReference.parse .sample true reference = .ok image := by
  have plain : (reference.all fun c => 0x21 ≤ c.val && c.val ≠ 0x7f) = true := by decide
  have tokens : (([Text.ofString "://", "?", "#", "%", "\\"] : List Text).all fun token =>
    containsText token reference = false) = true := by decide
  simp only [ImageReference.parse, validateRegistry, bind_eq_ok, require_eq_ok, pure_eq_ok]
  refine ⟨(), ⟨by decide, by decide, by decide, fun token listed => ?_, fun c listed => ?_⟩, (),
    by decide, (), ⟨(), by decide, (), by decide, (), rfl, by decide⟩, (), by decide, (), by decide,
    rfl⟩
  · exact of_decide_eq_true (List.all_eq_true.mp tokens token listed)
  · have kept := List.all_eq_true.mp plain c listed
    rwa [Bool.and_eq_true, decide_eq_true_eq, decide_eq_true_eq] at kept

/-- A manifest of a signer. -/
def manifest (signer : Text) (sized : 1 ≤ signer.length ∧ signer.length ≤ 256)
    (stripped : signer = signer.strip)
    (plain : (signer.all fun c => 0x20 ≤ c.val && c.val ≠ 0x7f) = true) : WorkloadManifest where
  image := image
  signerIdentity := signer
  trustRootId := "root"
  signatureDigest := zeroDigest
  policyId := "policy"
  policyDigest := zeroDigest
  argumentsDigest := zeroDigest
  configDigest := zeroDigest
  resourceProfile := "small"
  runtimeProfile := "plain"
  artifactDigests := []
  controls := ⟨false, false, false, false⟩
  checked := by
    simp only [ManifestFields.check, bind_eq_ok, require_eq_ok]
    exact ⟨(), validateIdentity_of_all sized stripped plain, (), by decide, (), by decide, (),
      by decide, (), by decide, (), by decide, (), by decide, (), by decide, (), by decide, (),
      by decide, by decide⟩

/-- The signer is text. -/
def signed : WorkloadManifest := manifest "signer" (by decide) (by decide) (by decide)

/-- The signer is the two halves of a surrogate pair. -/
def paired : WorkloadManifest := manifest [0xd83d, 0xde00] (by decide) (by decide) (by decide)

theorem valid_seed : ProviderIdentityFields.check ⟨.cathedralSeed, "seed", none⟩ = .ok () := by
  decide

/-- An assignment of a manifest under the empty policy. -/
def assignment (digest : Text) (isDigest : Text.isDigest "sha256:" digest = true) :
    AttemptAssignment where
  attemptId := "attempt"
  provider := ⟨⟨.cathedralSeed, "seed", none⟩, valid_seed⟩
  slotId := "slot"
  providerNonce := List.replicate 64 0x30
  workloadManifestDigest := digest
  policyDigest := sha256Digest [0x7b, 0x7d]
  imageDigest := zeroDigest
  valid := AttemptAssignmentFields.check_eq_ok.mpr
    ⟨(by decide : isId "attempt" = true), (by decide : isId "slot" = true),
      (by decide : isNonce (List.replicate 64 0x30) = true), isDigest, isDigest_sha256Digest _,
      (by decide : Text.isDigest "sha256:" zeroDigest = true)⟩

def permit (digest : Text) (isDigest : Text.isDigest "sha256:" digest = true) :
    AssignmentPermit where
  assignmentDigest := digest
  sequence := 1
  issuedAt := 0
  expiresAt := 1
  keyId := "key"
  authorizationDigest := zeroDigest
  valid := AssignmentPermitFields.check_eq_ok.mpr
    ⟨isDigest, (by decide : (1 : ℤ) ≤ 1), (by decide : (0 : Utc) < 1),
      (by decide : isId "key" = true), (by decide : Text.isDigest "sha256:" zeroDigest = true)⟩

/-- Two short texts make a short member. -/
theorem length_member_le {key t : Text} (named : key.length ≤ 128) (short : t.length ≤ 128) :
    (quoted key).length + ((Json.str t).render canonicalStyle).length + 2 ≤ 4000 := by
  have name := length_quoted_le key
  have written := length_quoted_le t
  rw [Json.render]
  omega

theorem length_permit {digest : Text} (isDigest : Text.isDigest "sha256:" digest = true) :
    ((permit digest isDigest).toDocument.render canonicalStyle).length ≤ 30000 := by
  have short : digest.length ≤ 128 := (length_of_isDigest isDigest).trans_le (by decide)
  have members : (Json.renderMembers canonicalStyle (permit digest isDigest).members).length ≤
      7 * 4000 := by
    refine length_renderMembers_le_mul ?_
    simp only [AssignmentPermit.members, List.forall_mem_cons, List.not_mem_nil, false_implies,
      implies_true, and_true]
    exact ⟨by decide, length_member_le (by decide) short,
      (by decide : (quoted "sequence").length + ((Json.int 1).render canonicalStyle).length + 2 ≤
        4000),
      length_member_le (by decide)
        ((Instant.length_canonicalUtc (Fin.isLt _)).trans_le (by decide)),
      length_member_le (by decide)
        ((Instant.length_canonicalUtc (Fin.isLt _)).trans_le (by decide)),
      length_member_le (by decide) (by decide : (Text.ofString "key").length ≤ 128),
      length_member_le (by decide) (by decide : zeroDigest.length ≤ 128)⟩
  rw [AssignmentPermit.toDocument, length_render_obj]
  omega

theorem length_assignment {digest : Text} (isDigest : Text.isDigest "sha256:" digest = true) :
    ((assignment digest isDigest).toDocument.render canonicalStyle).length ≤ 40000 := by
  have short : digest.length ≤ 128 := (length_of_isDigest isDigest).trans_le (by decide)
  have members : (Json.renderMembers canonicalStyle (assignment digest isDigest).members).length ≤
      8 * 4000 := by
    refine length_renderMembers_le_mul ?_
    simp only [AttemptAssignment.members, List.forall_mem_cons, List.not_mem_nil, false_implies,
      implies_true, and_true]
    exact ⟨by decide,
      length_member_le (by decide) (by decide : (Text.ofString "attempt").length ≤ 128),
      (by decide : (quoted "provider").length + ((ProviderIdentity.toDocument
        ⟨⟨.cathedralSeed, "seed", none⟩, rfl⟩).render canonicalStyle).length + 2 ≤ 4000),
      length_member_le (by decide) (by decide : (Text.ofString "slot").length ≤ 128),
      length_member_le (by decide) (by decide : (List.replicate 64 0x30 : Text).length ≤ 128),
      length_member_le (by decide) short,
      length_member_le (by decide)
        ((length_of_isDigest (isDigest_sha256Digest _)).trans_le (by decide)),
      length_member_le (by decide) (by decide : zeroDigest.length ≤ 128)⟩
  rw [AttemptAssignment.toDocument, length_render_obj]
  omega

/-- The rest of an envelope is in order around a short manifest. -/
theorem ready_of_short {value : Json} (free : floatFree value = true)
    (deep : height value ≤ 60) (dumpable : value.dumpable = true)
    (short : (value.render canonicalStyle).length ≤ 10000) {digest : Text}
    (isDigest : Text.isDigest "sha256:" digest = true) :
    ∃ own isOwn policy, Ready (assignment digest isDigest) value (.obj []) (permit own isOwn)
      policy := by
  -- an assignment around the digest has a digest of its own
  have own := length_assignment isDigest
  obtain ⟨data, written⟩ : ∃ data, canonicalJsonBytes 1 (assignment digest isDigest).toDocument =
      .ok data :=
    (canonicalJsonBytes_isOk rfl (Nat.le_of_ble_eq_true rfl) rfl).mpr
        (own.trans (Nat.le_of_ble_eq_true rfl))
  have isOwn := isDigest_sha256Digest data
  have empty : frozenCanonicalMapping (.obj []) "policy_document" = .ok (.obj []) := by
    have plain : (Json.obj []).Plain False := ⟨List.nodup_nil, trivial⟩
    obtain ⟨data, braces⟩ : ∃ data, canonicalJsonBytes 0 (.obj []) = .ok data :=
      (canonicalJsonBytes_isOk rfl (Nat.zero_le _) rfl).mpr (Nat.le_of_ble_eq_true rfl)
    exact frozenCanonicalMapping_eq_ok.mpr
      ⟨⟨[], rfl⟩, ⟨[], rfl⟩, data, braces, parse_canonicalJsonBytes plain braces⟩
  refine ⟨sha256Digest data, isOwn, ⟨.obj [], _, _, empty⟩, empty, rfl, rfl, ?_, ?_⟩
  · rw [AttemptAssignment.digest, canonicalSha256, written]
    rfl
  · refine (canonicalJsonBytes_isOk ?_ ?_ ?_).mpr ?_
    · simp only [floatFree, membersFloatFree, free]
      rfl
    · -- the envelope is one level higher than its members
      have assigned : height (assignment digest isDigest).toDocument = 2 := rfl
      have permitted : height (permit _ isOwn).toDocument = 1 := rfl
      have limit : maxDepth = 64 := rfl
      simp only [height, membersHeight, assigned, permitted]
      omega
    · simp only [Json.dumpable, Json.dumpableMembers, dumpable]
      rfl
    · -- and shorter than the limit by far
      have permitted := length_permit isOwn
      have schema : (quoted "schema").length +
          ((Json.str providerDispatchEnvelopeSchema).render canonicalStyle).length + 2 ≤ 4000 := by
        decide
      have assignmentKey : (quoted "assignment").length ≤ 100 := by decide
      have manifestKey : (quoted "workload_manifest").length ≤ 100 := by decide
      have policyMember : (quoted "policy_document").length +
          ((Json.obj []).render canonicalStyle).length ≤ 100 := by decide
      have permitKey : (quoted "permit").length ≤ 100 := by decide
      have limit : maxCanonicalBytes = 1048576 := rfl
      have last : (Json.renderMembers canonicalStyle []).length = 0 := rfl
      rw [length_render_obj]
      simp only [length_renderMembers_cons, last]
      omega

/-- An image reference is parsed and a manifest of it is loaded from an envelope. -/
theorem manifest_fidelity_signed :
    ImageReference.parse .sample true reference = .ok signed.image ∧
    ∃ assignment policyDocument permit envelope,
      assignment.workloadManifestDigest = signed.digest .sample ∧
      ProviderDispatchEnvelope.make assignment (.obj signed.document) policyDocument permit =
        .ok envelope ∧
      loadDispatchWorkloadManifest .sample envelope = .ok signed := by
  obtain ⟨own, isOwn, ready⟩ := ready_of_short (floatFree_document (joined signed.toManifestFields))
    (by decide) (dumpable_document _) (by decide +kernel)
    (isDigest_sha256Digest (signed.canonicalBytes .sample))
  obtain ⟨accepted, loaded⟩ := ((manifest_fidelity .sample).1 signed true reference
    parse_reference).1 (assignment (signed.digest .sample) (isDigest_sha256Digest _)) (.obj [])
    (permit own isOwn) rfl
  obtain ⟨envelope, made⟩ := accepted.mpr ready
  exact ⟨parse_reference, _, _, _, envelope, rfl, made, (loaded envelope made).mpr (by decide)⟩

/-- The document of a manifest with a surrogate pair is accepted, but the manifest is not
loaded. -/
theorem paired_not_loaded : ImageReference.parse .sample true reference = .ok paired.image ∧
    ∃ assignment policyDocument permit envelope,
      assignment.workloadManifestDigest = paired.digest .sample ∧
      ProviderDispatchEnvelope.make assignment (.obj paired.document) policyDocument permit =
        .ok envelope ∧
      loadDispatchWorkloadManifest .sample envelope ≠ .ok paired := by
  have image := parsedImage parse_reference
  have formed := formed_of_check image paired.checked
  obtain ⟨own, isOwn, ready⟩ := ready_of_short (floatFree_document (joined paired.toManifestFields))
    (by decide) (dumpable_document _) (by decide +kernel)
    (isDigest_sha256Digest (paired.canonicalBytes .sample))
  obtain ⟨envelope, made⟩ := (make_document_isOk formed rfl).mpr ready
  refine ⟨parse_reference, _, _, _, envelope, rfl, made, fun loaded => ?_⟩
  exact absurd ((load_of_make image rfl made).mp loaded) (by decide)

end SampleDispatch

end Cathedral.Provider
