import CathedralCompute.Codec.JsonCanonical
import CathedralCompute.Provenance.Replay
import CathedralCompute.Remote.Evidence
import CathedralCompute.Sample

/-!
# Retained envelopes read back

The writer and the reader of envelopes have bounds of their own. Evidence that a
remote miner may send, and that retention accepts, is reconstructed by the replay
exactly when its certificates and its hotkey are within the bounds of the reader:
those of the remote path and of retention allow more.

## Main results

* `parseEnvelope_eq_ok_iff` — what the reader returns for a retained envelope
* `retained_envelope_reads_back_iff` — the round trip
-/

set_option autoImplicit false

namespace Cathedral.Provenance

open Codec Semantics

/-! ## Fields -/

theorem base64Field_eq {members : List (Text × Json)} {name : Text} {octets : Bytes} {maxBytes : ℕ}
    (found : Json.lookup name members = some (.str (base64 octets)))
    (bounded : octets.length ≤ maxBytes) (wide : 4 ≤ maxBytes) :
    base64Field members name maxBytes = .ok octets := by
  have short : (base64 octets).length ≤ maxBytes * 2 := by
    rw [length_base64]
    omega
  simp only [base64Field, boundedBase64, field, found, Option.getD_some, textOfJson, bind_eq_ok,
    require_eq_ok, demand_eq_ok, pure_eq_ok]
  exact ⟨(), Bool.false_ne_true, base64 octets, rfl, (), short, octets, base64Decode_base64 octets, (),
    bounded, rfl⟩

theorem optionalBase64Field_eq {members : List (Text × Json)} {name : Text}
    {octets : Option Bytes} {maxBytes : ℕ}
    (found : Json.lookup name members = some (Runtime.optionalBase64 octets))
    (bounded : ∀ value ∈ octets, value.length ≤ maxBytes) (wide : 4 ≤ maxBytes) :
    optionalBase64Field members name maxBytes = .ok octets := by
  cases octets with
  | none =>
    rw [optionalBase64Field, found, if_pos (by decide)]
  | some value =>
    have found : Json.lookup name members = some (.str (base64 value)) := found
    have read := base64Field_eq found (bounded value rfl) wide
    simp only [base64Field, bind_eq_ok, require_eq_ok] at read
    obtain ⟨-, present, read⟩ := read
    rw [optionalBase64Field, if_neg present, read]
    rfl

/-- The parts of a canonical binding. -/
theorem canonicalBytes_eq (binding : ChannelBinding) :
    binding.canonicalBytes = channelBindingHead ++ (lengthBytes 2 binding.bindingType.value.ascii ++
      (binding.bindingType.value.ascii ++ binding.digest)) := by
  simp only [ChannelBinding.canonicalBytes, List.append_assoc]

theorem length_canonicalBytes_le (binding : ChannelBinding) :
    binding.canonicalBytes.length ≤ 1024 := by
  have head : channelBindingHead.length = 26 := by decide
  have name : (lengthBytes 2 binding.bindingType.value.ascii).length = 2 ∧
      binding.bindingType.value.ascii.length ≤ 22 := by
    cases binding.bindingType <;> decide
  simp only [canonicalBytes_eq, List.length_append, head, binding.exact]
  omega

/-- A canonical binding is read back. -/
theorem channelBindingFromOctets_canonicalBytes (binding : ChannelBinding) :
    channelBindingFromOctets binding.canonicalBytes = .ok binding := by
  have name : asciiDecode binding.bindingType.value.ascii = some binding.bindingType.value :=
    asciiDecode_ascii (Text.isAscii_of_all (fun _ => Text.val_lt_of_isVisible)
      (by cases binding.bindingType <;> rfl))
  have sized : bigEndianValue (lengthBytes 2 binding.bindingType.value.ascii) =
      binding.bindingType.value.ascii.length := by
    cases binding.bindingType <;> decide
  have framedBy : (lengthBytes 2 binding.bindingType.value.ascii).length = 2 := by
    cases binding.bindingType <;> decide
  have headed : channelBindingHead.isPrefixOf binding.canonicalBytes ∧
      channelBindingHead.length + 2 + 32 ≤ binding.canonicalBytes.length := by
    rw [canonicalBytes_eq]
    refine ⟨List.isPrefixOf_iff_prefix.mpr (List.prefix_append _ _), ?_⟩
    simp only [List.length_append, framedBy, binding.exact]
    omega
  have body : binding.canonicalBytes.drop channelBindingHead.length =
      lengthBytes 2 binding.bindingType.value.ascii ++
        (binding.bindingType.value.ascii ++ binding.digest) := by
    rw [canonicalBytes_eq, List.drop_left]
  have nameLength : bigEndianValue ((binding.canonicalBytes.drop channelBindingHead.length).take 2) =
      binding.bindingType.value.ascii.length := by
    rw [body, List.take_left' framedBy, sized]
  have rest : (binding.canonicalBytes.drop channelBindingHead.length).drop 2 =
      binding.bindingType.value.ascii ++ binding.digest := by
    rw [body, List.drop_left' framedBy]
  have digest : (binding.canonicalBytes.drop channelBindingHead.length).drop
      (2 + binding.bindingType.value.ascii.length) = binding.digest := by
    rw [← List.drop_drop, rest, List.drop_left]
  unfold channelBindingFromOctets
  simp only [require, if_pos headed, nameLength, rest, digest, List.take_left, name,
    Option.bind_some, ChannelBindingType.ofValue_value, binding.exact]
  rw [bind_eq_ok]
  refine ⟨(), rfl, ?_⟩
  rw [dif_pos trivial, bind_eq_ok]
  refine ⟨binding.bindingType, rfl, ?_⟩
  rw [bind_eq_ok]
  exact ⟨(), if_pos rfl, rfl⟩

theorem channelBindingFromCanonical_eq (reportData : ReportData) :
    channelBindingFromCanonical (reportData.channelBinding.map ChannelBinding.canonicalBytes) =
      .ok reportData.channelBinding := by
  cases reportData with
  | v1 => rfl
  | v2 binding =>
    have read := channelBindingFromOctets_canonicalBytes binding
    simp only [ReportData.channelBinding, Option.map_some, channelBindingFromCanonical, read]
    rfl

theorem reportDataVersion_eq (reportData : ReportData) :
    reportDataVersion (.int reportData.version) = .ok reportData.version := by
  cases reportData <;> rfl

theorem makeReportData_eq (reportData : ReportData) :
    makeReportData reportData.version reportData.channelBinding = .ok reportData := by
  cases reportData <;> rfl

/-- A certificate is read back if it is not too large. -/
theorem certificateEntry_eq_ok_iff {cert decoded : Bytes} :
    certificateEntry (.str (base64 cert)) = .ok decoded ↔
      cert.length ≤ maxCertBytes ∧ decoded = cert := by
  simp only [certificateEntry, textOfJson, bind_eq_ok, demand_eq_ok, require_eq_ok, pure_eq_ok,
    Option.some.injEq, exists_eq_left', base64Decode_base64, exists_const]
  exact and_congr_right fun _ => eq_comm

theorem mapM_certificateEntry_eq_ok_iff {certs decoded : List Bytes} :
    (certs.map fun cert => Json.str (base64 cert)).mapM certificateEntry = .ok decoded ↔
      (∀ cert ∈ certs, cert.length ≤ maxCertBytes) ∧ decoded = certs := by
  induction certs generalizing decoded with
  | nil =>
    rw [List.map_nil, List.mapM_nil, pure_eq_ok, eq_comm]
    simp
  | cons cert certs ih =>
    simp only [List.map_cons, List.mapM_cons, bind_eq_ok, certificateEntry_eq_ok_iff, ih,
      pure_eq_ok, List.forall_mem_cons]
    constructor
    · rintro ⟨_, ⟨small, rfl⟩, _, ⟨others, rfl⟩, rfl⟩
      exact ⟨⟨small, others⟩, rfl⟩
    · rintro ⟨⟨small, others⟩, rfl⟩
      exact ⟨cert, ⟨small, rfl⟩, certs, ⟨others, rfl⟩, rfl⟩

/-! ## The component -/

/-- The members of a component as they stand in the envelope. -/
def sortedComponent (evidence : Evidence) : List (Text × Json) :=
  Json.sortMembers (Json.sortKeysMembers (Runtime.componentMembers evidence))

/-- What the remote path promises of evidence for retention. -/
structure Retainable (evidence : Evidence) : Prop where
  kind : evidence.kind = .tdx
  jwt : evidence.compositeJwt = none
  quote : evidence.quote.length ≤ maxQuoteBytes
  nonce : evidence.nonce.length = 32
  hotkey : evidence.minerHotkey ≠ []
  chain : evidence.certChain.length ≤ maxCertChainEntries
  sshHostKey : evidence.sshHostKey = none

/-- The bounds of the reader that the writer does not keep to. -/
structure Replayable (evidence : Evidence) : Prop where
  certificates : ∀ cert ∈ evidence.certChain, cert.length ≤ maxCertBytes
  hotkey : ∀ octets ∈ evidence.minerHotkey.utf8, octets.length ≤ 512

theorem distinct_componentMembers (evidence : Evidence) :
    ((Runtime.componentMembers evidence).map Prod.fst).Nodup := by
  simp only [Runtime.componentMembers, List.map_cons, List.map_nil]
  decide

theorem sortKeys_optionalBase64 (value : Option Bytes) :
    (Runtime.optionalBase64 value).sortKeys = Runtime.optionalBase64 value := by
  cases value <;> rfl

theorem sortKeys_texts (texts : List Text) :
    (Json.arr (texts.map .str)).sortKeys = .arr (texts.map .str) := by
  rw [Json.sortKeys, Json.sortKeysItems_eq_map, List.map_map]
  rfl

/-- A member of the component is found where it was put. -/
theorem lookup_sortedComponent {evidence : Evidence} {name : Text} {value : Json}
    (found : Json.lookup name (Runtime.componentMembers evidence) = some value)
    (flat : value.sortKeys = value) :
    Json.lookup name (sortedComponent evidence) = some value := by
  have sorted := Json.lookup_sortMembers (distinct_componentMembers evidence) found
  rwa [flat] at sorted

/-- The reader returns the evidence of a component that is within its bounds, and
nothing for one that is not. -/
theorem evidenceOfComponent_eq_ok_iff {evidence read : Evidence} (retainable : Retainable evidence)
    {hotkey : Bytes} (encoded : evidence.minerHotkey.utf8 = some hotkey) :
    evidenceOfComponent (sortedComponent evidence) = .ok read ↔
      Replayable evidence ∧ read = evidence := by
  -- the writer sorts the keys, and the reader looks each of them up
  have kind : Json.lookup "kind" (sortedComponent evidence) = some (.str EvidenceKind.tdx.value) :=
    lookup_sortedComponent (by rw [← retainable.kind]; rfl) rfl
  have name : Json.lookup "miner_hotkey" (sortedComponent evidence) =
      some (.str evidence.minerHotkey) := lookup_sortedComponent rfl rfl
  have version : Json.lookup "report_data_version" (sortedComponent evidence) =
      some (.int evidence.reportData.version) := lookup_sortedComponent rfl rfl
  have quote : Json.lookup "quote_base64" (sortedComponent evidence) =
      some (.str (base64 evidence.quote)) := lookup_sortedComponent rfl rfl
  have nonce : Json.lookup "nonce_base64" (sortedComponent evidence) =
      some (.str (base64 evidence.nonce)) := lookup_sortedComponent rfl rfl
  have binding : Json.lookup "channel_binding_base64" (sortedComponent evidence) =
      some (Runtime.optionalBase64 (evidence.reportData.channelBinding.map
        ChannelBinding.canonicalBytes)) :=
    lookup_sortedComponent rfl (sortKeys_optionalBase64 _)
  have sshHostKey : Json.lookup "ssh_host_key_base64" (sortedComponent evidence) =
      some (Runtime.optionalBase64 evidence.sshHostKey) :=
    lookup_sortedComponent rfl (sortKeys_optionalBase64 _)
  have chain : Json.lookup "cert_chain_base64" (sortedComponent evidence) =
      some (.arr (evidence.certChain.map fun cert => .str (base64 cert))) := by
    refine lookup_sortedComponent rfl ?_
    have texts := sortKeys_texts (evidence.certChain.map base64)
    rwa [List.map_map] at texts
  -- what retention allows is within the bounds of these fields
  have quote := base64Field_eq quote retainable.quote (by decide)
  have nonce := base64Field_eq nonce (retainable.nonce.trans_le (by decide : 32 ≤ 64)) (by decide)
  have sshHostKey : optionalBase64Field (sortedComponent evidence) "ssh_host_key_base64" 4096 =
      .ok evidence.sshHostKey :=
    optionalBase64Field_eq sshHostKey (by simp [retainable.sshHostKey]) (by decide)
  have binding : optionalBase64Field (sortedComponent evidence) "channel_binding_base64" 1024 =
      .ok (evidence.reportData.channelBinding.map ChannelBinding.canonicalBytes) := by
    refine optionalBase64Field_eq binding ?_ (by decide)
    intro value given
    obtain ⟨own, -, rfl⟩ := Option.map_eq_some_iff.mp given
    exact length_canonicalBytes_le own
  have nonempty : 1 ≤ hotkey.length :=
    (List.length_pos_of_ne_nil retainable.hotkey).trans_le (Text.length_le_of_utf8 encoded)
  have named : (evidenceOfComponent.isFloat (.int evidence.reportData.version)) = false := rfl
  -- two bounds remain: those of the certificates and of the hotkey
  simp only [evidenceOfComponent, componentHotkey, componentChain, field, kind, name, version, chain,
    quote, nonce, sshHostKey, binding, channelBindingFromCanonical_eq, reportDataVersion_eq,
    makeReportData_eq, Option.getD_some, textOfJson, itemsOfJson, encoded, bind_eq_ok, require_eq_ok,
    demand_eq_ok, pure_eq_ok, Option.some.injEq, Except.ok.injEq, exists_eq_left', named,
    mapM_certificateEntry_eq_ok_iff, List.length_map]
  constructor
  · rintro ⟨-, -, _, ⟨-, ⟨-, short⟩, rfl⟩, _, ⟨-, -, certificates, rfl⟩, -, -, rfl⟩
    refine ⟨⟨certificates, ?_⟩, ?_⟩
    · rw [encoded]
      rintro _ ⟨⟩
      exact short
    · obtain ⟨_, _, _, _, _, _, _, _⟩ := evidence
      cases retainable.kind
      cases retainable.jwt
      rfl
  · rintro ⟨⟨certificates, short⟩, rfl⟩
    refine ⟨(), by decide, read.minerHotkey, ⟨(), ⟨nonempty, short hotkey encoded⟩, rfl⟩,
      read.certChain, ⟨(), retainable.chain, certificates, rfl⟩, (), Bool.false_ne_true, ?_⟩
    obtain ⟨_, _, _, _, _, _, _, _⟩ := read
    cases retainable.kind
    cases retainable.jwt
    rfl

/-! ## The envelope -/

theorem faithful_envelopeHooks (p : Platform) :
    (envelopeHooks p).Faithful (compactStyle p) False where
  ints _ short := pythonInt_intText short
  floats impossible := impossible.elim
  pairs _ distinct := strictPairs_of_nodup distinct

/-- The document of an envelope with one component. -/
def envelopeDocument (evidence : Evidence) (digest : Text) : Json :=
  .obj (Runtime.envelopeMembers digest [.obj (Runtime.componentMembers evidence)])

theorem distinct_envelopeMembers (digest : Text) (components : List Json) :
    ((Runtime.envelopeMembers digest components).map Prod.fst).Nodup := by
  simp only [Runtime.envelopeMembers, List.map_cons, List.map_nil]
  decide

theorem plain_optionalBase64 (value : Option Bytes) :
    (Runtime.optionalBase64 value).Plain False := by
  cases value with
  | none => trivial
  | some octets => exact (isAscii_base64 octets).noSurrogate

theorem plain_envelopeDocument {evidence : Evidence} {digest : Text}
    (hotkey : evidence.minerHotkey.NoSurrogate) (plain : digest.NoSurrogate) :
    (envelopeDocument evidence digest).Plain False := by
  have kind : evidence.kind.value.NoSurrogate := by
    cases evidence.kind <;> decide
  have chain : Json.PlainItems False (evidence.certChain.map fun cert => .str (base64 cert)) := by
    rw [Json.plainItems_iff]
    intro item listed
    obtain ⟨cert, -, rfl⟩ := List.mem_map.mp listed
    exact (isAscii_base64 cert).noSurrogate
  have component : (Json.obj (Runtime.componentMembers evidence)).Plain False := by
    refine ⟨distinct_componentMembers evidence, ?_⟩
    simp only [Runtime.componentMembers, Json.PlainMembers, Json.Plain, kind, hotkey, chain,
      plain_optionalBase64, (isAscii_base64 _).noSurrogate, true_and, and_true]
    decide
  have keys : (Text.ofString "schema").NoSurrogate ∧ Runtime.retainedEvidenceSchema.NoSurrogate ∧
      (Text.ofString "evidence_digest").NoSurrogate ∧ (Text.ofString "components").NoSurrogate := by
    decide
  exact ⟨distinct_envelopeMembers digest _, keys.1, keys.2.1, keys.2.2.1, plain, keys.2.2.2,
    ⟨component, trivial⟩, trivial⟩

theorem dumpableItems_texts (texts : List Text) : Json.dumpableItems (texts.map .str) = true := by
  induction texts with
  | nil => rfl
  | cons text texts ih => rw [List.map_cons, Json.dumpableItems, ih]; rfl

theorem dumpable_envelopeDocument (evidence : Evidence) (digest : Text) :
    (envelopeDocument evidence digest).dumpable = true := by
  have version : (natText evidence.reportData.version).length ≤ 4300 := by
    have one : (natText 1).length ≤ 4300 ∧ (natText 2).length ≤ 4300 := by decide
    cases evidence.reportData with
    | v1 => exact one.1
    | v2 binding => exact one.2
  have optional : ∀ value, (Runtime.optionalBase64 value).dumpable = true := by
    intro value
    cases value <;> rfl
  have chain : Json.dumpableItems (evidence.certChain.map fun cert => .str (base64 cert)) =
      true := by
    have texts := dumpableItems_texts (evidence.certChain.map base64)
    rwa [List.map_map] at texts
  simp [envelopeDocument, Runtime.envelopeMembers, Runtime.componentMembers, Json.dumpable,
    Json.dumpableMembers, Json.dumpableItems, version, optional, chain]

/-- The strict reader reads the document of an envelope. -/
theorem strictJson_eq {p : Platform} {evidence : Evidence} {digest : Text}
    (hotkey : evidence.minerHotkey.NoSurrogate) (plain : digest.NoSurrogate) :
    strictJson p ((envelopeDocument evidence digest).sortKeys.render (compactStyle p)).ascii =
      .ok (Json.sortMembers (Json.sortKeysMembers
        (Runtime.envelopeMembers digest [.obj (Runtime.componentMembers evidence)]))) := by
  have readable := Json.readable_sortKeys (faithful_envelopeHooks p) (envelopeDocument evidence digest)
    (plain_envelopeDocument hotkey plain) (dumpable_envelopeDocument evidence digest)
  have separators : Text.IsPrintable [0x2c] ∧ Text.IsPrintable [0x3a] := by decide
  have printable : ((envelopeDocument evidence digest).sortKeys.render (compactStyle p)).IsPrintable :=
    printable_render separators.1 separators.2 _ readable
  have ascii : ((envelopeDocument evidence digest).sortKeys.render (compactStyle p)).IsAscii :=
    fun c member => by have := printable c member; omega
  have read : loads (envelopeHooks p) ((envelopeDocument evidence digest).sortKeys.render
      (compactStyle p)) = some (envelopeDocument evidence digest).sortKeys :=
    loads_render rfl rfl readable
  simp only [strictJson, bind_eq_ok, demand_eq_ok, require_eq_ok, pure_eq_ok,
    utf8Decode_ascii false ascii, Option.bind_some, read]
  refine ⟨_, rfl, _, rfl, (), ?_, rfl⟩
  rw [(Json.sortKeys_sortKeys _).1]

/-- The reader finds the recorded digest and the component in the envelope. -/
theorem envelopeComponent_eq {p : Platform} {evidence : Evidence} {digest published : Text}
    {envelope : Bytes} (hotkey : evidence.minerHotkey.NoSurrogate) (plain : digest.NoSurrogate)
    (written : envelope = ((envelopeDocument evidence digest).sortKeys.render (compactStyle p)).ascii)
    (small : envelope.length ≤ maxEnvelopeBytes)
    (same : Text.removeHead "sha256:" digest = Text.removeHead "sha256:" published) :
    envelopeComponent p envelope (sha256Digest envelope) published =
      .ok (digest, sortedComponent evidence) := by
  have distinct := distinct_envelopeMembers digest [.obj (Runtime.componentMembers evidence)]
  have document := strictJson_eq (p := p) hotkey plain
  rw [← written] at document
  set members := Json.sortMembers (Json.sortKeysMembers
    (Runtime.envelopeMembers digest [.obj (Runtime.componentMembers evidence)])) with listed
  have keys : hasExactly envelopeKeys members = true := by
    rw [listed, hasExactly_sortMembers]
    simp [hasExactly, envelopeKeys, Runtime.envelopeMembers]
  have lookedUp : ∀ {name : Text} {value : Json}, Json.lookup name
      (Runtime.envelopeMembers digest [.obj (Runtime.componentMembers evidence)]) = some value →
      Json.lookup name members = some value.sortKeys := Json.lookup_sortMembers distinct
  have schema : Json.lookup "schema" members =
      some (Json.str Runtime.retainedEvidenceSchema).sortKeys := lookedUp rfl
  have recorded : Json.lookup "evidence_digest" members = some (Json.str digest).sortKeys :=
    lookedUp rfl
  have components : Json.lookup "components" members =
      some (Json.arr [.obj (Runtime.componentMembers evidence)]).sortKeys := lookedUp rfl
  have sorted : (Json.arr [.obj (Runtime.componentMembers evidence)]).sortKeys =
      .arr [.obj (sortedComponent evidence)] := rfl
  rw [sorted] at components
  have componentKeys : hasExactly componentKeys (sortedComponent evidence) = true := by
    rw [sortedComponent, hasExactly_sortMembers]
    simp [hasExactly, componentKeys, Runtime.componentMembers]
  simp only [envelopeComponent, bind_eq_ok, require_eq_ok, demand_eq_ok, pure_eq_ok, document,
    Except.ok.injEq, exists_eq_left', schema, field, recorded, components, Option.getD_some,
    Json.sortKeys, textOfJson, itemsOfJson, Option.some.injEq]
  exact ⟨(), small, (), trivial, (), keys, (), Json.equalsText_iff.mpr rfl, (), same, _, rfl, _, rfl, (),
    componentKeys, rfl⟩

/-! ## Digests -/

theorem removeHead_append (head t : Text) : Text.removeHead head (head ++ t) = t := by
  rw [Text.removeHead, if_pos (List.isPrefixOf_iff_prefix.mpr (List.prefix_append _ _)),
    List.drop_left]

theorem noSurrogate_hexdigest (message : Bytes) : (hexdigest message).NoSurrogate := by
  have digest := (isAscii_sha256Digest message).noSurrogate
  exact (Text.noSurrogate_append.mp digest).2

/-- A digest does not start like its own label. -/
theorem removeHead_hexdigest (message : Bytes) :
    Text.removeHead "sha256:" (hexdigest message) = hexdigest message := by
  refine if_neg fun headed => ?_
  have digits : ∀ n : Fin 16, hexDigit n.val ≠ 0x73 := by decide
  obtain ⟨rest, same⟩ := List.isPrefixOf_iff_prefix.mp headed
  have first : (0x73 : CodePoint) ∈ hexdigest message := by
    rw [← same]
    exact List.mem_append_left _ (by decide)
  obtain ⟨octet, -, listed⟩ := List.mem_flatMap.mp first
  have bound := octet.toNat_lt
  rcases List.mem_cons.mp listed with high | low
  · exact digits ⟨octet.toNat / 16, by omega⟩ high.symm
  · exact digits ⟨octet.toNat % 16, by omega⟩ (List.mem_singleton.mp low).symm

/-- The digest published for evidence, with its label or without. -/
def Publishes (published digest : Text) : Prop :=
  published = digest ∨ published = Text.ofString "sha256:" ++ digest

theorem Publishes.removeHead {published : Text} {message : Bytes}
    (publishes : Publishes published (hexdigest message)) :
    Text.removeHead "sha256:" published = hexdigest message := by
  rcases publishes with rfl | rfl
  · exact removeHead_hexdigest message
  · exact removeHead_append _ _

/-! ## The round trip -/

theorem length_of_mapM {α β : Type} {f : α → Option β} {inputs : List α} {outputs : List β}
    (mapped : inputs.mapM f = some outputs) : outputs.length = inputs.length := by
  induction inputs generalizing outputs with
  | nil =>
    cases mapped
    rfl
  | cons input inputs ih =>
    simp only [List.mapM_cons, Option.bind_eq_bind, Option.bind_eq_some_iff, Option.pure_def,
      Option.some.injEq] at mapped
    obtain ⟨output, -, rest, others, rfl⟩ := mapped
    rw [List.length_cons, List.length_cons, ih others]

/-- What the remote path returns may be retained, if it is from a CPU and carries
no token. -/
theorem retainable_of_fetchEvidence {miner : Remote.RemoteMiner} {nonce : Bytes}
    {observed : Option ChannelBinding} {answer : Except Text (List (Text × Json))}
    {evidence : Evidence} (fetched : Remote.fetchEvidence miner nonce observed answer = .ok evidence)
    (kind : evidence.kind = .tdx) (jwt : evidence.compositeJwt = none) : Retainable evidence := by
  simp only [Remote.fetchEvidence, Remote.evidenceFromResponse, bind_eq_ok, require_eq_ok,
    demand_eq_ok, pure_eq_ok] at fetched
  obtain ⟨-, length, _, -, -, -, -, -, -, -, -, -, -, -, _, -, quote, quoted, chain, -, -, few,
    certChain, certified, _, -, _, -, rfl⟩ := fetched
  refine ⟨kind, jwt, ?_, length, miner.nonempty, ?_, rfl⟩
  · obtain ⟨-, bounded⟩ := Option.filter_eq_some_iff.mp quoted
    have short : quote.length ≤ 2 * maxQuoteBytes := (of_decide_eq_true bounded).2.2
    have half := length_hexBytes quote
    show (hexBytes quote).length ≤ maxQuoteBytes
    omega
  · show (certChain.map hexBytes).length ≤ maxCertChainEntries
    rw [List.length_map, length_of_mapM certified]
    exact few

/-- What the reader returns for an envelope that was retained, given the digests
published for it. -/
theorem parseEnvelope_eq_ok_iff {p : Platform} {evidence read : Evidence} {digest published : Text}
    {envelope : Bytes} {existing : Option Runtime.Blob} {id : Text}
    (retainable : Retainable evidence) (hashed : evidenceDigest evidence = .ok digest)
    (written : Runtime.retainedEvidenceEnvelope p [evidence] digest = .ok envelope)
    (retained : Runtime.retain existing envelope = .ok id) (publishes : Publishes published digest) :
    parseEnvelope p envelope id published = .ok read ↔ Replayable evidence ∧ read = evidence := by
  have digested := hashed
  simp only [evidenceDigest, bind_eq_ok, demand_eq_ok, pure_eq_ok] at digested
  obtain ⟨hotkey, encoded, _, -, rfl⟩ := digested
  simp only [Runtime.retainedEvidenceEnvelope, Runtime.retainedComponent, List.insertionSort_cons,
    List.insertionSort_nil, List.orderedInsert_nil, List.mapM_cons, List.mapM_nil, bind_eq_ok,
    require_eq_ok, pure_eq_ok] at written
  obtain ⟨_, ⟨_, ⟨-, -, -, -, rfl⟩, _, rfl, rfl⟩, written⟩ := written
  simp only [Runtime.retain, bind_eq_ok, require_eq_ok, pure_eq_ok] at retained
  obtain ⟨-, small, -, -, rfl⟩ := retained
  have component := envelopeComponent_eq (Text.noSurrogate_of_utf8 encoded)
    (noSurrogate_hexdigest _) written.symm (small.trans (by decide))
    ((removeHead_hexdigest _).trans publishes.removeHead.symm)
  simp only [parseEnvelope, component, bind_eq_ok, require_eq_ok, pure_eq_ok, Except.ok.injEq,
    exists_eq_left', evidenceOfComponent_eq_ok_iff retainable encoded]
  constructor
  · rintro ⟨_, ⟨replayable, rfl⟩, _, -, -, -, rfl⟩
    exact ⟨replayable, rfl⟩
  · rintro ⟨replayable, rfl⟩
    exact ⟨read, ⟨replayable, rfl⟩, _, hashed, (), (removeHead_hexdigest _).symm, rfl⟩

/-- **Retained envelopes.** The evidence of a CPU that a remote miner sends, and
that retention accepts, is reconstructed from its envelope and its published
digests exactly when no certificate is larger than the reader takes and the hotkey
is not longer. -/
theorem retained_envelope_reads_back_iff (p : Platform) (miner : Remote.RemoteMiner) (nonce : Bytes)
    (observed : Option ChannelBinding) (answer : Except Text (List (Text × Json)))
    (evidence : Evidence) (fetched : Remote.fetchEvidence miner nonce observed answer = .ok evidence)
    (digest : Text) (hashed : evidenceDigest evidence = .ok digest) (envelope : Bytes)
    (written : Runtime.retainedEvidenceEnvelope p [evidence] digest = .ok envelope)
    (existing : Option Runtime.Blob) (id : Text)
    (retained : Runtime.retain existing envelope = .ok id) (published : Text)
    (publishes : Publishes published digest) :
    parseEnvelope p envelope id published = .ok evidence ↔
      (∀ cert ∈ evidence.certChain, cert.length ≤ maxCertBytes) ∧
        ∀ octets ∈ evidence.minerHotkey.utf8, octets.length ≤ 512 := by
  have accepted : evidence.kind = .tdx ∧ evidence.compositeJwt = none := by
    simp only [Runtime.retainedEvidenceEnvelope, Runtime.retainedComponent,
      List.insertionSort_cons, List.insertionSort_nil, List.orderedInsert_nil, List.mapM_cons,
      List.mapM_nil, bind_eq_ok, require_eq_ok, pure_eq_ok] at written
    obtain ⟨_, ⟨_, ⟨-, kind, -, jwt, -⟩, -⟩, -⟩ := written
    exact ⟨kind, jwt⟩
  have retainable := retainable_of_fetchEvidence fetched accepted.1 accepted.2
  rw [parseEnvelope_eq_ok_iff retainable hashed written retained publishes]
  constructor
  · rintro ⟨⟨certificates, hotkey⟩, -⟩
    exact ⟨certificates, hotkey⟩
  · rintro ⟨certificates, hotkey⟩
    exact ⟨⟨certificates, hotkey⟩, rfl⟩

/-! ## Concrete evidence -/

/-- A miner with a short hotkey. -/
def shortMiner : Remote.RemoteMiner := ⟨"a", 1024, by decide, by decide⟩

/-- A miner whose hotkey has 129 characters, and 516 octets. -/
def longMiner : Remote.RemoteMiner :=
  ⟨List.replicate 129 0x10000, 4096, by decide, by rw [List.length_replicate]; decide⟩

theorem length_sampleKey : (List.replicate 32 (0 : UInt8)).length = 32 := List.length_replicate

/-- The channel the answers come through. -/
def sampleBinding : ChannelBinding := ⟨.tlsSpkiSha256, List.replicate 32 0, length_sampleKey⟩

/-- The answer of a miner that the transport delivers, with a quote of one octet and
two certificates of two. -/
def evidenceAnswer (miner : Remote.RemoteMiner) : Except Text (List (Text × Json)) :=
  .ok [("kind", .str "tdx"), ("quote_hex", .str "00"), ("nonce_hex", .str (List.replicate 64 0x30)),
    ("assigned_hotkey", .str miner.hotkey),
    ("cert_chain_hex", .arr [.str "0102", .str "0304"]), ("report_data_version", .int 2),
    ("channel_binding_type", .str "tls_spki_sha256"),
    ("channel_binding_digest_hex", .str (List.replicate 64 0x30))]

/-- The evidence of that answer. -/
def sampleEvidence (miner : Remote.RemoteMiner) : Evidence :=
  ⟨.tdx, [0], List.replicate 32 0, miner.hotkey, [[1, 2], [3, 4]], none, none, .v2 sampleBinding⟩

/-- The evidence is hashed, written and retained. -/
def retainsSample (miner : Remote.RemoteMiner) : Bool :=
  ((evidenceDigest (sampleEvidence miner)).bind fun digest =>
    (Runtime.retainedEvidenceEnvelope .sample [sampleEvidence miner] digest).bind fun envelope =>
      Runtime.retain none envelope).isOk

theorem exists_of_retainsSample {miner : Remote.RemoteMiner} (retains : retainsSample miner = true) :
    ∃ digest envelope id, evidenceDigest (sampleEvidence miner) = .ok digest ∧
      Runtime.retainedEvidenceEnvelope .sample [sampleEvidence miner] digest = .ok envelope ∧
      Runtime.retain none envelope = .ok id := by
  obtain ⟨id, outcome⟩ := exists_of_isOk retains
  obtain ⟨digest, hashed, outcome⟩ := bind_eq_ok.mp outcome
  obtain ⟨envelope, written, retained⟩ := bind_eq_ok.mp outcome
  exact ⟨digest, envelope, id, hashed, written, retained⟩

/-- The theorem applied to the evidence of the first miner, which is within the
bounds of the reader. -/
theorem retained_envelope_reads_back_short :
    ∃ digest envelope id, evidenceDigest (sampleEvidence shortMiner) = .ok digest ∧
      parseEnvelope .sample envelope id digest = .ok (sampleEvidence shortMiner) := by
  have retains : retainsSample shortMiner = true := by decide +kernel
  have fetched : Remote.fetchEvidence shortMiner (List.replicate 32 0) (some sampleBinding)
      (evidenceAnswer shortMiner) = .ok (sampleEvidence shortMiner) := by decide +kernel
  obtain ⟨digest, envelope, id, hashed, written, retained⟩ := exists_of_retainsSample retains
  refine ⟨digest, envelope, id, hashed, ?_⟩
  refine (retained_envelope_reads_back_iff .sample shortMiner (List.replicate 32 0)
    (some sampleBinding) (evidenceAnswer shortMiner) _ fetched digest hashed envelope written none
    id retained digest (.inl rfl)).mpr ⟨by decide, by decide⟩

/-- The evidence of the second miner is retained and then refused by the reader. -/
theorem not_retained_envelope_reads_back_long :
    ¬ ∀ (p : Platform) (miner : Remote.RemoteMiner) (nonce : Bytes)
      (observed : Option ChannelBinding) (answer : Except Text (List (Text × Json)))
      (evidence : Evidence), Remote.fetchEvidence miner nonce observed answer = .ok evidence →
      ∀ (digest : Text), evidenceDigest evidence = .ok digest → ∀ (envelope : Bytes),
      Runtime.retainedEvidenceEnvelope p [evidence] digest = .ok envelope →
      ∀ (existing : Option Runtime.Blob) (id : Text), Runtime.retain existing envelope = .ok id →
      ∀ (published : Text), Publishes published digest →
      parseEnvelope p envelope id published = .ok evidence := by
  intro claim
  have retains : retainsSample longMiner = true := by decide +kernel
  have fetched : Remote.fetchEvidence longMiner (List.replicate 32 0) (some sampleBinding)
      (evidenceAnswer longMiner) = .ok (sampleEvidence longMiner) := by decide +kernel
  obtain ⟨digest, envelope, id, hashed, written, retained⟩ := exists_of_retainsSample retains
  have read := claim .sample longMiner _ (some sampleBinding) _ _ fetched digest hashed envelope
    written none id retained digest (.inl rfl)
  have retainable := retainable_of_fetchEvidence fetched rfl rfl
  have replayable := ((parseEnvelope_eq_ok_iff retainable hashed written retained (.inl rfl)).mp
    read).1
  have long : longMiner.hotkey.utf8.map List.length = some 516 := by decide +kernel
  obtain ⟨octets, encoded, length⟩ := Option.map_eq_some_iff.mp long
  have bounded := replayable.hotkey octets encoded
  omega

end Cathedral.Provenance
