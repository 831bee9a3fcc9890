import CathedralCompute.Provider.Transcripts

/-!
# Records and their documents

A record reads a document exactly when the document holds the record's own document: the
same keys, and under each key what the record writes there. From this both round trips
follow for every record: what was written is read back, and what was read is written
again.

## Main results

* `fromDocument_eq_ok` of each record — what it reads
* `plain_toDocument` of each record — what it writes can be read
-/

set_option autoImplicit false

namespace Cathedral.Provider

open Codec Semantics

/-! ## Field readers -/

theorem textOfJson_eq_some {value : Json} {t : Text} :
    textOfJson value = some t ↔ value = .str t := by
  cases value <;> simp [textOfJson]

theorem intOfJson_eq_some {value : Json} {z : ℤ} : intOfJson value = some z ↔ value = .int z := by
  cases value <;> simp [intOfJson]

theorem membersOfJson_eq_some {value : Json} {members : List (Text × Json)} :
    membersOfJson value = some members ↔ value = .obj members := by
  cases value <;> simp [membersOfJson]

theorem itemsOfJson_eq_some {value : Json} {items : List Json} :
    itemsOfJson value = some items ↔ value = .arr items := by
  cases value <;> simp [itemsOfJson]

@[simp] theorem boundedText_eq_ok {value : Json} {label t : Text} {pattern : Text → Bool} :
    boundedText value label pattern = .ok t ↔ value = .str t ∧ pattern t = true := by
  simp only [boundedText, bind_eq_ok, demand_eq_ok, require_eq_ok, pure_eq_ok, textOfJson_eq_some]
  constructor
  · rintro ⟨_, rfl, _, fits, rfl⟩
    exact ⟨rfl, fits⟩
  · rintro ⟨rfl, fits⟩
    exact ⟨t, rfl, (), fits, rfl⟩

@[simp] theorem digestText_eq_ok {value : Json} {label t : Text} :
    digestText value label = .ok t ↔ value = .str t ∧ Text.isDigest "sha256:" t = true := by
  simp only [digestText, bind_eq_ok, demand_eq_ok, require_eq_ok, pure_eq_ok, textOfJson_eq_some]
  constructor
  · rintro ⟨_, rfl, _, fits, rfl⟩
    exact ⟨rfl, fits⟩
  · rintro ⟨rfl, fits⟩
    exact ⟨t, rfl, (), fits, rfl⟩

@[simp] theorem moneyMicros_eq_ok {value : Json} {label : Text} {z : ℤ} :
    moneyMicros value label = .ok z ↔ value = .int z ∧ 0 ≤ z ∧ z ≤ maxMoneyMicros := by
  simp only [moneyMicros, bind_eq_ok, demand_eq_ok, require_eq_ok, pure_eq_ok, intOfJson_eq_some]
  constructor
  · rintro ⟨_, rfl, _, fits, rfl⟩
    exact ⟨rfl, fits⟩
  · rintro ⟨rfl, fits⟩
    exact ⟨z, rfl, (), fits, rfl⟩

@[simp] theorem integerOf_eq_ok {value : Json} {label : Text} {z : ℤ} :
    integerOf value label = .ok z ↔ value = .int z := by
  rw [integerOf, demand_eq_ok, intOfJson_eq_some]

@[simp] theorem parseUtc_eq_ok {value : Json} {label : Text} {t : Utc} :
    parseUtc value label = .ok t ↔ value = .str (canonicalUtc t) := by
  simp only [parseUtc, bind_eq_ok, demand_eq_ok, require_eq_ok, pure_eq_ok, textOfJson_eq_some]
  constructor
  · rintro ⟨_, rfl, _, _, _, canonical, rfl⟩
    rw [canonical]
  · rintro rfl
    refine ⟨_, rfl, t, ?_, (), rfl, rfl⟩
    rw [canonicalUtc, Instant.parseUtc_canonicalUtc t.isLt, Option.bind_some, utcOfInstant,
      dif_pos t.isLt]

theorem enumValue_inj {α : Type} [Enumerated α] {a b : α} :
    Enumerated.value a = Enumerated.value b ↔ a = b :=
  ⟨Enumerated.injective a (Enumerated.complete a) b (Enumerated.complete b), congrArg _⟩

@[simp] theorem enumOf_eq_ok {α : Type} [Enumerated α] {value : Json} {label : Text} {a : α} :
    enumOf value label = .ok a ↔ value = .str (Enumerated.value a) := by
  rw [enumOf, demand_eq_ok, Option.bind_eq_some_iff]
  simp only [textOfJson_eq_some]
  constructor
  · rintro ⟨t, rfl, found⟩
    have same := List.find?_some found
    rw [of_decide_eq_true same]
  · rintro rfl
    refine ⟨_, rfl, ?_⟩
    cases found : (Enumerated.all : List α).find? fun b => Enumerated.value b = Enumerated.value a with
    | none =>
      have absent := List.find?_eq_none.mp found a (Enumerated.complete a)
      exact absurd (decide_eq_true rfl) absent
    | some b =>
      have same := List.find?_some found
      rw [enumValue_inj.mp (of_decide_eq_true same)]

/-- A reader of what a writer wrote, where that is something, reads optional values so
too. -/
theorem optionalOf_eq_ok {α : Type} {read : Json → Checked α} {write : α → Json}
    {valid : α → Prop} (reads : ∀ value a, read value = .ok a ↔ value = write a ∧ valid a)
    (something : ∀ a, write a ≠ .null) {value : Json} {o : Option α} :
    optionalOf read value = .ok o ↔ value = optionalJson write o ∧ ∀ a ∈ o, valid a := by
  by_cases none : value = .null
  · subst none
    cases o with
    | none => simp [optionalOf, optionalJson]
    | some a => simp [optionalOf, optionalJson, (something a).symm]
  · have present : optionalOf read value = (read value).map some := by
      cases value <;> first | rfl | exact absurd rfl none
    rw [present, map_eq_ok]
    simp only [reads]
    cases o with
    | none => simp [optionalJson, none]
    | some a => simp [optionalJson]

@[simp] theorem optionalOf_boundedText {value : Json} {label : Text} {pattern : Text → Bool}
    {o : Option Text} : optionalOf (boundedText · label pattern) value = .ok o ↔
      value = optionalJson .str o ∧ ∀ t ∈ o, pattern t = true :=
  @optionalOf_eq_ok _ _ _ (fun t => pattern t = true) (fun _ _ => boundedText_eq_ok)
    (fun _ => Json.noConfusion) _ _

@[simp] theorem optionalOf_digestText {value : Json} {label : Text} {o : Option Text} :
    optionalOf (digestText · label) value = .ok o ↔
      value = optionalJson .str o ∧ ∀ t ∈ o, Text.isDigest "sha256:" t = true :=
  optionalOf_eq_ok (fun _ _ => digestText_eq_ok) fun _ => Json.noConfusion

@[simp] theorem optionalOf_parseUtc {value : Json} {label : Text} {o : Option Utc} :
    optionalOf (parseUtc · label) value = .ok o ↔
      value = optionalJson (fun t => .str (canonicalUtc t)) o := by
  have read := @optionalOf_eq_ok _ (parseUtc · label) (fun t => .str (canonicalUtc t))
    (fun _ => True) (by simp) (fun _ => Json.noConfusion) value o
  simpa using read

@[simp] theorem optionalOf_enumOf {α : Type} [Enumerated α] {value : Json} {label : Text}
    {o : Option α} : optionalOf (enumOf · label) value = .ok o ↔
      value = optionalJson (fun a => .str (Enumerated.value a)) o := by
  have read := @optionalOf_eq_ok α (enumOf · label) (fun a => .str (Enumerated.value a))
    (fun _ => True) (by simp) (fun _ => Json.noConfusion) value o
  simpa using read

/-- What `requireKeys` finds. -/
theorem requireKeys_eq_ok {document : Json} {schema : Text} {keys : List Text} {label : Text}
    {members : List (Text × Json)} : requireKeys document schema keys label = .ok members ↔
      document = .obj members ∧ hasExactly keys members = true ∧
        field members "schema" = .str schema := by
  have schemaIs : Json.lookup "schema" members = some (.str schema) ↔
      field members "schema" = .str schema := by
    rw [field]
    cases Json.lookup "schema" members <;> simp
  simp only [requireKeys, bind_eq_ok, demand_eq_ok, require_eq_ok, pure_eq_ok,
    membersOfJson_eq_some, Json.equalsText_iff]
  constructor
  · rintro ⟨_, rfl, _, exact_, _, named, rfl⟩
    exact ⟨rfl, exact_, schemaIs.mp named⟩
  · rintro ⟨rfl, exact_, named⟩
    exact ⟨members, rfl, (), exact_, (), schemaIs.mpr named, rfl⟩

theorem heldBy_optionalJson {α : Type} {write : α → Json}
    (leaf : ∀ a document, (write a).HeldBy document ↔ document = write a) {o : Option α}
    {document : Json} : (optionalJson write o).HeldBy document ↔ document = optionalJson write o := by
  cases o with
  | none => exact Iff.rfl
  | some a => exact leaf a document

@[simp] theorem heldBy_optionalText {o : Option Text} {document : Json} :
    (optionalJson .str o).HeldBy document ↔ document = optionalJson .str o :=
  heldBy_optionalJson fun _ _ => Iff.rfl

/-! ## Providers -/

theorem ProviderIdentityFields.check_eq_ok {self : ProviderIdentityFields} :
    self.check = .ok () ↔ isId self.providerId = true ∧ self.hotkeyFits = true := by
  simp [check, -bind_pure_comp]

theorem ProviderIdentity.fromDocument_eq_ok {document : Json} {provider : ProviderIdentity} :
    fromDocument document = .ok provider ↔ provider.toDocument.HeldBy document := by
  have hotkeys (kind : ProviderIdentityKind) (value : Json) (o : Option Text) :
      optionalOf (fun value => demand kind.hotkeyError (textOfJson value)) value = .ok o ↔
        value = optionalJson .str o := by
    have read := @optionalOf_eq_ok _ (fun value => demand kind.hotkeyError (textOfJson value))
      Json.str (fun _ => True) (by simp [textOfJson_eq_some]) (fun _ => Json.noConfusion) value o
    simpa using read
  simp only [fromDocument, bind_eq_ok, requireKeys_eq_ok, boundedText_eq_ok, enumOf_eq_ok,
    hotkeys, build_eq_ok]
  constructor
  · rintro ⟨found, ⟨rfl, keys, schema⟩, _, kind, _, ⟨providerId, -⟩, _, hotkey, valid, rfl⟩
    exact ⟨found, rfl, keys, schema, kind, providerId, heldBy_optionalText.mpr hotkey, trivial⟩
  · rintro ⟨found, rfl, keys, schema, kind, providerId, hotkey, -⟩
    have valid := ProviderIdentityFields.check_eq_ok.mp provider.valid
    exact ⟨found, ⟨rfl, keys, schema⟩, _, kind, _, ⟨providerId, valid.1⟩, _,
      heldBy_optionalText.mp hotkey, provider.valid, rfl⟩

/-! ## Assignments and permits -/

theorem AttemptAssignmentFields.check_eq_ok {self : AttemptAssignmentFields} :
    self.check = .ok () ↔ isId self.attemptId = true ∧ isId self.slotId = true ∧
      isNonce self.providerNonce = true ∧
      Text.isDigest "sha256:" self.workloadManifestDigest = true ∧
      Text.isDigest "sha256:" self.policyDigest = true ∧
      Text.isDigest "sha256:" self.imageDigest = true := by
  simp [check, -bind_pure_comp]

theorem AttemptAssignment.fromDocument_eq_ok {document : Json} {assignment : AttemptAssignment} :
    fromDocument document = .ok assignment ↔ assignment.toDocument.HeldBy document := by
  simp only [fromDocument, bind_eq_ok, requireKeys_eq_ok, boundedText_eq_ok, digestText_eq_ok,
    ProviderIdentity.fromDocument_eq_ok, build_eq_ok]
  constructor
  · rintro ⟨found, ⟨rfl, keys, schema⟩, _, ⟨attemptId, -⟩, _, provider, _, ⟨slotId, -⟩, _, ⟨nonce, -⟩,
      _, ⟨manifest, -⟩, _, ⟨policy, -⟩, _, ⟨image, -⟩, valid, rfl⟩
    exact ⟨found, rfl, keys, schema, attemptId, provider, slotId, nonce, manifest, policy, image,
      trivial⟩
  · rintro ⟨found, rfl, keys, schema, attemptId, provider, slotId, nonce, manifest, policy, image, -⟩
    have valid := AttemptAssignmentFields.check_eq_ok.mp assignment.valid
    obtain ⟨isAttempt, isSlot, isNonce, isManifest, isPolicy, isImage⟩ := valid
    exact ⟨found, ⟨rfl, keys, schema⟩, _, ⟨attemptId, isAttempt⟩, _, provider, _,
      ⟨slotId, isSlot⟩, _, ⟨nonce, isNonce⟩, _, ⟨manifest, isManifest⟩, _, ⟨policy, isPolicy⟩, _,
      ⟨image, isImage⟩, assignment.valid, rfl⟩

theorem AssignmentPermitFields.check_eq_ok {self : AssignmentPermitFields} :
    self.check = .ok () ↔ Text.isDigest "sha256:" self.assignmentDigest = true ∧
      1 ≤ self.sequence ∧ self.issuedAt < self.expiresAt ∧ isId self.keyId = true ∧
      Text.isDigest "sha256:" self.authorizationDigest = true := by
  simp [check, -bind_pure_comp, Unique.exists_iff]

theorem AssignmentPermit.fromDocument_eq_ok {document : Json} {permit : AssignmentPermit} :
    fromDocument document = .ok permit ↔ permit.toDocument.HeldBy document := by
  simp only [fromDocument, bind_eq_ok, requireKeys_eq_ok, boundedText_eq_ok, digestText_eq_ok,
    integerOf_eq_ok, parseUtc_eq_ok, build_eq_ok]
  constructor
  · rintro ⟨found, ⟨rfl, keys, schema⟩, _, sequence, _, ⟨assigned, -⟩, _, issuedAt, _, expiresAt, _,
      ⟨keyId, -⟩, _, ⟨authorization, -⟩, valid, rfl⟩
    exact ⟨found, rfl, keys, schema, assigned, sequence, issuedAt, expiresAt, keyId, authorization,
      trivial⟩
  · rintro ⟨found, rfl, keys, schema, assigned, sequence, issuedAt, expiresAt, keyId,
      authorization, -⟩
    obtain ⟨isAssigned, -, -, isKey, isAuthorization⟩ :=
      AssignmentPermitFields.check_eq_ok.mp permit.valid
    exact ⟨found, ⟨rfl, keys, schema⟩, _, sequence, _, ⟨assigned, isAssigned⟩, _, issuedAt, _,
      expiresAt, _, ⟨keyId, isKey⟩, _, ⟨authorization, isAuthorization⟩, permit.valid, rfl⟩

theorem checkRetryParent_eq_ok {self : AssignmentLedgerBindingFields} :
    checkRetryParent self = .ok () ↔ (self.retryParentAttemptId = none ↔ self.attemptNumber = 1) ∧
      ∀ parent ∈ self.retryParentAttemptId, isId parent = true ∧ parent ≠ self.attemptId := by
  unfold checkRetryParent
  split
  case h_1 first => simp [first]
  case h_2 parent retried => simp [retried]

theorem AssignmentLedgerBindingFields.check_eq_ok {self : AssignmentLedgerBindingFields} :
    self.check = .ok () ↔ isId self.bindingId = true ∧ isId self.customerId = true ∧
      isId self.workerId = true ∧ isId self.attemptId = true ∧ isId self.reservationId = true ∧
      Text.isDigest "sha256:" self.assignmentDigest = true ∧
      Text.isDigest "sha256:" self.requestDigest = true ∧ 1 ≤ self.attemptNumber ∧
      checkRetryParent self = .ok () ∧ 0 ≤ self.reservedMicros ∧
      self.reservedMicros ≤ maxMoneyMicros := by
  simp [check, -bind_pure_comp, Unique.exists_iff]

theorem AssignmentLedgerBinding.fromDocument_eq_ok {document : Json}
    {binding : AssignmentLedgerBinding} :
    fromDocument document = .ok binding ↔ binding.toDocument.HeldBy document := by
  simp only [fromDocument, bind_eq_ok, requireKeys_eq_ok, boundedText_eq_ok, digestText_eq_ok,
    integerOf_eq_ok, moneyMicros_eq_ok, parseUtc_eq_ok, optionalOf_boundedText, build_eq_ok]
  constructor
  · rintro ⟨found, ⟨rfl, keys, schema⟩, _, number, _, ⟨parent, -⟩, _, ⟨bindingId, -⟩, _,
      ⟨assigned, -⟩, _, ⟨customer, -⟩, _, ⟨worker, -⟩, _, ⟨attempt, -⟩, _, ⟨reservation, -⟩, _,
      ⟨request, -⟩, _, ⟨micros, -⟩, _, createdAt, valid, rfl⟩
    exact ⟨found, rfl, keys, schema, bindingId, assigned, customer, worker, attempt, number,
      heldBy_optionalText.mpr parent, reservation, request, micros, createdAt, trivial⟩
  · rintro ⟨found, rfl, keys, schema, bindingId, assigned, customer, worker, attempt, number,
      parent, reservation, request, micros, createdAt, -⟩
    obtain ⟨isBinding, isCustomer, isWorker, isAttempt, isReservation, isAssigned, isRequest, -,
      retry, isMicros⟩ := AssignmentLedgerBindingFields.check_eq_ok.mp binding.valid
    have isParent := (checkRetryParent_eq_ok.mp retry).2
    exact ⟨found, ⟨rfl, keys, schema⟩, _, number, _,
      ⟨heldBy_optionalText.mp parent, fun t present => (isParent t present).1⟩, _,
      ⟨bindingId, isBinding⟩, _, ⟨assigned, isAssigned⟩, _, ⟨customer, isCustomer⟩, _,
      ⟨worker, isWorker⟩, _, ⟨attempt, isAttempt⟩, _, ⟨reservation, isReservation⟩, _,
      ⟨request, isRequest⟩, _, ⟨micros, isMicros⟩, _, createdAt, binding.valid, rfl⟩

/-! ## What happens to an attempt -/

theorem InterruptionOutcomeFields.check_eq_ok {self : InterruptionOutcomeFields} :
    self.check = .ok () ↔ isId self.attemptId = true ∧
      Text.isDigest "sha256:" self.assignmentDigest = true ∧ isId self.slotId = true ∧
      Text.isDigest "sha256:" self.sourceEventDigest = true := by
  simp [check, -bind_pure_comp]

theorem InterruptionOutcome.fromDocument_eq_ok {document : Json}
    {interruption : InterruptionOutcome} :
    fromDocument document = .ok interruption ↔ interruption.toDocument.HeldBy document := by
  simp only [fromDocument, bind_eq_ok, requireKeys_eq_ok, boundedText_eq_ok, digestText_eq_ok,
    ProviderIdentity.fromDocument_eq_ok, enumOf_eq_ok, parseUtc_eq_ok, build_eq_ok]
  constructor
  · rintro ⟨found, ⟨rfl, keys, schema⟩, _, ⟨attempt, -⟩, _, ⟨assigned, -⟩, _, provider, _,
      ⟨slot, -⟩, _, kind, _, ⟨source, -⟩, _, observedAt, valid, rfl⟩
    exact ⟨found, rfl, keys, schema, attempt, assigned, provider, slot, kind, source, observedAt,
      trivial⟩
  · rintro ⟨found, rfl, keys, schema, attempt, assigned, provider, slot, kind, source,
      observedAt, -⟩
    obtain ⟨isAttempt, isAssigned, isSlot, isSource⟩ :=
      InterruptionOutcomeFields.check_eq_ok.mp interruption.valid
    exact ⟨found, ⟨rfl, keys, schema⟩, _, ⟨attempt, isAttempt⟩, _, ⟨assigned, isAssigned⟩, _,
      provider, _, ⟨slot, isSlot⟩, _, kind, _, ⟨source, isSource⟩, _, observedAt,
      interruption.valid, rfl⟩

theorem checkOptional_eq_ok {α : Type} {check : α → Checked Unit} {o : Option α} :
    checkOptional check o = .ok () ↔ ∀ a ∈ o, check a = .ok () := by
  cases o <;> simp [checkOptional]

@[simp] theorem checkOptional_digestText {label : Text} {o : Option Text} :
    checkOptional (fun digest => (digestText (.str digest) label).map fun _ => ()) o = .ok () ↔
      ∀ digest ∈ o, Text.isDigest "sha256:" digest = true := by
  rw [checkOptional_eq_ok]
  simp

theorem CleanupOutcomeFields.check_eq_ok {self : CleanupOutcomeFields} :
    self.check = .ok () ↔ isId self.attemptId = true ∧
      Text.isDigest "sha256:" self.assignmentDigest = true ∧ isId self.slotId = true ∧
      self.requestedAt ≤ self.observedAt ∧
      (self.absenceStatus = .notProven ∨ self.observationDigest ≠ none) ∧
      (∀ digest ∈ self.observationDigest, Text.isDigest "sha256:" digest = true) ∧
      ∀ deadline ∈ self.customerCleanupDeadlineAt, self.requestedAt ≤ deadline := by
  simp [check, Unique.exists_iff, checkOptional_eq_ok]

theorem heldBy_optionalUtc {o : Option Utc} {document : Json} :
    (optionalJson (fun t => .str (canonicalUtc t)) o).HeldBy document ↔
      document = optionalJson (fun t => .str (canonicalUtc t)) o :=
  heldBy_optionalJson fun _ _ => Iff.rfl

theorem CleanupOutcome.fromDocument_eq_ok {document : Json} {cleanup : CleanupOutcome} :
    fromDocument document = .ok cleanup ↔ cleanup.toDocument.HeldBy document := by
  simp only [fromDocument, bind_eq_ok, requireKeys_eq_ok, boundedText_eq_ok, digestText_eq_ok,
    ProviderIdentity.fromDocument_eq_ok, enumOf_eq_ok, parseUtc_eq_ok, optionalOf_digestText,
    optionalOf_parseUtc, build_eq_ok]
  constructor
  · rintro ⟨found, ⟨rfl, keys, schema⟩, _, ⟨observation, -⟩, _, deadline, _, ⟨attempt, -⟩, _,
      ⟨assigned, -⟩, _, provider, _, ⟨slot, -⟩, _, path, _, absence, _, requestedAt, _, observedAt,
      valid, rfl⟩
    exact ⟨found, rfl, keys, schema, attempt, assigned, provider, slot, path, absence, requestedAt,
      observedAt, heldBy_optionalText.mpr observation, heldBy_optionalUtc.mpr deadline, trivial⟩
  · rintro ⟨found, rfl, keys, schema, attempt, assigned, provider, slot, path, absence,
      requestedAt, observedAt, observation, deadline, -⟩
    obtain ⟨isAttempt, isAssigned, isSlot, -, -, isObservation, -⟩ :=
      CleanupOutcomeFields.check_eq_ok.mp cleanup.valid
    exact ⟨found, ⟨rfl, keys, schema⟩, _, ⟨heldBy_optionalText.mp observation, isObservation⟩, _,
      heldBy_optionalUtc.mp deadline, _, ⟨attempt, isAttempt⟩, _, ⟨assigned, isAssigned⟩, _,
      provider, _, ⟨slot, isSlot⟩, _, path, _, absence, _, requestedAt, _, observedAt,
      cleanup.valid, rfl⟩

theorem AttemptResultFields.check_eq_ok {self : AttemptResultFields} :
    self.check = .ok () ↔ isId self.attemptId = true ∧
      Text.isDigest "sha256:" self.assignmentDigest = true ∧
      Text.isDigest "sha256:" self.quoteDigest = true ∧ isNonce self.attestedNonce = true ∧
      Text.isDigest "sha256:" self.measurementDigest = true ∧
      Text.isDigest "sha256:" self.resultPayloadDigest = true ∧
      self.producedAt ≤ self.receivedAt := by
  simp [check]

theorem AttemptResult.fromDocument_eq_ok {document : Json} {result : AttemptResult} :
    fromDocument document = .ok result ↔ result.toDocument.HeldBy document := by
  simp only [fromDocument, bind_eq_ok, requireKeys_eq_ok, boundedText_eq_ok, digestText_eq_ok,
    parseUtc_eq_ok, build_eq_ok]
  constructor
  · rintro ⟨found, ⟨rfl, keys, schema⟩, _, ⟨attempt, -⟩, _, ⟨assigned, -⟩, _, ⟨quote, -⟩, _,
      ⟨nonce, -⟩, _, ⟨measurement, -⟩, _, ⟨payload, -⟩, _, producedAt, _, receivedAt, valid, rfl⟩
    exact ⟨found, rfl, keys, schema, attempt, assigned, quote, nonce, measurement, payload,
      producedAt, receivedAt, trivial⟩
  · rintro ⟨found, rfl, keys, schema, attempt, assigned, quote, nonce, measurement, payload,
      producedAt, receivedAt, -⟩
    obtain ⟨isAttempt, isAssigned, isQuote, isNonce, isMeasurement, isPayload, -⟩ :=
      AttemptResultFields.check_eq_ok.mp result.valid
    exact ⟨found, ⟨rfl, keys, schema⟩, _, ⟨attempt, isAttempt⟩, _, ⟨assigned, isAssigned⟩, _,
      ⟨quote, isQuote⟩, _, ⟨nonce, isNonce⟩, _, ⟨measurement, isMeasurement⟩, _,
      ⟨payload, isPayload⟩, _, producedAt, _, receivedAt, result.valid, rfl⟩

theorem checkTerminal_eq_ok {self : AttemptTransitionEventFields} :
    checkTerminal self = .ok () ↔
      (self.cleanupOutcomeDigest ≠ none ↔ self.target ∈ AttemptState.terminal) ∧
      (self.terminalBasis ≠ none ↔ self.target ∈ AttemptState.terminal) ∧
      ∀ digest ∈ self.cleanupOutcomeDigest, Text.isDigest "sha256:" digest = true := by
  unfold checkTerminal
  split
  case isTrue terminal => simp [terminal, Unique.exists_iff, and_assoc]
  case isFalse ongoing =>
    simp only [require_eq_ok, ongoing, iff_false, ne_eq, not_not]
    constructor
    · rintro ⟨none, unfounded⟩
      exact ⟨none, unfounded, by simp [none]⟩
    · rintro ⟨none, unfounded, -⟩
      exact ⟨none, unfounded⟩

theorem AttemptTransitionEventFields.check_eq_ok {self : AttemptTransitionEventFields} :
    self.check = .ok () ↔ isId self.eventId = true ∧ isId self.attemptId = true ∧
      Text.isDigest "sha256:" self.assignmentDigest = true ∧
      self.target ∈ self.current.allowed ∧ Text.isDigest "sha256:" self.detailDigest = true ∧
      checkTerminal self = .ok () := by
  simp [check, requireAttemptTransition]

theorem heldBy_optionalEnum {α : Type} [Enumerated α] {o : Option α} {document : Json} :
    (optionalJson (fun a => .str (Enumerated.value a)) o).HeldBy document ↔
      document = optionalJson (fun a => .str (Enumerated.value a)) o :=
  heldBy_optionalJson fun _ _ => Iff.rfl

theorem AttemptTransitionEvent.fromDocument_eq_ok {document : Json}
    {event : AttemptTransitionEvent} :
    fromDocument document = .ok event ↔ event.toDocument.HeldBy document := by
  simp only [fromDocument, bind_eq_ok, requireKeys_eq_ok, boundedText_eq_ok, digestText_eq_ok,
    enumOf_eq_ok, parseUtc_eq_ok, optionalOf_digestText, optionalOf_enumOf, build_eq_ok]
  constructor
  · rintro ⟨found, ⟨rfl, keys, schema⟩, _, ⟨cleanup, -⟩, _, basis, _, ⟨eventId, -⟩, _,
      ⟨attempt, -⟩, _, ⟨assigned, -⟩, _, current, _, target, _, occurredAt, _, ⟨detail, -⟩, valid,
      rfl⟩
    exact ⟨found, rfl, keys, schema, eventId, attempt, assigned, current, target, occurredAt,
      detail, heldBy_optionalText.mpr cleanup, heldBy_optionalEnum.mpr basis, trivial⟩
  · rintro ⟨found, rfl, keys, schema, eventId, attempt, assigned, current, target, occurredAt,
      detail, cleanup, basis, -⟩
    obtain ⟨isEvent, isAttempt, isAssigned, -, isDetail, terminal⟩ :=
      AttemptTransitionEventFields.check_eq_ok.mp event.valid
    have isCleanup := (checkTerminal_eq_ok.mp terminal).2.2
    exact ⟨found, ⟨rfl, keys, schema⟩, _, ⟨heldBy_optionalText.mp cleanup, isCleanup⟩, _,
      heldBy_optionalEnum.mp basis, _, ⟨eventId, isEvent⟩, _, ⟨attempt, isAttempt⟩, _,
      ⟨assigned, isAssigned⟩, _, current, _, target, _, occurredAt, _, ⟨detail, isDetail⟩,
      event.valid, rfl⟩

/-! ## Reservations and settlements -/

theorem CustomerCapReservationFields.check_eq_ok {self : CustomerCapReservationFields} :
    self.check = .ok () ↔ isId self.customerId = true ∧ isId self.workerId = true ∧
      isId self.reservationId = true ∧ Text.isDigest "sha256:" self.requestDigest = true ∧
      (0 ≤ self.reservedMicros ∧ self.reservedMicros ≤ maxMoneyMicros) ∧
      self.reservedAt < self.expiresAt := by
  simp [check]

theorem CustomerCapReservation.fromDocument_eq_ok {document : Json}
    {reservation : CustomerCapReservation} :
    fromDocument document = .ok reservation ↔ reservation.toDocument.HeldBy document := by
  simp only [fromDocument, bind_eq_ok, requireKeys_eq_ok, boundedText_eq_ok, digestText_eq_ok,
    moneyMicros_eq_ok, parseUtc_eq_ok, build_eq_ok]
  constructor
  · rintro ⟨found, ⟨rfl, keys, schema⟩, _, ⟨customer, -⟩, _, ⟨worker, -⟩, _, ⟨reserved, -⟩, _,
      ⟨request, -⟩, _, ⟨micros, -⟩, _, reservedAt, _, expiresAt, valid, rfl⟩
    exact ⟨found, rfl, keys, schema, customer, worker, reserved, request, micros, reservedAt,
      expiresAt, trivial⟩
  · rintro ⟨found, rfl, keys, schema, customer, worker, reserved, request, micros, reservedAt,
      expiresAt, -⟩
    obtain ⟨isCustomer, isWorker, isReserved, isRequest, isMicros, -⟩ :=
      CustomerCapReservationFields.check_eq_ok.mp reservation.valid
    exact ⟨found, ⟨rfl, keys, schema⟩, _, ⟨customer, isCustomer⟩, _, ⟨worker, isWorker⟩, _,
      ⟨reserved, isReserved⟩, _, ⟨request, isRequest⟩, _, ⟨micros, isMicros⟩, _, reservedAt, _,
      expiresAt, reservation.valid, rfl⟩

theorem UnassignedDispatchOutcomeFields.check_eq_ok {self : UnassignedDispatchOutcomeFields} :
    self.check = .ok () ↔ isId self.outcomeId = true ∧ isId self.workerId = true ∧
      Text.isDigest "sha256:" self.requestDigest = true ∧
      Text.isDigest "sha256:" self.routingDecisionDigest = true := by
  simp [check, -bind_pure_comp]

theorem UnassignedDispatchOutcome.fromDocument_eq_ok {document : Json}
    {outcome : UnassignedDispatchOutcome} :
    fromDocument document = .ok outcome ↔ outcome.toDocument.HeldBy document := by
  simp only [fromDocument, bind_eq_ok, requireKeys_eq_ok, boundedText_eq_ok, digestText_eq_ok,
    enumOf_eq_ok, parseUtc_eq_ok, build_eq_ok]
  constructor
  · rintro ⟨found, ⟨rfl, keys, schema⟩, _, ⟨outcomeId, -⟩, _, ⟨worker, -⟩, _, ⟨request, -⟩, _,
      reason, _, ⟨routing, -⟩, _, observedAt, valid, rfl⟩
    exact ⟨found, rfl, keys, schema, outcomeId, worker, request, reason, routing, observedAt,
      trivial⟩
  · rintro ⟨found, rfl, keys, schema, outcomeId, worker, request, reason, routing, observedAt, -⟩
    obtain ⟨isOutcome, isWorker, isRequest, isRouting⟩ :=
      UnassignedDispatchOutcomeFields.check_eq_ok.mp outcome.valid
    exact ⟨found, ⟨rfl, keys, schema⟩, _, ⟨outcomeId, isOutcome⟩, _, ⟨worker, isWorker⟩, _,
      ⟨request, isRequest⟩, _, reason, _, ⟨routing, isRouting⟩, _, observedAt, outcome.valid, rfl⟩

theorem checkSupersedes_eq_ok {self : WorkerSettlementDecisionFields} :
    checkSupersedes self = .ok () ↔ (self.supersedesDigest = none ↔ self.sequence = 1) ∧
      ∀ digest ∈ self.supersedesDigest, Text.isDigest "sha256:" digest = true := by
  unfold checkSupersedes
  split
  case isTrue first =>
    simp only [require_eq_ok, first, iff_true]
    exact ⟨fun none => ⟨none, by simp [none]⟩, And.left⟩
  case isFalse later => simp [later, Unique.exists_iff]

theorem checkAction_eq_ok {self : WorkerSettlementDecisionFields} :
    checkAction self = .ok () ↔
      (self.action = .charged → self.sequence = 1 ∧ 0 < self.chargedMicros) ∧
      (self.action ≠ .charged → self.chargedMicros = 0) ∧
      (self.winningAttemptId ≠ none ↔ self.action = .charged) ∧
      ∀ winner ∈ self.winningAttemptId, isId winner = true := by
  unfold checkAction
  split
  case isTrue charged =>
    cases winner : self.winningAttemptId <;> simp [charged, -bind_pure_comp, and_assoc]
  case isFalse other =>
    cases winner : self.winningAttemptId <;> simp [other]

theorem WorkerSettlementDecisionFields.check_eq_ok {self : WorkerSettlementDecisionFields} :
    self.check = .ok () ↔ isId self.decisionId = true ∧ isId self.customerId = true ∧
      isId self.workerId = true ∧ isId self.reservationId = true ∧
      (self.sequence = 1 ∨ self.sequence = 2) ∧ checkSupersedes self = .ok () ∧
      (0 ≤ self.reservedMicros ∧ self.reservedMicros ≤ maxMoneyMicros) ∧
      (0 ≤ self.chargedMicros ∧ self.chargedMicros ≤ maxMoneyMicros) ∧
      self.chargedMicros ≤ self.reservedMicros ∧
      Text.isDigest "sha256:" self.workerOutcomeDigest = true ∧ checkAction self = .ok () ∧
      (self.sequence = 2 → self.action = .released) := by
  simp [check, Unique.exists_iff]

theorem WorkerSettlementDecision.fromDocument_eq_ok {document : Json}
    {decision : WorkerSettlementDecision} :
    fromDocument document = .ok decision ↔ decision.toDocument.HeldBy document := by
  simp only [fromDocument, bind_eq_ok, requireKeys_eq_ok, boundedText_eq_ok, digestText_eq_ok,
    integerOf_eq_ok, moneyMicros_eq_ok, enumOf_eq_ok, parseUtc_eq_ok, optionalOf_digestText,
    optionalOf_boundedText, build_eq_ok]
  constructor
  · rintro ⟨found, ⟨rfl, keys, schema⟩, _, sequence, _, ⟨superseded, -⟩, _, ⟨winner, -⟩, _,
      ⟨decisionId, -⟩, _, ⟨customer, -⟩, _, ⟨worker, -⟩, _, ⟨reservation, -⟩, _, ⟨reserved, -⟩, _,
      ⟨charged, -⟩, _, action, _, ⟨outcome, -⟩, _, decidedAt, valid, rfl⟩
    exact ⟨found, rfl, keys, schema, decisionId, sequence, heldBy_optionalText.mpr superseded,
      customer, worker, reservation, reserved, charged, action, heldBy_optionalText.mpr winner,
      outcome, decidedAt, trivial⟩
  · rintro ⟨found, rfl, keys, schema, decisionId, sequence, superseded, customer, worker,
      reservation, reserved, charged, action, winner, outcome, decidedAt, -⟩
    obtain ⟨isDecision, isCustomer, isWorker, isReservation, -, supersedes, isReserved, isCharged,
      -, isOutcome, acted, -⟩ := WorkerSettlementDecisionFields.check_eq_ok.mp decision.valid
    have isSuperseded := (checkSupersedes_eq_ok.mp supersedes).2
    have isWinner := (checkAction_eq_ok.mp acted).2.2.2
    exact ⟨found, ⟨rfl, keys, schema⟩, _, sequence, _,
      ⟨heldBy_optionalText.mp superseded, isSuperseded⟩, _,
      ⟨heldBy_optionalText.mp winner, isWinner⟩, _, ⟨decisionId, isDecision⟩, _,
      ⟨customer, isCustomer⟩, _, ⟨worker, isWorker⟩, _, ⟨reservation, isReservation⟩, _,
      ⟨reserved, isReserved⟩, _, ⟨charged, isCharged⟩, _, action, _, ⟨outcome, isOutcome⟩, _,
      decidedAt, decision.valid, rfl⟩

/-! ## Transcripts -/

/-- Optional records are read as records are. -/
theorem optionalOf_record {α : Type} {read : Json → Checked α} {write : α → List (Text × Json)}
    (reads : ∀ value a, read value = .ok a ↔ (Json.obj (write a)).HeldBy value) {value : Json}
    {o : Option α} : optionalOf read value = .ok o ↔
      (optionalJson (fun a => .obj (write a)) o).HeldBy value := by
  by_cases none : value = .null
  · subst none
    cases o with
    | none => exact ⟨fun _ => rfl, fun _ => rfl⟩
    | some a => exact ⟨fun wrong => (nomatch wrong), fun ⟨_, wrong, _⟩ => (nomatch wrong)⟩
  · have present : optionalOf read value = (read value).map some := by
      cases value <;> first | rfl | exact absurd rfl none
    rw [present, map_eq_ok]
    simp only [reads]
    cases o with
    | none => exact ⟨fun ⟨_, _, wrong⟩ => (nomatch wrong), fun null => absurd null none⟩
    | some a => simp [optionalJson]

/-- Lists of records are read as records are. -/
theorem mapM_records {α : Type} {read : Json → Checked α} {write : α → Json}
    (reads : ∀ value a, read value = .ok a ↔ (write a).HeldBy value) {found : List Json}
    {as : List α} : found.mapM read = .ok as ↔ Json.HeldByItems (as.map write) found := by
  induction found generalizing as with
  | nil => cases as <;> simp [Json.HeldByItems, pure_eq_ok]
  | cons first rest ih =>
    simp only [List.mapM_cons, bind_eq_ok, pure_eq_ok, reads, ih]
    cases as <;> simp [Json.HeldByItems]

theorem length_of_heldByItems {items found : List Json} (held : Json.HeldByItems items found) :
    found.length = items.length :=
  (Json.heldByItems_iff.mp held).length_eq.symm

namespace ProviderAttemptTranscript

theorem membersWith_eq_ok {document : Json} {schema : Text} {keys : List Text} {error : Text}
    {members : List (Text × Json)} : membersWith document schema keys error = .ok members ↔
      document = .obj members ∧ hasExactly keys members = true ∧
        field members "schema" = .str schema := by
  have schemaIs : Json.lookup "schema" members = some (.str schema) ↔
      field members "schema" = .str schema := by
    rw [field]
    cases Json.lookup "schema" members <;> simp
  simp only [membersWith, bind_eq_ok, demand_eq_ok, require_eq_ok, pure_eq_ok,
    membersOfJson_eq_some, Json.equalsText_iff]
  constructor
  · rintro ⟨_, rfl, _, ⟨keys, named⟩, rfl⟩
    exact ⟨rfl, keys, schemaIs.mp named⟩
  · rintro ⟨rfl, keys, named⟩
    exact ⟨members, rfl, (), ⟨keys, schemaIs.mpr named⟩, rfl⟩

theorem fromDocument_eq_ok {document : Json} {transcript : ProviderAttemptTranscript} :
    fromDocument document = .ok transcript ↔
      (∃ state, transcript.validate = .ok state) ∧ (Json.obj transcript.members).HeldBy document := by
  simp only [fromDocument, bind_eq_ok, demand_eq_ok, require_eq_ok, pure_eq_ok, membersWith_eq_ok,
    itemsOfJson_eq_some, AttemptAssignment.fromDocument_eq_ok, CleanupOutcome.fromDocument_eq_ok,
    mapM_records fun _ _ => AssignmentPermit.fromDocument_eq_ok,
    mapM_records fun _ _ => AttemptTransitionEvent.fromDocument_eq_ok,
    optionalOf_record fun _ _ => InterruptionOutcome.fromDocument_eq_ok,
    optionalOf_record fun _ _ => AttemptResult.fromDocument_eq_ok]
  constructor
  · rintro ⟨found, ⟨rfl, keys, schema⟩, rawPermits, permitsIs, rawEvents, eventsIs, _, -, _,
      assignment, _, permits, _, events, _, cleanup, _, interruption, _, result, state, valid, rfl⟩
    exact ⟨⟨state, valid⟩, found, rfl, keys, schema, assignment, ⟨rawPermits, permitsIs, permits⟩,
      ⟨rawEvents, eventsIs, events⟩, cleanup, interruption, result, trivial⟩
  · rintro ⟨⟨state, valid⟩, found, rfl, keys, schema, assignment, ⟨rawPermits, permitsIs, permits⟩,
      ⟨rawEvents, eventsIs, events⟩, cleanup, interruption, result, -⟩
    have few : rawEvents.length ≤ maxTranscriptEvents := by
      rw [length_of_heldByItems events, List.length_map]
      simp only [validate, checkEvents, bind_eq_ok, require_eq_ok] at valid
      obtain ⟨_, _, _, ⟨_, few, _⟩, _⟩ := valid
      exact few
    exact ⟨found, ⟨rfl, keys, schema⟩, rawPermits, permitsIs, rawEvents, eventsIs, (), few, _,
      assignment, _, permits, _, events, _, cleanup, _, interruption, _, result, state, valid, rfl⟩

end ProviderAttemptTranscript

namespace WorkerExecutionTranscript

/-- The document of each attempt. -/
theorem attemptDocuments_eq_ok {transcript : WorkerExecutionTranscript} {documents : List Json} :
    transcript.attemptDocuments = .ok documents ↔
      (∀ attempt ∈ transcript.attempts, ∃ state, attempt.validate = .ok state) ∧
        documents = transcript.attempts.map fun attempt => .obj attempt.members := by
  rw [attemptDocuments]
  generalize transcript.attempts = attempts
  induction attempts generalizing documents with
  | nil =>
    rw [List.mapM_nil, pure_eq_ok]
    simp [eq_comm]
  | cons attempt attempts ih =>
    simp only [List.mapM_cons, bind_eq_ok, pure_eq_ok, ih, ProviderAttemptTranscript.toDocument]
    constructor
    · rintro ⟨_, ⟨state, valid, rfl⟩, _, ⟨others, rfl⟩, rfl⟩
      exact ⟨List.forall_mem_cons.mpr ⟨⟨state, valid⟩, others⟩, rfl⟩
    · rintro ⟨each, rfl⟩
      obtain ⟨⟨state, valid⟩, others⟩ := List.forall_mem_cons.mp each
      exact ⟨_, ⟨state, valid, rfl⟩, _, ⟨others, rfl⟩, rfl⟩

/-- Attempts are read as they are written. -/
theorem mapM_attempts {found : List Json} {attempts : List ProviderAttemptTranscript} :
    found.mapM ProviderAttemptTranscript.fromDocument = .ok attempts ↔
      (∀ attempt ∈ attempts, ∃ state, attempt.validate = .ok state) ∧
        Json.HeldByItems (attempts.map fun attempt => .obj attempt.members) found := by
  induction found generalizing attempts with
  | nil => cases attempts <;> simp [Json.HeldByItems, pure_eq_ok]
  | cons first rest ih =>
    simp only [List.mapM_cons, bind_eq_ok, pure_eq_ok, ProviderAttemptTranscript.fromDocument_eq_ok,
      ih]
    cases attempts with
    | nil => simp [Json.HeldByItems]
    | cons attempt attempts =>
      simp only [List.cons.injEq, List.map_cons, List.forall_mem_cons, Json.HeldByItems]
      constructor
      · rintro ⟨_, ⟨valid, held⟩, _, ⟨others, each⟩, rfl, rfl⟩
        exact ⟨⟨valid, others⟩, _, _, ⟨rfl, rfl⟩, held, each⟩
      · rintro ⟨⟨valid, others⟩, _, _, ⟨rfl, rfl⟩, held, each⟩
        exact ⟨_, ⟨valid, held⟩, _, ⟨others, each⟩, rfl, rfl⟩

/-- The document of a transcript that is in order. -/
theorem toDocument_eq_ok {transcript : WorkerExecutionTranscript} {document : Json} :
    transcript.toDocument = .ok document ↔ (∃ action, transcript.validate = .ok action) ∧
      document = .obj (transcript.members
        (transcript.attempts.map fun attempt => .obj attempt.members)) := by
  simp only [toDocument, bind_eq_ok, pure_eq_ok, attemptDocuments_eq_ok]
  constructor
  · rintro ⟨action, valid, _, ⟨-, rfl⟩, rfl⟩
    exact ⟨⟨action, valid⟩, rfl⟩
  · rintro ⟨⟨action, valid⟩, rfl⟩
    refine ⟨action, valid, _, ⟨fun attempt member => ?_, rfl⟩, rfl⟩
    simp only [validate, checkAttempts, bind_eq_ok] at valid
    obtain ⟨_, _, _, ⟨_, each, _⟩, _⟩ := valid
    exact ok_of_mapM each member

theorem fromDocument_eq_ok {document : Json} {transcript : WorkerExecutionTranscript} :
    fromDocument document = .ok transcript ↔ ∃ own, transcript.toDocument = .ok own ∧
      own.HeldBy document := by
  simp only [fromDocument, bind_eq_ok, demand_eq_ok, require_eq_ok, pure_eq_ok, toDocument_eq_ok,
    ProviderAttemptTranscript.membersWith_eq_ok, itemsOfJson_eq_some, mapM_attempts,
    CustomerCapReservation.fromDocument_eq_ok,
    mapM_records fun _ _ => AssignmentLedgerBinding.fromDocument_eq_ok,
    mapM_records fun _ _ => WorkerSettlementDecision.fromDocument_eq_ok,
    optionalOf_record fun _ _ => UnassignedDispatchOutcome.fromDocument_eq_ok]
  constructor
  · rintro ⟨found, ⟨rfl, keys, schema⟩, rawBindings, bindingsIs, rawAttempts, attemptsIs,
      rawSettlements, settlementsIs, _, -, _, reservation, _, bindings, _, ⟨-, attempts⟩, _,
      unassigned, _, settlements, action, valid, rfl⟩
    exact ⟨_, ⟨⟨action, valid⟩, rfl⟩, found, rfl, keys, schema, reservation,
      ⟨rawBindings, bindingsIs, bindings⟩, ⟨rawAttempts, attemptsIs, attempts⟩, unassigned,
      ⟨rawSettlements, settlementsIs, settlements⟩, trivial⟩
  · rintro ⟨_, ⟨⟨action, valid⟩, rfl⟩, found, rfl, keys, schema, reservation,
      ⟨rawBindings, bindingsIs, bindings⟩, ⟨rawAttempts, attemptsIs, attempts⟩, unassigned,
      ⟨rawSettlements, settlementsIs, settlements⟩, -⟩
    have checked := valid
    simp only [validate, checkShape, checkAttempts, bind_eq_ok, require_eq_ok] at checked
    obtain ⟨_, ⟨_, few, _⟩, _, ⟨_, each, _⟩, _⟩ := checked
    refine ⟨found, ⟨rfl, keys, schema⟩, rawBindings, bindingsIs, rawAttempts, attemptsIs,
      rawSettlements, settlementsIs, (), ?_, _, reservation, _, bindings, _,
      ⟨fun attempt member => ok_of_mapM each member, attempts⟩, _, unassigned, _, settlements,
      action, valid, rfl⟩
    rw [length_of_heldByItems attempts, List.length_map]
    exact few

end WorkerExecutionTranscript

/-! ## What a record writes is short -/

theorem length_le_of_isId {t : Text} (fits : isId t = true) : t.length ≤ 128 := by
  cases t with
  | nil => cases fits
  | cons c t =>
    simp only [isId, Bool.and_eq_true, decide_eq_true_eq] at fits
    rw [List.length_cons]
    omega

theorem length_of_isDigest {t : Text} (digest : Text.isDigest "sha256:" t = true) :
    t.length = 71 := by
  simp only [Text.isDigest, Text.isHex, Bool.and_eq_true, List.isPrefixOf_iff_prefix, beq_iff_eq,
    List.length_drop] at digest
  obtain ⟨start, size, -⟩ := digest
  have head : (Text.ofString "sha256:").length = 7 := rfl
  have long := start.length_le
  omega

/-- Members that are short texts are short together. -/
theorem length_renderMembers_le {members : List (Text × Json)}
    (each : ∀ member ∈ members, member.1.length ≤ 128 ∧
      ∃ t : Text, member.2 = .str t ∧ t.length ≤ 128) :
    (Json.renderMembers canonicalStyle members).length ≤ 3078 * members.length := by
  induction members with
  | nil => exact le_rfl
  | cons member members ih =>
    obtain ⟨key, value⟩ := member
    obtain ⟨⟨named, t, rfl, short⟩, rest⟩ := List.forall_mem_cons.mp each
    have name := length_quoted_le key
    have written := length_quoted_le t
    have others := ih rest
    have named : key.length ≤ 128 := named
    rw [length_renderMembers_cons, Json.render, List.length_cons]
    omega

/-! ## What a record writes can be read -/

theorem noSurrogate_ofString (s : String) : (Text.ofString s).NoSurrogate := by
  intro c member
  obtain ⟨octet, -, rfl⟩ := List.mem_map.mp member
  have small := octet.toNat_lt
  have value : (Fin.ofNat 0x110000 octet.toNat).val = octet.toNat :=
    Nat.mod_eq_of_lt (by omega)
  simp only [CodePoint.isSurrogate, value, Bool.and_eq_false_iff, decide_eq_false_iff_not]
  omega

theorem noSurrogate_of_isId {t : Text} (fits : isId t = true) : t.NoSurrogate := by
  cases t with
  | nil => cases fits
  | cons c t =>
    simp only [isId, Bool.and_eq_true] at fits
    obtain ⟨⟨first, -⟩, rest⟩ := fits
    refine Text.IsAscii.noSurrogate (Text.isAscii_cons.mpr
      ⟨Text.val_lt_of_isAlphanumeric first, Text.isAscii_of_all (fun c listed => ?_) rest⟩)
    rcases Bool.or_eq_true_iff.mp listed with letter | mark
    · exact Text.val_lt_of_isAlphanumeric letter
    · have marked := of_decide_eq_true mark
      simp only [List.mem_cons, List.not_mem_nil, or_false] at marked
      rcases marked with rfl | rfl | rfl | rfl <;> decide

theorem noSurrogate_of_isHotkey {t : Text} (fits : isHotkey t = true) : t.NoSurrogate := by
  simp only [isHotkey, Bool.and_eq_true] at fits
  refine Text.IsAscii.noSurrogate (Text.isAscii_of_all (fun c listed => ?_) fits.2)
  simp only [Bool.or_eq_true] at listed
  rcases listed with ((((digit | upper) | upper) | upper) | lower) | lower
  all_goals exact Text.val_lt_of_inRange ‹_› (by decide)

theorem noSurrogate_of_isDigest {t : Text} (digest : Text.isDigest "sha256:" t = true) :
    t.NoSurrogate :=
  (Text.isAscii_of_isDigest (by decide) digest).noSurrogate

theorem noSurrogate_canonicalUtc (t : Utc) : (canonicalUtc t).NoSurrogate :=
  (Instant.isAscii_canonicalUtc t.val).noSurrogate

theorem plain_optionalJson {α : Type} {write : α → Json} {o : Option α}
    (plain : ∀ a ∈ o, (write a).Plain False) : (optionalJson write o).Plain False := by
  cases o with
  | none => trivial
  | some a => exact plain a rfl

theorem plain_map {α : Type} {write : α → Json} {as : List α}
    (plain : ∀ a ∈ as, (write a).Plain False) : (Json.arr (as.map write)).Plain False :=
  Json.plainItems_iff.mpr (List.forall_mem_map.mpr plain)

theorem ProviderIdentity.plain_toDocument (provider : ProviderIdentity) :
    provider.toDocument.Plain False := by
  obtain ⟨isProvider, fits⟩ := ProviderIdentityFields.check_eq_ok.mp provider.valid
  have kind : (Enumerated.value provider.kind).NoSurrogate := by
    cases provider.kind <;> exact noSurrogate_ofString _
  have hotkey : ∀ t ∈ provider.subnetHotkey, t.NoSurrogate := by
    intro t present
    unfold ProviderIdentityFields.hotkeyFits at fits
    rw [Option.mem_def.mp present] at fits
    split at fits
    · cases fits
    · simp only [Option.any_some, Bool.and_eq_true] at fits
      exact noSurrogate_of_isHotkey fits.1
  have name := noSurrogate_ofString
  exact ⟨by simp [members], name _, name _, name _, kind, name _, noSurrogate_of_isId isProvider,
    name _, plain_optionalJson hotkey, trivial⟩

theorem AttemptAssignment.plain_toDocument (assignment : AttemptAssignment) :
    assignment.toDocument.Plain False := by
  obtain ⟨isAttempt, isSlot, isNonce, isManifest, isPolicy, isImage⟩ :=
    AttemptAssignmentFields.check_eq_ok.mp assignment.valid
  have name := noSurrogate_ofString
  exact ⟨by simp [members], name _, name _, name _, noSurrogate_of_isId isAttempt,
    name _, assignment.provider.plain_toDocument, name _, noSurrogate_of_isId isSlot,
    name _, noSurrogate_of_isHex isNonce, name _, noSurrogate_of_isDigest isManifest,
    name _, noSurrogate_of_isDigest isPolicy, name _, noSurrogate_of_isDigest isImage, trivial⟩

theorem AssignmentPermit.plain_toDocument (permit : AssignmentPermit) :
    permit.toDocument.Plain False := by
  obtain ⟨isAssigned, -, -, isKey, isAuthorization⟩ :=
    AssignmentPermitFields.check_eq_ok.mp permit.valid
  have name := noSurrogate_ofString
  exact ⟨by simp [members], name _, name _, name _, noSurrogate_of_isDigest isAssigned,
    name _, trivial, name _, noSurrogate_canonicalUtc _, name _, noSurrogate_canonicalUtc _,
    name _, noSurrogate_of_isId isKey, name _, noSurrogate_of_isDigest isAuthorization, trivial⟩

theorem AssignmentLedgerBinding.plain_toDocument (binding : AssignmentLedgerBinding) :
    binding.toDocument.Plain False := by
  obtain ⟨isBinding, isCustomer, isWorker, isAttempt, isReservation, isAssigned, isRequest, -,
    retry, -⟩ := AssignmentLedgerBindingFields.check_eq_ok.mp binding.valid
  have isParent := (checkRetryParent_eq_ok.mp retry).2
  have parent := @plain_optionalJson _ .str _ fun t present =>
    noSurrogate_of_isId (isParent t present).1
  have name := noSurrogate_ofString
  exact ⟨by simp [members], name _, name _, name _, noSurrogate_of_isId isBinding,
    name _, noSurrogate_of_isDigest isAssigned, name _, noSurrogate_of_isId isCustomer,
    name _, noSurrogate_of_isId isWorker, name _, noSurrogate_of_isId isAttempt, name _, trivial,
    name _, parent, name _, noSurrogate_of_isId isReservation,
    name _, noSurrogate_of_isDigest isRequest, name _, trivial, name _,
    noSurrogate_canonicalUtc _, trivial⟩

theorem InterruptionOutcome.plain_toDocument (interruption : InterruptionOutcome) :
    interruption.toDocument.Plain False := by
  obtain ⟨isAttempt, isAssigned, isSlot, isSource⟩ :=
    InterruptionOutcomeFields.check_eq_ok.mp interruption.valid
  have kind : (Enumerated.value interruption.kind).NoSurrogate := by
    cases interruption.kind <;> exact noSurrogate_ofString _
  have name := noSurrogate_ofString
  exact ⟨by simp [members], name _, name _, name _, noSurrogate_of_isId isAttempt,
    name _, noSurrogate_of_isDigest isAssigned, name _, interruption.provider.plain_toDocument,
    name _, noSurrogate_of_isId isSlot, name _, kind, name _, noSurrogate_of_isDigest isSource,
    name _, noSurrogate_canonicalUtc _, trivial⟩

theorem CleanupOutcome.plain_toDocument (cleanup : CleanupOutcome) :
    cleanup.toDocument.Plain False := by
  obtain ⟨isAttempt, isAssigned, isSlot, -, -, isObservation, -⟩ :=
    CleanupOutcomeFields.check_eq_ok.mp cleanup.valid
  have path : (Enumerated.value cleanup.path).NoSurrogate := by
    cases cleanup.path <;> exact noSurrogate_ofString _
  have absence : (Enumerated.value cleanup.absenceStatus).NoSurrogate := by
    cases cleanup.absenceStatus <;> exact noSurrogate_ofString _
  have name := noSurrogate_ofString
  exact ⟨by simp [members], name _, name _, name _, noSurrogate_of_isId isAttempt,
    name _, noSurrogate_of_isDigest isAssigned, name _, cleanup.provider.plain_toDocument,
    name _, noSurrogate_of_isId isSlot, name _, path, name _, absence,
    name _, noSurrogate_canonicalUtc _, name _, noSurrogate_canonicalUtc _,
    name _, plain_optionalJson fun t present => noSurrogate_of_isDigest (isObservation t present),
    name _, plain_optionalJson fun t _ => noSurrogate_canonicalUtc t, trivial⟩

theorem AttemptResult.plain_toDocument (result : AttemptResult) :
    result.toDocument.Plain False := by
  obtain ⟨isAttempt, isAssigned, isQuote, isNonce, isMeasurement, isPayload, -⟩ :=
    AttemptResultFields.check_eq_ok.mp result.valid
  have name := noSurrogate_ofString
  exact ⟨by simp [members], name _, name _, name _, noSurrogate_of_isId isAttempt,
    name _, noSurrogate_of_isDigest isAssigned, name _, noSurrogate_of_isDigest isQuote,
    name _, noSurrogate_of_isHex isNonce, name _, noSurrogate_of_isDigest isMeasurement,
    name _, noSurrogate_of_isDigest isPayload, name _, noSurrogate_canonicalUtc _,
    name _, noSurrogate_canonicalUtc _, trivial⟩

theorem noSurrogate_state (state : AttemptState) : (Enumerated.value state).NoSurrogate := by
  cases state <;> exact noSurrogate_ofString _

theorem AttemptTransitionEvent.plain_toDocument (event : AttemptTransitionEvent) :
    event.toDocument.Plain False := by
  obtain ⟨isEvent, isAttempt, isAssigned, -, isDetail, terminal⟩ :=
    AttemptTransitionEventFields.check_eq_ok.mp event.valid
  have isCleanup := (checkTerminal_eq_ok.mp terminal).2.2
  have basis (a : TerminalBasis) : (Enumerated.value a).NoSurrogate := by
    cases a <;> exact noSurrogate_ofString _
  have name := noSurrogate_ofString
  exact ⟨by simp [members], name _, name _, name _, noSurrogate_of_isId isEvent,
    name _, noSurrogate_of_isId isAttempt, name _, noSurrogate_of_isDigest isAssigned,
    name _, noSurrogate_state _, name _, noSurrogate_state _, name _, noSurrogate_canonicalUtc _,
    name _, noSurrogate_of_isDigest isDetail,
    name _, plain_optionalJson fun t present => noSurrogate_of_isDigest (isCleanup t present),
    name _, plain_optionalJson fun a _ => basis a, trivial⟩

theorem CustomerCapReservation.plain_toDocument (reservation : CustomerCapReservation) :
    reservation.toDocument.Plain False := by
  obtain ⟨isCustomer, isWorker, isReserved, isRequest, -, -⟩ :=
    CustomerCapReservationFields.check_eq_ok.mp reservation.valid
  have name := noSurrogate_ofString
  exact ⟨by simp [members], name _, name _, name _, noSurrogate_of_isId isCustomer,
    name _, noSurrogate_of_isId isWorker, name _, noSurrogate_of_isId isReserved,
    name _, noSurrogate_of_isDigest isRequest, name _, trivial,
    name _, noSurrogate_canonicalUtc _, name _, noSurrogate_canonicalUtc _, trivial⟩

theorem UnassignedDispatchOutcome.plain_toDocument (outcome : UnassignedDispatchOutcome) :
    outcome.toDocument.Plain False := by
  obtain ⟨isOutcome, isWorker, isRequest, isRouting⟩ :=
    UnassignedDispatchOutcomeFields.check_eq_ok.mp outcome.valid
  have reason : (Enumerated.value outcome.reason).NoSurrogate := by
    cases outcome.reason <;> exact noSurrogate_ofString _
  have name := noSurrogate_ofString
  exact ⟨by simp [members], name _, name _, name _, noSurrogate_of_isId isOutcome,
    name _, noSurrogate_of_isId isWorker, name _, noSurrogate_of_isDigest isRequest,
    name _, reason, name _, noSurrogate_of_isDigest isRouting,
    name _, noSurrogate_canonicalUtc _, trivial⟩

theorem WorkerSettlementDecision.plain_toDocument (decision : WorkerSettlementDecision) :
    decision.toDocument.Plain False := by
  obtain ⟨isDecision, isCustomer, isWorker, isReservation, -, supersedes, -, -, -, isOutcome,
    acted, -⟩ := WorkerSettlementDecisionFields.check_eq_ok.mp decision.valid
  have isSuperseded := (checkSupersedes_eq_ok.mp supersedes).2
  have isWinner := (checkAction_eq_ok.mp acted).2.2.2
  have action : (Enumerated.value decision.action).NoSurrogate := by
    cases decision.action <;> exact noSurrogate_ofString _
  have name := noSurrogate_ofString
  exact ⟨by simp [members], name _, name _, name _, noSurrogate_of_isId isDecision,
    name _, trivial,
    name _, plain_optionalJson fun t present => noSurrogate_of_isDigest (isSuperseded t present),
    name _, noSurrogate_of_isId isCustomer, name _, noSurrogate_of_isId isWorker,
    name _, noSurrogate_of_isId isReservation, name _, trivial, name _, trivial, name _, action,
    name _, plain_optionalJson fun t present => noSurrogate_of_isId (isWinner t present),
    name _, noSurrogate_of_isDigest isOutcome, name _, noSurrogate_canonicalUtc _, trivial⟩

theorem ProviderAttemptTranscript.plain_members (transcript : ProviderAttemptTranscript) :
    (Json.obj transcript.members).Plain False := by
  have name := noSurrogate_ofString
  exact ⟨by simp [members], name _, name _, name _, transcript.assignment.plain_toDocument,
    name _, plain_map fun permit _ => permit.plain_toDocument,
    name _, plain_map fun event _ => event.plain_toDocument,
    name _, transcript.cleanup.plain_toDocument,
    name _, plain_optionalJson fun interruption _ => interruption.plain_toDocument,
    name _, plain_optionalJson fun result _ => result.plain_toDocument, trivial⟩

theorem WorkerExecutionTranscript.plain_toDocument {transcript : WorkerExecutionTranscript}
    {document : Json} (written : transcript.toDocument = .ok document) : document.Plain False := by
  obtain ⟨-, rfl⟩ := toDocument_eq_ok.mp written
  have name := noSurrogate_ofString
  exact ⟨by simp [members], name _, name _, name _, transcript.reservation.plain_toDocument,
    name _, plain_map fun binding _ => binding.plain_toDocument,
    name _, plain_map fun attempt _ => attempt.plain_members,
    name _, plain_optionalJson fun outcome _ => outcome.plain_toDocument,
    name _, plain_map fun decision _ => decision.plain_toDocument, trivial⟩

end Cathedral.Provider
