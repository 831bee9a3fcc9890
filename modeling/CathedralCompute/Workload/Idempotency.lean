import CathedralCompute.Workload.Execution

/-!
# Executions are idempotent

Calls of one adapter or of many share one database, and every one of them may be
interrupted between two of its steps. What a step does to the row of an execution
id is one of four things: it enters the row with a claim, takes over a claim,
gives its own claim back, or stores an answer under its own claim. From these four
follow what holds in every run.

The claim tokens of the calls are the names of the processes: the calls draw them
at random, and no two of them draw the same.

## Main results

* `execution_idempotent` — bindings and results never change, every call that
  returns gives the stored result, and a call that lost its claim gives none
-/

set_option autoImplicit false

namespace Cathedral.Workload

open Codec Semantics

variable {p : Platform} {w w' : World} {executionId token : Text}

/-! ## Steps on a row -/

/-- What a step of the call with a token does to a row. -/
inductive RowStep (token : Text) : Option BindingRow → Option BindingRow → Prop
  | same (row : Option BindingRow) : RowStep token row row
  | insert {row : BindingRow} (claimed : row.claimToken = some token) (open_ : row.resultJson = none) :
      RowStep token none (some row)
  | takeOver {row : BindingRow} (deadline : ℚ) (open_ : row.resultJson = none) :
      RowStep token (some row) (some { row with
        claimToken := some token
        claimUntil := some deadline })
  | release {row : BindingRow} (held : row.claimToken = some token) :
      RowStep token (some row) (some { row with claimToken := none, claimUntil := none })
  | store {row : BindingRow} (held : row.claimToken = some token) (result : Bytes) :
      RowStep token (some row) (some { row with
        resultJson := some result
        claimToken := none
        claimUntil := none })

/-- A step of the call with a token: the row of its execution id makes a step, and
the others are as they were. -/
structure Stepped (executionId token : Text) (w w' : World) : Prop where
  own : RowStep token (w.bindings.find? executionId) (w'.bindings.find? executionId)
  others : ∀ other, other ≠ executionId → w'.bindings.find? other = w.bindings.find? other

theorem stepped_of_same (same : w'.bindings = w.bindings) : Stepped executionId token w w' where
  own := by
    rw [same]
    exact .same _
  others other _ := by rw [same]

theorem Stepped.row (stepped : Stepped executionId token w w') (other : Text) :
    RowStep token (w.bindings.find? other) (w'.bindings.find? other) := by
  by_cases same : other = executionId
  · rw [same]
    exact stepped.own
  · rw [stepped.others other same]
    exact .same _

/-- A result is stored only without a claim. -/
def World.Clean (w : World) : Prop :=
  ∀ row ∈ w.bindings.rows, row.resultJson ≠ none → row.claimToken = none

/-- Rows stay with their digests, and results stay as they are. -/
def Kept (w w' : World) : Prop :=
  ∀ executionId row, w.bindings.find? executionId = some row →
    ∃ row', w'.bindings.find? executionId = some row' ∧
      row'.manifestDigest = row.manifestDigest ∧ row'.requestDigest = row.requestDigest ∧
      ∀ stored, row.resultJson = some stored → row'.resultJson = some stored

/-- No row gains the token as its claim. -/
def NoGain (token : Text) (w w' : World) : Prop :=
  ∀ executionId row', w'.bindings.find? executionId = some row' → row'.claimToken = some token →
    ∃ row, w.bindings.find? executionId = some row ∧ row.claimToken = some token

/-- The result stored for an execution id. -/
def World.stored (w : World) (executionId : Text) : Option Bytes :=
  (w.bindings.find? executionId).bind BindingRow.resultJson

theorem Kept.refl (w : World) : Kept w w := fun _ row found =>
  ⟨row, found, rfl, rfl, fun _ same => same⟩

theorem Kept.trans {w₁ w₂ w₃ : World} (first : Kept w₁ w₂) (second : Kept w₂ w₃) :
    Kept w₁ w₃ := by
  intro executionId row found
  obtain ⟨middle, found', manifest, request, result⟩ := first executionId row found
  obtain ⟨last, found'', manifest', request', result'⟩ := second executionId middle found'
  exact ⟨last, found'', manifest'.trans manifest, request'.trans request,
    fun stored held => result' stored (result stored held)⟩

theorem NoGain.refl (token : Text) (w : World) : NoGain token w w := fun _ row found claimed =>
  ⟨row, found, claimed⟩

theorem NoGain.trans {w₁ w₂ w₃ : World} (first : NoGain token w₁ w₂)
    (second : NoGain token w₂ w₃) : NoGain token w₁ w₃ := by
  intro executionId row found claimed
  obtain ⟨middle, found', claimed'⟩ := second executionId row found claimed
  exact first executionId middle found' claimed'

theorem noGain_of_same (same : w'.bindings = w.bindings) : NoGain token w w' := by
  unfold NoGain
  rw [same]
  exact NoGain.refl token w

theorem World.Clean.find? (clean : w.Clean) {executionId : Text} {row : BindingRow}
    (found : w.bindings.find? executionId = some row) (held : row.claimToken ≠ none) :
    row.resultJson = none := by
  by_contra stored
  exact held (clean row (Table.find?_eq_some.mp found).1 stored)

theorem clean_of_find? (clean : ∀ executionId row, w.bindings.find? executionId = some row →
    row.resultJson ≠ none → row.claimToken = none) : w.Clean := fun row member =>
  clean row.executionId row (Table.find?_eq_some.mpr ⟨member, rfl⟩)

/-- A step keeps results apart from claims. -/
theorem Stepped.clean (stepped : Stepped executionId token w w') (clean : w.Clean) : w'.Clean := by
  refine clean_of_find? fun other row found stored => ?_
  have step := stepped.row other
  rw [found] at step
  generalize before : w.bindings.find? other = old at step
  cases step with
  | same => exact clean row (Table.find?_eq_some.mp before).1 stored
  | insert claimed open_ => exact absurd open_ stored
  | takeOver deadline open_ => exact absurd open_ stored
  | release held => rfl
  | store held result => rfl

/-- A step keeps rows and results: a claim is held only where there is no result. -/
theorem Stepped.kept (stepped : Stepped executionId token w w') (clean : w.Clean) : Kept w w' := by
  intro other row found
  have step := stepped.row other
  rw [found] at step
  generalize after : w'.bindings.find? other = new at step
  cases step with
  | same => exact ⟨row, rfl, rfl, rfl, fun _ same => same⟩
  | takeOver deadline open_ => exact ⟨_, rfl, rfl, rfl, fun _ same => same⟩
  | release held => exact ⟨_, rfl, rfl, rfl, fun _ same => same⟩
  | store held result =>
    refine ⟨_, rfl, rfl, rfl, fun stored same => ?_⟩
    have open_ := clean.find? found (by rw [held]; exact Option.some_ne_none _)
    rw [open_] at same
    cases same

/-- A step of one call gives no other call a claim. -/
theorem Stepped.noGain (stepped : Stepped executionId token w w') {token' : Text}
    (different : token' ≠ token) : NoGain token' w w' := by
  intro other row' found claimed
  have step := stepped.row other
  rw [found] at step
  generalize before : w.bindings.find? other = old at step
  cases step with
  | same => exact ⟨row', rfl, claimed⟩
  | insert mine open_ =>
    rw [mine] at claimed
    exact absurd (Option.some.inj claimed).symm different
  | takeOver deadline open_ => exact absurd (Option.some.inj claimed).symm different
  | release held => cases claimed
  | store held result => cases claimed

/-- No row holds the token. -/
def World.Lost (token : Text) (w : World) : Prop :=
  ∀ executionId row, w.bindings.find? executionId = some row → row.claimToken ≠ some token

/-- A step in a world where the call holds no claim stores nothing. -/
theorem Stepped.stored (stepped : Stepped executionId token w w') (lost : w.Lost token)
    (other : Text) : w'.stored other = w.stored other := by
  have step := stepped.row other
  unfold World.stored
  generalize before : w.bindings.find? other = old at step
  generalize after : w'.bindings.find? other = new at step
  cases step with
  | same => rfl
  | insert claimed open_ => exact open_
  | takeOver deadline open_ => rfl
  | release held => rfl
  | store held result => exact absurd held (lost other _ before)

theorem NoGain.lost (kept : NoGain token w w') (lost : w.Lost token) : w'.Lost token := by
  intro executionId row' found claimed
  obtain ⟨row, found', claimed'⟩ := kept executionId row' found claimed
  exact lost executionId row found' claimed'

/-! ## The transactions of a call -/

/-- An update of rows of the execution id alone. -/
theorem stepped_update {condition : BindingRow → Prop} [DecidablePred condition]
    {change : BindingRow → BindingRow} {keeps : ∀ row, (change row).executionId = row.executionId}
    (own : ∀ row, condition row → row.executionId = executionId)
    (step : ∀ row, w.bindings.find? executionId = some row → condition row →
      RowStep token (some row) (some (change row))) :
    Stepped executionId token w
      { w with bindings := w.bindings.update condition change keeps } where
  own := by
    rw [Table.find?_update executionId keeps]
    cases found : w.bindings.find? executionId with
    | none => exact .same _
    | some row =>
      by_cases applies : condition row
      · simpa [applies] using step row found applies
      · simpa [applies] using RowStep.same (some row)
  others other different := by
    rw [Table.find?_update other keeps]
    cases found : w.bindings.find? other with
    | none => rfl
    | some row =>
      have keyed := (Table.find?_eq_some.mp found).2
      exact congrArg some (if_neg fun applies => different (keyed.symm.trans (own row applies)))

theorem bindings_authorizationNow {adapter : ExternalExecutionAdapter} {input : Input} {now : ℚ}
    (committed : authorizationNow p adapter input w = .ok (now, w')) :
    w'.bindings = w.bindings := by
  simp only [authorizationNow, bind_eq_ok, pure_eq_ok, Prod.mk.injEq] at committed
  obtain ⟨_, -, _, -, _, -, -, rfl⟩ := committed
  rfl

namespace ExecutionCall

variable {call : ExecutionCall} {requestDigest : Text} {input : Input} {answer : Unit}

/-- A world holds a result for the execution id, and the call reads it as this one. -/
def Reads (p : Platform) (call : ExecutionCall) (w : World) (result : WorkloadExecutionResult) :
    Prop :=
  ∃ stored members, w.stored call.executionId = some stored ∧
    parseDocument p stored = .ok members ∧ call.readResult p members = .ok result

/-- The first transaction answers with the stored result, or is a step. -/
theorem claim_cases {deadline : ℚ} {claimed : Option WorkloadExecutionResult}
    (committed : call.claim p requestDigest token deadline input w = .ok (claimed, w')) :
    (∃ result, claimed = some result ∧ w' = w ∧ call.Reads p w result) ∨
      claimed = none ∧ Stepped call.executionId token w w' := by
  simp only [claim, bind_eq_ok] at committed
  obtain ⟨_, -, committed⟩ := committed
  split at committed
  case h_1 absent =>
    simp only [insertBinding, bind_eq_ok, demand_eq_ok, pure_eq_ok, Prod.mk.injEq] at committed
    obtain ⟨bindings, inserted, rfl, rfl⟩ := committed
    refine .inr ⟨rfl, ⟨?_, fun other different => ?_⟩⟩
    · rw [absent, Table.find?_insert inserted, if_pos rfl]
      exact .insert rfl rfl
    · rw [Table.find?_insert inserted, if_neg (Ne.symm different)]
  case h_2 row found =>
    simp only [meetBinding, bind_eq_ok] at committed
    obtain ⟨_, -, committed⟩ := committed
    split at committed
    case h_1 stored held =>
      simp only [bind_eq_ok, pure_eq_ok, Prod.mk.injEq] at committed
      obtain ⟨members, parsed, result, read, rfl, rfl⟩ := committed
      refine .inl ⟨result, rfl, rfl, stored, members, ?_, parsed, read⟩
      rw [World.stored, found]
      exact held
    case h_2 open_ =>
      simp only [bind_eq_ok, pure_eq_ok, Prod.mk.injEq] at committed
      obtain ⟨_, -, rfl, rfl⟩ := committed
      refine .inr ⟨rfl, ?_⟩
      unfold takeOver
      refine stepped_update (fun _ applies => applies.1) fun other found' _ => ?_
      rw [found] at found'
      cases found'
      exact .takeOver deadline open_

theorem invoke_bindings (permit : ExecutionAuthorization) :
    (call.invoke p permit input w).2.bindings = w.bindings := by
  by_cases oversized :
      call.config.maximumInputBytes < (((call.request p permit).payload p).length : ℤ)
  · simp [invoke, oversized]
  · cases exchanged : input.exchange <;> simp [invoke, oversized, exchanged]

/-- A claim given back is no claim gained. -/
theorem released_eq_ok (committed : call.release requestDigest token input w = .ok (answer, w')) :
    NoGain token w w' := by
  simp only [release, bind_eq_ok, pure_eq_ok, Prod.mk.injEq] at committed
  obtain ⟨_, -, -, rfl⟩ := committed
  intro other row' found claimed
  rw [Table.find?_update, Option.map_eq_some_iff] at found
  obtain ⟨row, found, rfl⟩ := found
  refine ⟨row, found, ?_⟩
  split at claimed
  · cases claimed
  · exact claimed

theorem stepped_release (committed : call.release requestDigest token input w = .ok (answer, w')) :
    Stepped call.executionId token w w' := by
  simp only [release, bind_eq_ok, pure_eq_ok, Prod.mk.injEq] at committed
  obtain ⟨_, -, -, rfl⟩ := committed
  exact stepped_update (fun _ applies => applies.1)
    fun row _ applies => .release applies.2.2.1

/-- The last transaction is a step, and stores the answer under the claim it found. -/
theorem store_cases {result : Bytes}
    (committed : call.store requestDigest token result input w = .ok (answer, w')) :
    Stepped call.executionId token w w' ∧ w'.stored call.executionId = some result ∧
      ¬ w.Lost token := by
  simp only [store, bind_eq_ok, require_eq_ok, pure_eq_ok, Prod.mk.injEq, exists_const]
    at committed
  obtain ⟨-, single, -, rfl⟩ := committed
  refine ⟨stepped_update (fun _ applies => applies.1)
    fun row _ applies => .store applies.2.2 result, ?_, ?_⟩
  all_goals
    obtain ⟨row, listed⟩ := List.length_eq_one_iff.mp single
    obtain ⟨member, held⟩ := Table.mem_select.mp (listed ▸ List.mem_singleton_self row)
    have found := Table.find?_eq_some.mpr ⟨member, held.1⟩
  · simp only [World.stored]
    rw [Table.find?_update, found, Option.map_some, if_pos held]
    rfl
  · exact fun lost => lost call.executionId row found held.2.2

/-! ## The steps of a call -/

theorem guarantees_conclude (answer : Except Failure (List (Text × Json) × WorkloadExecutionResult)) :
    (call.conclude p requestDigest token answer).Guarantees World.Clean
      (Stepped call.executionId token) := by
  unfold conclude
  split
  · refine Program.guarantees_bind ?_ fun _ => Program.guarantees_pure
    exact Program.guarantees_transact (fun _ _ => stepped_of_same rfl)
      fun _ _ _ _ _ committed => (store_cases committed).1
  · refine Program.guarantees_bind ?_ fun _ => Program.guarantees_lift
    exact Program.guarantees_transact (fun _ _ => stepped_of_same rfl)
      fun _ _ _ _ _ committed => stepped_release committed
  · exact Program.guarantees_lift

theorem guarantees_proceed (permit : ExecutionAuthorization)
    (claimed : Option WorkloadExecutionResult) :
    (call.proceed p permit token claimed).Guarantees World.Clean
      (Stepped call.executionId token) := by
  cases claimed with
  | some result => exact Program.guarantees_pure
  | none =>
    refine Program.guarantees_bind ?_ fun answer => guarantees_conclude answer
    refine Program.guarantees_transact (fun _ _ => stepped_of_same rfl) ?_
    intro input w outcome w' _ committed
    have same := (Prod.mk.inj (Except.ok.inj committed)).2
    exact stepped_of_same ((congrArg World.bindings same).symm.trans (invoke_bindings permit))

/-- The permit is verified without a look at the rows. -/
theorem guarantees_verifyAuthorization (call : ExecutionCall) :
    (call.verifyAuthorization p).Guarantees (fun _ => True)
      fun w w' => w'.bindings = w.bindings := by
  unfold verifyAuthorization
  refine Program.guarantees_bind Program.guarantees_lift fun permit => ?_
  refine Program.guarantees_bind Program.guarantees_lift fun _ => ?_
  refine Program.guarantees_bind ?_ fun now =>
    Program.guarantees_bind Program.guarantees_lift fun _ => Program.guarantees_pure
  exact Program.guarantees_transact (fun _ _ => rfl)
    fun _ _ _ _ _ committed => bindings_authorizationNow committed

/-- Every step of a call is a step of its token on its execution id. -/
theorem guarantees_executeAuthorized (call : ExecutionCall) (token : Text) :
    (call.executeAuthorized p token).Guarantees World.Clean (Stepped call.executionId token) := by
  have same : ∀ w : World, World.Clean w → Stepped call.executionId token w w :=
    fun _ _ => stepped_of_same rfl
  unfold executeAuthorized
  refine Program.guarantees_bind Program.guarantees_lift fun _ => ?_
  refine Program.guarantees_bind ?verified fun permit => ?_
  case verified =>
    exact (guarantees_verifyAuthorization call).mono (fun _ _ => trivial)
      fun _ _ _ kept => stepped_of_same kept
  refine Program.guarantees_bind Program.guarantees_lift fun _ => ?_
  refine Program.guarantees_bind (Program.guarantees_observe same) fun deadline => ?_
  refine Program.guarantees_bind ?_ fun claimed => guarantees_proceed permit claimed
  refine Program.guarantees_transact same fun _ w _ w' _ committed => ?_
  rcases claim_cases committed with ⟨_, -, rfl, -⟩ | ⟨-, stepped⟩
  · exact stepped_of_same rfl
  · exact stepped

/-! ## What a call returns -/

/-- The canonical octets of a document that was read are read as that document. -/
theorem parseDocument_documentBytes {data : Bytes} {members : List (Text × Json)}
    (parsed : parseDocument p data = .ok members) :
    parseDocument p (documentBytes p members) = .ok members := by
  simp only [parseDocument, bind_eq_ok, require_eq_ok, demand_eq_ok, pure_eq_ok, exists_const]
    at parsed ⊢
  obtain ⟨⟨nonempty, oneLine⟩, text, decoded, checked, readable, document, loaded, held, object,
    shallow, canonical, rfl⟩ := parsed
  obtain rfl : document = .obj held := by
    cases document <;> simp_all [membersOfJson]
  unfold canonicalJson at canonical
  split at canonical
  case isFalse => cases canonical
  case isTrue dumpable =>
    have written : documentBytes p held = answerBody data := Option.some.inj canonical
    have bare : answerBody (answerBody data) = answerBody data :=
      if_neg fun ends => oneLine (List.mem_of_getLast? ends)
    rw [written, bare]
    exact ⟨⟨nonempty, oneLine⟩, text, decoded, checked, readable, _, loaded, _, rfl, shallow,
      (if_pos dumpable).trans canonical, rfl⟩

theorem readAnswer_eq_ok {response : Bytes} {members : List (Text × Json)}
    {result : WorkloadExecutionResult} (read : call.readAnswer p response = .ok (members, result)) :
    parseDocument p (documentBytes p members) = .ok members ∧
      call.readResult p members = .ok result := by
  simp only [readAnswer, bind_eq_ok, require_eq_ok, pure_eq_ok, Prod.mk.injEq, exists_const] at read
  obtain ⟨-, _, parsed, _, held, rfl, rfl⟩ := read
  exact ⟨parseDocument_documentBytes parsed, held⟩

theorem invoke_eq_ok {permit : ExecutionAuthorization} {members : List (Text × Json)}
    {result : WorkloadExecutionResult}
    (answered : (call.invoke p permit input w).1 = .ok (members, result)) :
    parseDocument p (documentBytes p members) = .ok members ∧
      call.readResult p members = .ok result := by
  by_cases oversized :
      call.config.maximumInputBytes < (((call.request p permit).payload p).length : ℤ)
  · simp [invoke, oversized] at answered
  · cases exchanged : input.exchange with
    | unreachable => simp [invoke, oversized, exchanged] at answered
    | unanswered => simp [invoke, oversized, exchanged] at answered
    | answered response =>
      simp only [invoke, if_neg oversized, exchanged] at answered
      exact readAnswer_eq_ok answered

variable {R : World → World → Prop} {seen seen' : List World} {result : WorkloadExecutionResult}

theorem returned_conclude {outcome : Except Failure (List (Text × Json) × WorkloadExecutionResult)}
    (readable : ∀ members result, outcome = .ok (members, result) →
      parseDocument p (documentBytes p members) = .ok members ∧
        call.readResult p members = .ok result)
    (runs : (call.conclude p requestDigest token outcome).Runs R seen (.done (.ok result)) seen') :
    ∃ w ∈ seen', call.Reads p w result := by
  unfold conclude at runs
  split at runs
  case h_1 members answer =>
    obtain ⟨_, _, stored, returned⟩ := Program.runs_bind_ok runs
    obtain ⟨rfl, rfl⟩ := Program.runs_pure returned
    obtain ⟨_, w, w', -, committed, rfl⟩ := Program.runs_transact stored
    obtain ⟨parsed, read⟩ := readable members result rfl
    exact ⟨w', List.mem_cons_self, _, members, (store_cases committed).2.1, parsed, read⟩
  case h_2 =>
    obtain ⟨_, _, -, failed⟩ := Program.runs_bind_ok runs
    cases (Program.runs_lift failed).1
  case h_3 => cases (Program.runs_lift runs).1

/-- What a call returns is stored for its execution id at a moment of the call. -/
theorem returned_executeAuthorized
    (runs : (call.executeAuthorized p token).Runs R seen (.done (.ok result)) seen') :
    ∃ w ∈ seen', call.Reads p w result := by
  unfold executeAuthorized at runs
  obtain ⟨_, _, -, runs⟩ := Program.runs_bind_ok runs
  obtain ⟨permit, _, -, runs⟩ := Program.runs_bind_ok runs
  obtain ⟨_, _, -, runs⟩ := Program.runs_bind_ok runs
  obtain ⟨_, _, -, runs⟩ := Program.runs_bind_ok runs
  obtain ⟨claimed, _, claiming, runs⟩ := Program.runs_bind_ok runs
  obtain ⟨_, w, w', -, committed, rfl⟩ := Program.runs_transact claiming
  rcases claim_cases committed with ⟨stored, rfl, rfl, reads⟩ | ⟨rfl, -⟩
  · obtain ⟨rfl, rfl⟩ := Program.runs_pure runs
    exact ⟨_, List.mem_cons_self, reads⟩
  · obtain ⟨outcome, _, asking, concluding⟩ := Program.runs_bind_ok runs
    obtain ⟨_, _, _, -, asked, rfl⟩ := Program.runs_transact asking
    refine returned_conclude (fun members result same => ?_) concluding
    have answered := (Prod.mk.inj (Except.ok.inj asked)).1
    exact invoke_eq_ok (answered.trans same)

/-- Two calls that read one stored document read one result. -/
theorem readResult_unique {other : ExecutionCall} {members : List (Text × Json)}
    {result' : WorkloadExecutionResult} (read : call.readResult p members = .ok result)
    (read' : other.readResult p members = .ok result') : result = result' := by
  have named : ∀ {t u : Text} {value : Option Json}, Json.equalsText t value = true →
      Json.equalsText u value = true → t = u := by
    intro t u value first second
    rcases value with _ | value
    · cases first
    · cases value <;> simp_all [Json.equalsText]
  simp only [readResult, resultFromDocument, bind_eq_ok, require_eq_ok, pure_eq_ok, exists_const]
    at read read'
  obtain ⟨⟨-, -, -, execution, manifest, -⟩, -, status, held, job, ran, receipt, given, rfl⟩ := read
  obtain ⟨⟨-, -, -, execution', manifest', -⟩, -, status', held', job', ran', receipt', given',
    rfl⟩ := read'
  rw [named execution execution', named manifest manifest', Except.ok.inj (held.symm.trans held'),
    Except.ok.inj (ran.symm.trans ran'), Except.ok.inj (given.symm.trans given')]

end ExecutionCall

/-! ## Before and after the claim -/

/-- What is left of a program after it made its claim: a step that finds the claim
lost does not claim again, and does not end in a result. -/
def Late (token : Text) : Program World Input Failure WorkloadExecutionResult → Prop
  | .done _ => True
  | .step commit next => ∀ input w,
      (w.Lost token →
        (commit input w).Lost token ∧ ∀ result, next input w ≠ .done (.ok result)) ∧
      Late token (next input w)

/-- What is left of a program before it makes its claim: every step leaves it without
one, or the claim is made. -/
def Early (token : Text) : Program World Input Failure WorkloadExecutionResult → Prop
  | .done _ => True
  | .step commit next => ∀ input w, w.Lost token →
      ((commit input w).Lost token ∧ Early token (next input w)) ∨ Late token (next input w)

section Phases

variable {α : Type} {rest : α → Program World Input Failure WorkloadExecutionResult}

theorem late_transact {transaction : Input → World → Except Failure (α × World)}
    (returns : ∀ input w value w', w.Lost token → transaction input w = .ok (value, w') →
      w'.Lost token ∧ ∀ result, rest value ≠ .done (.ok result))
    (late : ∀ value, Late token (rest value)) : Late token (.transact transaction >>= rest) := by
  intro input w
  change (w.Lost token → (settle w ((transaction input w).map Prod.snd)).Lost token ∧ ∀ result,
      (Program.done ((transaction input w).map Prod.fst)).bind rest ≠ .done (.ok result)) ∧
    Late token ((Program.done ((transaction input w).map Prod.fst)).bind rest)
  cases committed : transaction input w with
  | error failure => exact ⟨fun lost => ⟨lost, fun _ => nofun⟩, trivial⟩
  | ok outcome => exact ⟨fun lost => returns input w _ outcome.2 lost committed, late _⟩

theorem early_transact {transaction : Input → World → Except Failure (α × World)}
    (early : ∀ input w value w', w.Lost token → transaction input w = .ok (value, w') →
      (w'.Lost token ∧ Early token (rest value)) ∨ Late token (rest value)) :
    Early token (.transact transaction >>= rest) := by
  intro input w lost
  change ((settle w ((transaction input w).map Prod.snd)).Lost token ∧
      Early token ((Program.done ((transaction input w).map Prod.fst)).bind rest)) ∨
    Late token ((Program.done ((transaction input w).map Prod.fst)).bind rest)
  cases committed : transaction input w with
  | error failure => exact .inl ⟨lost, trivial⟩
  | ok outcome => exact early input w _ outcome.2 lost committed

/-- What leaves the rows alone makes no claim. -/
theorem early_bind {first : Program World Input Failure α}
    (still : first.Guarantees (fun _ => True) fun w w' => w'.bindings = w.bindings)
    (early : ∀ value, Early token (rest value)) : Early token (first >>= rest) := by
  change Early token (first.bind rest)
  induction first with
  | done outcome =>
    cases outcome with
    | ok value => exact early value
    | error failure => trivial
  | step commit next ih =>
    intro input w lost
    obtain ⟨same, still⟩ := still input w trivial
    refine .inl ⟨?_, ih input w still⟩
    unfold World.Lost
    rw [same]
    exact lost

end Phases

namespace ExecutionCall

variable {call : ExecutionCall} {requestDigest : Text}

theorem late_conclude (answer : Except Failure (List (Text × Json) × WorkloadExecutionResult)) :
    Late token (call.conclude p requestDigest token answer) := by
  unfold conclude
  split
  · refine late_transact (fun _ _ _ _ lost committed => ?_) fun _ => trivial
    exact absurd lost (store_cases committed).2.2
  · refine late_transact (fun _ w _ w' lost committed => ⟨?_, fun _ => nofun⟩) fun _ => trivial
    exact (released_eq_ok committed).lost lost
  · trivial

theorem conclude_ne_done (answer : Except Failure (List (Text × Json) × WorkloadExecutionResult))
    (result : WorkloadExecutionResult) :
    call.conclude p requestDigest token answer ≠ .done (.ok result) := by
  unfold conclude
  split
  · exact nofun
  · exact nofun
  · exact nofun

/-- A call that starts without a claim makes one in its first transaction on the
rows, or none at all. -/
theorem early_executeAuthorized (call : ExecutionCall) (token : Text) :
    Early token (call.executeAuthorized p token) := by
  unfold executeAuthorized
  refine early_bind Program.guarantees_lift fun _ => ?_
  refine early_bind (guarantees_verifyAuthorization call) fun permit => ?_
  refine early_bind Program.guarantees_lift fun _ => ?_
  refine early_bind (Program.guarantees_observe fun _ _ => rfl) fun deadline => ?_
  refine early_transact fun input w claimed w' lost committed => ?_
  rcases claim_cases committed with ⟨result, rfl, rfl, -⟩ | ⟨rfl, -⟩
  · exact .inl ⟨lost, trivial⟩
  · refine .inr (late_transact (fun input w answer w' lost invoked => ?_)
      fun answer => late_conclude answer)
    have same := (Prod.mk.inj (Except.ok.inj invoked)).2
    have bindings := (congrArg World.bindings same).symm.trans (invoke_bindings permit)
    exact ⟨(noGain_of_same bindings).lost lost, conclude_ne_done answer⟩

end ExecutionCall

/-! ## Systems of calls -/

/-- Calls over one world. -/
abbrev CallSystem := System Text ExecutionCall World Input Failure WorkloadExecutionResult

/-- Moves of the calls. Nothing else writes to their database. -/
abbrev CallMove := Move Text ExecutionCall Input Empty

/-- A process that is one call. -/
abbrev CallProcess := Process Text ExecutionCall World Input Failure WorkloadExecutionResult

/-- The program of a call, under the token it draws. -/
def callProgram (p : Platform) (token : Text) (call : ExecutionCall) :
    Program World Input Failure WorkloadExecutionResult :=
  call.executeAuthorized p token

/-- One move of the calls. -/
def CallSystem.step (p : Platform) (system : CallSystem) (move : CallMove) : CallSystem :=
  System.step (callProgram p) Empty.elim system move

theorem ordered_calls (p : Platform) :
    Ordered (callProgram p) (Empty.elim : Empty → World → World) World.Clean Kept NoGain where
  kept_refl w _ := .refl w
  kept_trans := .trans
  refl token w _ := .refl token w
  trans _ := .trans
  valid token call := (ExecutionCall.guarantees_executeAuthorized call token).mono (fun _ clean => clean)
    fun _ _ clean stepped => stepped.clean clean
  keeps token call := (ExecutionCall.guarantees_executeAuthorized call token).mono (fun _ clean => clean)
    fun _ _ clean stepped => stepped.kept clean
  guards token call _ different :=
    (ExecutionCall.guarantees_executeAuthorized call token).mono (fun _ clean => clean)
      fun _ _ _ stepped => stepped.noGain different
  outside_valid := nofun
  outside_keeps := nofun
  outside_guards := nofun

/-- The row of an execution id is held under a token. -/
def World.HeldBy (w : World) (executionId token : Text) : Prop :=
  ∃ row, w.bindings.find? executionId = some row ∧ row.claimToken = some token

theorem lost_iff : w.Lost token ↔ ∀ executionId, ¬ w.HeldBy executionId token :=
  ⟨fun lost executionId ⟨row, found, held⟩ => lost executionId row found held,
    fun free executionId row found held => free executionId ⟨row, found, held⟩⟩

/-- What every run keeps of a process: its steps are steps of its token, only the row
of its execution id can hold the token, and as long as no row did it is early. -/
structure Phased (w : World) (process : CallProcess) : Prop where
  steps : process.code.Guarantees World.Clean (Stepped process.call.executionId process.name)
  own : ∀ executionId, w.HeldBy executionId process.name →
    executionId = process.call.executionId
  phase : (w.Lost process.name ∧ Early process.name process.code) ∨
    Late process.name process.code

/-- Claims are held by processes of the system, and every process has its phase. -/
structure CallSystem.Sound (p : Platform) (system : CallSystem) : Prop where
  viewed : System.Viewed (callProgram p) World.Clean Kept NoGain system
  phased : ∀ process ∈ system.processes.rows, Phased system.world process
  named : ∀ executionId token, system.world.HeldBy executionId token →
    ∃ process ∈ system.processes.rows, process.name = token

theorem NoGain.heldBy (kept : NoGain token w w') (held : w'.HeldBy executionId token) :
    w.HeldBy executionId token := by
  obtain ⟨row, found, claimed⟩ := held
  exact kept executionId row found claimed

/-- A process that did not move keeps its phase. -/
theorem Phased.stay {process : CallProcess} (phased : Phased w process)
    (kept : NoGain process.name w w') : Phased w' process where
  steps := phased.steps
  own _ held := phased.own _ (kept.heldBy held)
  phase := phased.phase.imp_left fun ⟨lost, early⟩ => ⟨kept.lost lost, early⟩

/-- The next step of a process, in its phase. -/
theorem Phased.next {process : CallProcess} (phased : Phased w process) (clean : w.Clean)
    (input : Input) : Phased (process.effect input w) (process.next input w) ∧
      Stepped process.call.executionId process.name w (process.effect input w) := by
  obtain ⟨steps, own, phase⟩ := phased
  unfold Process.effect Process.next
  split
  case h_1 outcome ended => exact ⟨⟨steps, own, phase⟩, stepped_of_same rfl⟩
  case h_2 commit next code =>
    rw [code] at steps phase
    obtain ⟨stepped, later⟩ := steps input w clean
    refine ⟨⟨later, fun executionId held => ?_, ?_⟩, stepped⟩
    · by_contra different
      obtain ⟨row, found, claimed⟩ := held
      rw [stepped.others executionId different] at found
      exact different (own executionId ⟨row, found, claimed⟩)
    · rcases phase with ⟨lost, early⟩ | late
      · exact early input w lost
      · exact .inr (late input w).2

theorem sound_start : CallSystem.Sound p (System.start World.initial) where
  viewed := System.viewed_run (ordered_calls p) (fun _ listed => absurd listed List.not_mem_nil) []
  phased _ member := nomatch member
  named executionId _ held := by
    obtain ⟨row, found, -⟩ := held
    cases found

/-- Every move keeps the system sound. -/
theorem CallSystem.Sound.step {system : CallSystem} (sound : system.Sound p) (move : CallMove) :
    (CallSystem.step p system move).Sound p := by
  have viewed := (sound.viewed.step (ordered_calls p) move).1
  have stays : ∀ token, (∃ process ∈ system.processes.rows, process.name = token) →
      ∃ process ∈ (CallSystem.step p system move).processes.rows, process.name = token := by
    rintro _ ⟨process, member, rfl⟩
    obtain ⟨later, listed, same, -⟩ :=
      System.exists_step (callProgram p) Empty.elim system move member
    exact ⟨later, listed, same⟩
  rcases System.cases_step (callProgram p) Empty.elim system move with
    ⟨name, call, world, processes⟩ | ⟨input, mover, present, world, processes⟩ | ⟨processes, world⟩
  · -- a new process: no row can hold a token that no process has
    change (CallSystem.step p system move).world = _ at world
    refine ⟨viewed, fun process member => ?_, fun executionId token held => ?_⟩
    · rw [world]
      rcases processes process member with old | ⟨fresh, rfl⟩
      · exact sound.phased process old
      · have free : ∀ executionId, ¬ system.world.HeldBy executionId name := by
          intro executionId held
          obtain ⟨other, listed, named⟩ := sound.named executionId name held
          exact fresh other listed named
        exact ⟨ExecutionCall.guarantees_executeAuthorized call name,
          fun executionId held => absurd held (free executionId),
          .inl ⟨lost_iff.mpr free, ExecutionCall.early_executeAuthorized call name⟩⟩
    · rw [world] at held
      exact stays token (sound.named executionId token held)
  · -- a process takes a step, and the others gain nothing by it
    change (CallSystem.step p system move).world = _ at world
    obtain ⟨moved, stepped⟩ := (sound.phased mover present).next sound.viewed.valid input
    refine ⟨viewed, fun process member => ?_, fun executionId token held => ?_⟩
    · rw [world]
      rcases processes process member with ⟨old, other⟩ | rfl
      · exact (sound.phased process old).stay (stepped.noGain other)
      · exact moved
    · rw [world] at held
      by_cases mine : token = mover.name
      · exact stays token ⟨mover, present, mine.symm⟩
      · exact stays token
          (sound.named executionId token ((stepped.noGain mine).heldBy held))
  · -- nothing moves, and nobody else changes the world
    rcases world with world | ⟨change, -⟩
    · change (CallSystem.step p system move).world = _ at world
      refine ⟨viewed, fun process member => ?_, fun executionId token held => ?_⟩
      · rw [world]
        exact sound.phased process (processes ▸ member)
      · rw [world] at held
        exact stays token (sound.named executionId token held)
    · exact change.elim

/-! ## Claims that were lost -/

/-- The process of a token made its claim on an execution id. -/
structure Claimed (executionId token : Text) (system : CallSystem) : Prop where
  present : ∃ process ∈ system.processes.rows, process.name = token
  late : ∀ process ∈ system.processes.rows, process.name = token →
    process.call.executionId = executionId ∧ Late token process.code

theorem CallSystem.Sound.claimed {system : CallSystem} (sound : system.Sound p)
    (held : system.world.HeldBy executionId token) : Claimed executionId token system where
  present := sound.named executionId token held
  late process member named := by
    subst named
    have phased := sound.phased process member
    refine ⟨(phased.own executionId held).symm, phased.phase.resolve_left fun ⟨lost, _⟩ => ?_⟩
    exact lost_iff.mp lost executionId held

theorem Claimed.step {system : CallSystem} (claimed : Claimed executionId token system)
    (move : CallMove) : Claimed executionId token (CallSystem.step p system move) := by
  obtain ⟨⟨process, member, named⟩, late⟩ := claimed
  refine ⟨?_, fun later listed same => ?_⟩
  · obtain ⟨later, listed, same, -⟩ :=
      System.exists_step (callProgram p) Empty.elim system move member
    exact ⟨later, listed, same.trans named⟩
  rcases System.cases_step (callProgram p) Empty.elim system move with
    ⟨name, call, -, processes⟩ | ⟨input, mover, present, -, processes⟩ | ⟨processes, -⟩
  · rcases processes later listed with old | ⟨fresh, rfl⟩
    · exact late later old same
    · exact absurd (named.trans same.symm) (fresh process member)
  · rcases processes later listed with ⟨old, -⟩ | rfl
    · exact late later old same
    · rw [Process.name_next] at same
      obtain ⟨call, code⟩ := late mover present same
      rw [Process.call_next]
      refine ⟨call, ?_⟩
      unfold Process.next
      split
      · assumption
      · rename_i next shape
        rw [shape] at code
        exact (code input system.world).2
  · exact late later (processes ▸ listed) same

theorem Claimed.run {system : CallSystem} (claimed : Claimed executionId token system)
    (moves : List CallMove) :
    Claimed executionId token (Semantics.run (CallSystem.step p) system moves) := by
  have step : ∀ system move, Claimed executionId token system →
      Claimed executionId token (CallSystem.step p system move) :=
    fun _ move claimed => claimed.step move
  exact invariant_run step claimed moves

/-- The process of a token made its claim, lost it, and did not return. -/
structure Beaten (p : Platform) (executionId token : Text) (system : CallSystem) : Prop where
  sound : system.Sound p
  claimed : Claimed executionId token system
  lost : system.world.Lost token
  unanswered : ∀ process ∈ system.processes.rows, process.name = token →
    ∀ result, process.code ≠ .done (.ok result)

/-- A lost claim is never made again, and its process never returns. -/
theorem Beaten.step {system : CallSystem} (beaten : Beaten p executionId token system)
    (move : CallMove) : Beaten p executionId token (CallSystem.step p system move) := by
  obtain ⟨sound, claimed, lost, unanswered⟩ := beaten
  have claimed' := claimed.step (p := p) move
  rcases System.cases_step (callProgram p) Empty.elim system move with
    ⟨name, call, world, processes⟩ | ⟨input, mover, present, world, processes⟩ | ⟨processes, world⟩
  · change (CallSystem.step p system move).world = _ at world
    refine ⟨sound.step move, claimed', world ▸ lost, fun later listed same => ?_⟩
    rcases processes later listed with old | ⟨fresh, rfl⟩
    · exact unanswered later old same
    · obtain ⟨process, member, named⟩ := claimed.present
      exact absurd (named.trans same.symm) (fresh process member)
  · change (CallSystem.step p system move).world = _ at world
    have moved : (mover.effect input system.world).Lost token ∧
        (mover.name = token → ∀ result, (mover.next input system.world).code ≠ .done (.ok result)) := by
      by_cases mine : mover.name = token
      · have late := (claimed.late mover present mine).2
        have open_ := unanswered mover present mine
        unfold Process.effect Process.next
        split
        case h_1 outcome ended => exact ⟨lost, fun _ => open_⟩
        case h_2 commit next code =>
          rw [code] at late
          have kept := (late input system.world).1 lost
          exact ⟨kept.1, fun _ => kept.2⟩
      · have stepped := ((sound.phased mover present).next sound.viewed.valid input).2
        exact ⟨(stepped.noGain (Ne.symm mine)).lost lost, fun same => absurd same mine⟩
    refine ⟨sound.step move, claimed', world ▸ moved.1, fun later listed same => ?_⟩
    rcases processes later listed with ⟨old, -⟩ | rfl
    · exact unanswered later old same
    · rw [Process.name_next] at same
      exact moved.2 same
  · rcases world with world | ⟨change, -⟩
    · change (CallSystem.step p system move).world = _ at world
      exact ⟨sound.step move, claimed', world ▸ lost, fun later listed same =>
        unanswered later (processes ▸ listed) same⟩
    · exact change.elim

theorem Beaten.run {system : CallSystem} (beaten : Beaten p executionId token system)
    (moves : List CallMove) :
    Beaten p executionId token (Semantics.run (CallSystem.step p) system moves) := by
  have step : ∀ system move, Beaten p executionId token system →
      Beaten p executionId token (CallSystem.step p system move) :=
    fun _ move beaten => beaten.step move
  exact invariant_run step beaten moves

/-! ## The result -/

/-- A run of calls from an empty database. -/
def runCalls (p : Platform) (moves : List CallMove) : CallSystem :=
  run (CallSystem.step p) (System.start World.initial) moves

theorem CallSystem.Sound.run {system : CallSystem} (sound : system.Sound p)
    (moves : List CallMove) : (Semantics.run (CallSystem.step p) system moves).Sound p := by
  have step : ∀ system move, CallSystem.Sound p system →
      CallSystem.Sound p (CallSystem.step p system move) := fun _ move sound => sound.step move
  exact invariant_run step sound moves

/-- A result a call returned is stored, and read as that result. -/
theorem CallSystem.Sound.reads {system : CallSystem} (sound : system.Sound p)
    {process : CallProcess} (member : process ∈ system.processes.rows)
    {result : WorkloadExecutionResult} (returned : process.code = .done (.ok result)) :
    process.call.Reads p system.world result := by
  have viewed := sound.viewed.views process member
  obtain ⟨first, ran⟩ := viewed.ran
  rw [returned] at ran
  obtain ⟨w, seen, bytes, members, stored, parsed, read⟩ :=
    ExecutionCall.returned_executeAuthorized ran
  obtain ⟨row, found, stored⟩ := Option.bind_eq_some_iff.mp stored
  obtain ⟨row', found', -, -, kept⟩ := (viewed.past w seen).2 _ row found
  refine ⟨bytes, members, ?_, parsed, read⟩
  exact Option.bind_eq_some_iff.mpr ⟨row', found', kept bytes stored⟩

/-- A row that is claimed holds no result. -/
theorem stored_of_heldBy (clean : w.Clean) (held : w.HeldBy executionId token) :
    w.stored executionId = none := by
  obtain ⟨row, found, claimed⟩ := held
  rw [World.stored, found]
  exact clean.find? found (by rw [claimed]; exact Option.some_ne_none _)

/-- A process whose claim another one took over is beaten. -/
theorem beaten_of_takenOver {before : CallSystem} (sound : before.Sound p)
    (held : before.world.HeldBy executionId token) (moves : List CallMove)
    {other : Text} (different : other ≠ token)
    (taken : (run (CallSystem.step p) before moves).world.HeldBy executionId other) :
    Beaten p executionId token (run (CallSystem.step p) before moves) := by
  have sound' := sound.run moves
  have claimed := (sound.claimed held).run (p := p) moves
  refine ⟨sound', claimed, lost_iff.mpr fun executionId' held' => ?_, ?_⟩
  · -- its only row is the one that is claimed by the other
    obtain ⟨process, member, named⟩ := claimed.present
    have own := (sound'.phased process member).own executionId' (named ▸ held')
    rw [(claimed.late process member named).1] at own
    subst own
    obtain ⟨row, found, mine⟩ := held'
    obtain ⟨row', found', theirs⟩ := taken
    rw [found] at found'
    cases found'
    rw [mine] at theirs
    exact different (Option.some.inj theirs).symm
  · intro process member named result returned
    obtain ⟨bytes, -, stored, -⟩ := sound'.reads member returned
    rw [(claimed.late process member named).1] at stored
    rw [stored_of_heldBy sound'.viewed.valid taken] at stored
    cases stored

/-- The next step of a beaten process stores nothing. -/
theorem Beaten.stored {system : CallSystem} (beaten : Beaten p executionId token system)
    (input : Input) (executionId' : Text) :
    (CallSystem.step p system (.advance token input)).world.stored executionId' =
      system.world.stored executionId' := by
  obtain ⟨process, member, rfl⟩ := beaten.claimed.present
  have found := Table.find?_eq_some.mpr ⟨member, rfl⟩
  have effect : (CallSystem.step p system (.advance process.name input)).world =
      process.effect input system.world := by
    simp only [CallSystem.step, System.step, System.advance, found, Option.map_some,
      Option.getD_some]
  rw [effect]
  exact ((beaten.sound.phased process member).next beaten.sound.viewed.valid input).2.stored
    beaten.lost executionId'

/-- **Idempotency.** In every run of calls on one database, however their steps take
turns, whatever the provider answers and wherever a call stops: a row keeps the
digests it was entered with and a result that it holds; what a call returned is
stored under its execution id, so that calls of one execution id return one result;
and once another call has taken over the claim of a call, that call never returns
and stores nothing. -/
theorem execution_idempotent (p : Platform) (moves later : List CallMove) :
    let before := runCalls p moves
    let after := run (CallSystem.step p) before later
    Kept before.world after.world ∧
      (∀ process ∈ after.processes.rows, ∀ result, process.code = .done (.ok result) →
        process.call.Reads p after.world result) ∧
      (∀ one ∈ after.processes.rows, ∀ two ∈ after.processes.rows, ∀ result result',
        one.call.executionId = two.call.executionId → one.code = .done (.ok result) →
        two.code = .done (.ok result') → result = result') ∧
      ∀ executionId token other, other ≠ token → before.world.HeldBy executionId token →
        after.world.HeldBy executionId other →
        after.world.stored executionId = none ∧
        ∀ more, ∀ process ∈ (run (CallSystem.step p) after more).processes.rows,
          process.name = token → (∀ result, process.code ≠ .done (.ok result)) ∧
          ∀ input executionId',
            (CallSystem.step p (run (CallSystem.step p) after more)
              (.advance token input)).world.stored executionId' =
            (run (CallSystem.step p) after more).world.stored executionId' := by
  intro before after
  have start : before.Sound p := sound_start.run moves
  have sound : after.Sound p := start.run later
  refine ⟨System.kept_run (ordered_calls p) start.viewed later,
    fun process member result returned => sound.reads member returned, ?_, ?_⟩
  · intro one member two member' result result' same returned returned'
    obtain ⟨bytes, members, stored, parsed, read⟩ := sound.reads member returned
    obtain ⟨bytes', members', stored', parsed', read'⟩ := sound.reads member' returned'
    rw [same, stored'] at stored
    cases stored
    rw [parsed'] at parsed
    cases parsed
    exact ExecutionCall.readResult_unique read read'
  · intro executionId token other different held taken
    refine ⟨stored_of_heldBy sound.viewed.valid taken, fun more process member named => ?_⟩
    have beaten := (beaten_of_takenOver start held later different taken).run more
    exact ⟨beaten.unanswered process member named, beaten.stored⟩

end Cathedral.Workload
