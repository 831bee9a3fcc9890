import CathedralCompute.Registry.Terminal
import CathedralCompute.Semantics.Roster

/-!
# Capacity

The caps are checked when a worker enrolls, against the workers that consume
capacity at that moment. They hold in every later state as long as no worker
starts to consume capacity in another way.

There are such ways. A failed worker is free, and a retirement or a revocation
makes it consume capacity again without a look at the caps. `Op.KeepsCapacity`
leaves these out, and a run that does stays within all three caps.

## Main results

* `capacity_within_caps` — the caps over runs that keep capacity
* `not_capacity_within_caps_retired` — a run that retires a failed worker and
  exceeds the cap on all workers
-/

set_option autoImplicit false

namespace Cathedral.Registry

open Codec Semantics WorkerLifecycleState

/-! ## The caps and the condition -/

/-- The enrollments of the workers that consume capacity. -/
def consumingWorkers (s : State) : List EnrollmentRow :=
  s.enrollments.select fun row =>
    ∃ current ∈ s.current.find? row.hotkey, current.state ∈ capacityConsumingStates

/-- The three caps. -/
structure Capped (total perColdkey : ℕ) (s : State) : Prop where
  total : (s.current.select fun row => row.state ∈ capacityConsumingStates).length ≤ total
  endpoints : ∀ first ∈ consumingWorkers s, ∀ second ∈ consumingWorkers s,
    first.endpointCanonical = second.endpointCanonical → first = second
  coldkeys : ∀ key, (((consumingWorkers s).filter fun row => row.coldkey = some key).map
    EnrollmentRow.endpointCanonical).dedup.length ≤ perColdkey

/-- Enrollments are made under the caps. -/
def Op.UnderCaps (total perColdkey : ℕ) : Op → Prop
  | enroll a _ _ => a.maxTotalEnrollments = some (total : ℤ) ∧
      a.maxEndpointsPerColdkey = some (perColdkey : ℤ) ∧ a.uniqueEndpoint = true ∧
      a.refuseTerminal = true
  | _ => True

/-- The states that consume capacity and that a failed worker can move to. -/
def revivals : List WorkerLifecycleState := [.retiring, .revoked]

/-- The operation makes no worker consume capacity that did not, except by an
enrollment that the caps look at: no failed worker is retired, revoked or
re-enrolled by name, and none with a coldkey moves to another endpoint without
naming one. -/
def Op.KeepsCapacity (s : State) : Op → Prop
  | transitionLifecycle hotkey target _ _ _ _ _ => ∀ row ∈ s.current.find? hotkey,
      row.state = .failed → target ∉ revivals
  | retireLifecycle hotkey removed _ => ∀ row ∈ s.current.find? hotkey,
      row.state = .failed → removed = true
  | reenrollLifecycle hotkey _ _ _ => ∀ row ∈ s.current.find? hotkey,
      row.state ∈ capacityConsumingStates
  | enroll a _ _ => a.coldkey = none → ∀ prior ∈ s.enrollments.find? a.hotkey,
      prior.coldkey ≠ none → prior.endpointUrl ≠ a.endpointUrl →
      ∀ row ∈ s.current.find? a.hotkey, row.state ≠ .failed
  | _ => True

/-! ## The roster of a database -/

/-- The live workers, with their endpoints and coldkeys. -/
def roster (s : State) : Roster Text Text Text where
  members := ((s.enrollments.select fun row => s.Live row.hotkey).map
    EnrollmentRow.hotkey).toFinset
  place hotkey := ((s.enrollments.find? hotkey).map EnrollmentRow.endpointCanonical).getD []
  owner hotkey := (s.enrollments.find? hotkey).bind EnrollmentRow.coldkey

theorem mem_roster {s : State} {hotkey : Text} :
    hotkey ∈ (roster s).members ↔ (∃ row, s.enrollments.find? hotkey = some row) ∧ s.Live hotkey := by
  simp only [roster, List.mem_toFinset, List.mem_map, Table.mem_select]
  constructor
  · rintro ⟨row, ⟨member, live⟩, rfl⟩
    exact ⟨⟨row, Table.find?_eq_some.mpr ⟨member, rfl⟩⟩, live⟩
  · rintro ⟨⟨row, found⟩, live⟩
    obtain ⟨member, rfl⟩ := Table.find?_eq_some.mp found
    exact ⟨row, ⟨member, live⟩, rfl⟩

theorem live_of_found {s : State} {hotkey : Text} {row : SnapshotFields}
    (found : s.current.find? hotkey = some row)
    (consuming : row.state ∈ capacityConsumingStates) : s.Live hotkey := by
  intro other found'
  rw [Option.mem_def, found] at found'
  cases found'
  exact consuming

/-- Every worker with a lifecycle is enrolled. -/
def Enlisted (s : State) : Prop :=
  ∀ hotkey, (s.current.find? hotkey).isSome → (s.enrollments.find? hotkey).isSome

/-- The live workers that consume capacity are within the caps if all are. -/
theorem capped_of_within {total perColdkey : ℕ} {s : State} (enlisted : Enlisted s)
    (within : (roster s).Within total perColdkey) : Capped total perColdkey s := by
  have live : ∀ row ∈ consumingWorkers s, s.enrollments.find? row.hotkey = some row ∧
      row.hotkey ∈ (roster s).members := by
    intro row member
    obtain ⟨member, current, found, consuming⟩ := Table.mem_select.mp member
    have enrolled := Table.find?_eq_some.mpr ⟨member, rfl⟩
    exact ⟨enrolled, mem_roster.mpr ⟨⟨row, enrolled⟩, live_of_found found consuming⟩⟩
  refine ⟨?_, ?_, fun key => ?_⟩
  · -- the hotkeys of the lifecycle rows are members of the roster
    have nodup : ((s.current.select fun row => row.state ∈ capacityConsumingStates).map
        SnapshotFields.hotkey).Nodup :=
      s.current.unique.sublist (List.Sublist.map _ List.filter_sublist)
    have subset : ((s.current.select fun row => row.state ∈ capacityConsumingStates).map
        SnapshotFields.hotkey).toFinset ⊆ (roster s).members := by
      intro hotkey member
      obtain ⟨row, selected, rfl⟩ := List.mem_map.mp (List.mem_toFinset.mp member)
      obtain ⟨inside, consuming⟩ := Table.mem_select.mp selected
      have found := Table.find?_eq_some.mpr ⟨inside, rfl⟩
      have enrolled := enlisted row.hotkey (by rw [found]; rfl)
      exact mem_roster.mpr ⟨Option.isSome_iff_exists.mp enrolled, live_of_found found consuming⟩
    have bound := (Finset.card_le_card subset).trans within.total
    rwa [List.toFinset_card_of_nodup nodup, List.length_map] at bound
  · -- two members with one endpoint are one worker
    intro first member second member' same
    obtain ⟨found, inside⟩ := live first member
    obtain ⟨found', inside'⟩ := live second member'
    have keyed := within.apart _ inside _ inside' (by simpa [roster, found, found'] using same)
    rw [keyed, found'] at found
    exact (Option.some.inj found).symm
  · -- the endpoints of a coldkey are among those it holds
    have subset : (((consumingWorkers s).filter fun row => row.coldkey = some key).map
        EnrollmentRow.endpointCanonical).toFinset ⊆ (roster s).held key := by
      intro endpoint member
      obtain ⟨row, selected, rfl⟩ := List.mem_map.mp (List.mem_toFinset.mp member)
      obtain ⟨consuming, owned⟩ := List.mem_filter.mp selected
      obtain ⟨found, inside⟩ := live row consuming
      refine Finset.mem_image.mpr ⟨row.hotkey, Finset.mem_filter.mpr ⟨inside, ?_⟩, ?_⟩
      · simpa [roster, found] using owned
      · simp [roster, found]
    rw [← List.card_toFinset]
    exact (Finset.card_le_card subset).trans (within.owners key)

/-! ## Operations that bring in nobody -/

/-- The enrollments stay, and nobody comes to life. -/
structure Thins (s s' : State) : Prop where
  enrollments : s'.enrollments = s.enrollments
  live : ∀ hotkey, s'.Live hotkey → s.Live hotkey
  enlisted : Enlisted s → Enlisted s'

theorem Thins.refl (s : State) : Thins s s := ⟨rfl, fun _ live => live, fun enlisted => enlisted⟩

theorem Thins.trans {a b c : State} (first : Thins a b) (second : Thins b c) : Thins a c :=
  ⟨second.enrollments.trans first.enrollments,
    fun hotkey live => first.live hotkey (second.live hotkey live),
    fun enlisted => second.enlisted (first.enlisted enlisted)⟩

theorem Thins.within {total perColdkey : ℕ} {s s' : State} (thins : Thins s s')
    (within : (roster s).Within total perColdkey) : (roster s').Within total perColdkey := by
  refine within.leave (fun hotkey member => ?_) ⟨fun hotkey _ => ?_, fun hotkey _ => ?_⟩
  · obtain ⟨⟨row, found⟩, live⟩ := mem_roster.mp member
    rw [thins.enrollments] at found
    exact mem_roster.mpr ⟨⟨row, found⟩, thins.live hotkey live⟩
  · simp only [roster, thins.enrollments]
  · simp only [roster, thins.enrollments]

/-- The transition table lets only failed workers come back to consuming
capacity. -/
theorem consuming_of_allowedTransitions {state target : WorkerLifecycleState}
    (legal : target ∈ state.allowedTransitions) (consuming : target ∈ capacityConsumingStates)
    (spared : state = .failed → target ∉ revivals) : state ∈ capacityConsumingStates := by
  revert legal consuming spared
  cases state <;> cases target <;> decide

/-- A recorded event brings in nobody, if its worker was live. -/
theorem Recorded.thins {s s' : State} {event : EventRow} {row : SnapshotFields}
    (recorded : Recorded s s' event row)
    (enrolled : Enlisted s → (s.enrollments.find? event.hotkey).isSome)
    (live : row.state ∈ capacityConsumingStates → s.Live event.hotkey) : Thins s s' := by
  refine ⟨recorded.enrollments, fun hotkey alive => ?_, fun enlisted hotkey listed => ?_⟩
  · by_cases same : hotkey = event.hotkey
    · rw [same] at alive ⊢
      exact live (alive row recorded.row)
    · unfold State.Live at alive ⊢
      rwa [recorded.others hotkey same] at alive
  · rw [recorded.enrollments]
    by_cases same : hotkey = event.hotkey
    · rw [same]
      exact enrolled enlisted
    · rw [recorded.others hotkey same] at listed
      exact enlisted hotkey listed

/-- A scope whose writes bring in nobody. -/
structure Scope.Thinning (scope : Scope) : Prop where
  moves : ∀ current target reason a, scope.moves current target reason a →
    current.state = .failed → target ∉ revivals
  renews : ∀ current reason, scope.renews current reason → current.state ∈ capacityConsumingStates
  enrolls : ¬ scope.enrolls

/-- The widest of them. -/
def Scope.thinning : Scope :=
  { Scope.idle with
    begins := fun _ _ _ => True
    moves := fun current target _ _ => current.state = .failed → target ∉ revivals
    renews := fun current _ => current.state ∈ capacityConsumingStates
    attests := True }

theorem Scope.thinning_thinning : Scope.thinning.Thinning :=
  ⟨fun _ _ _ _ spared => spared, fun _ _ consuming => consuming, fun no => no⟩

theorem thins_of_write {scope : Scope} (thinning : scope.Thinning) {s s' : State}
    (write : Write scope s s') : Thins s s' := by
  cases write with
  | advance when allowed result =>
    subst result
    exact ⟨rfl, fun _ live => live, fun enlisted => enlisted⟩
  | other same enrollments _ =>
    have enrollments := enrollments.resolve_left thinning.enrolls
    refine ⟨enrollments, fun hotkey live => ?_, fun enlisted hotkey listed => ?_⟩
    · unfold State.Live at live ⊢
      rwa [same.current] at live
    · rw [same.current] at listed
      rw [enrollments]
      exact enlisted hotkey listed
  | begin name state reason when evidence allowed clocked enrolled absent recorded =>
    refine recorded.thins (fun _ => enrolled) fun _ row found => ?_
    have found : s.current.find? name = some row := found
    rw [absent] at found
    cases found
  | move current target reason when a allowed moved =>
    obtain ⟨detail, recorded⟩ := moved.recorded
    refine recorded.thins (fun enlisted => ?_) fun consuming => ?_
    · exact enlisted current.hotkey (by rw [moved.found]; rfl)
    · exact live_of_found moved.found
        (consuming_of_allowedTransitions moved.legal consuming (thinning.moves _ _ _ _ allowed))
  | renew current reason when allowed renewed =>
    refine renewed.recorded.thins (fun enlisted => ?_) fun _ => ?_
    · exact enlisted current.hotkey (by rw [renewed.found]; rfl)
    · exact live_of_found renewed.found (thinning.renews _ _ allowed)

theorem thins_of_writes {scope : Scope} (thinning : scope.Thinning) {s s' : State}
    (writes : Writes scope s s') : Thins s s' :=
  Writes.relation Thins.refl Thins.trans (thins_of_write thinning) writes

/-- Only the lifecycle of one worker changes, which has one. -/
structure Touches (hotkey : Text) (s s' : State) : Prop where
  enrollments : s'.enrollments = s.enrollments
  others : ∀ other, other ≠ hotkey → s'.current.find? other = s.current.find? other
  listed : (s.current.find? hotkey).isSome

theorem Touches.trans {hotkey : Text} {a b c : State} (first : Touches hotkey a b)
    (second : Touches hotkey b c) : Touches hotkey a c :=
  ⟨second.enrollments.trans first.enrollments,
    fun other different => (second.others other different).trans (first.others other different),
    first.listed⟩

theorem touches_of_transition {p : Platform} {hotkey : Text} {target : WorkerLifecycleState}
    {reason : LifecycleReason} {when : Instant} {a : TransitionArguments} {s s' : State}
    {snapshot : LifecycleSnapshot}
    (transitioned : transitionLifecycleInConnection p hotkey target reason when a s =
      .ok (snapshot, s')) :
    Touches hotkey s s' ∧ ∃ row, s'.current.find? hotkey = some row ∧ row.state = target := by
  obtain ⟨current, found, rfl, -, moved⟩ := transition_cases transitioned
  obtain ⟨detail, recorded⟩ := moved.recorded
  exact ⟨⟨recorded.enrollments, recorded.others, by rw [found]; rfl⟩, _, recorded.row, rfl⟩

/-- Where one worker changes and ends free of capacity, nobody comes to life. -/
theorem Touches.thins {hotkey : Text} {s s' : State} (touches : Touches hotkey s s')
    (free : ¬ s'.Live hotkey) : Thins s s' := by
  refine ⟨touches.enrollments, fun other live => ?_, fun enlisted other listed => ?_⟩
  · have different : other ≠ hotkey := by
      rintro rfl
      exact free live
    unfold State.Live at live ⊢
    rwa [touches.others other different] at live
  · rw [touches.enrollments]
    by_cases same : other = hotkey
    · rw [same]
      exact enlisted hotkey touches.listed
    · rw [touches.others other same] at listed
      exact enlisted other listed

/-- A retirement that is no removal brings in nobody, if the worker has not
failed; one that is a removal never does. -/
theorem thins_of_retire {p : Platform} {hotkey : Text} {removed : Bool} {when : Instant}
    {s s' : State} {snapshot : LifecycleSnapshot}
    (retired : retireLifecycle p hotkey removed when s = .ok (snapshot, s'))
    (spared : ∀ row ∈ s.current.find? hotkey, row.state = .failed → removed = true) :
    Thins s s' := by
  simp only [retireLifecycle, bind_eq_ok] at retired
  obtain ⟨s₁, advanced, old, read, rest⟩ := retired
  obtain ⟨-, rfl⟩ := advanceLifecycleClock_eq_ok advanced
  have clocked : Thins s { s with clock := some when } :=
    ⟨rfl, fun _ live => live, fun enlisted => enlisted⟩
  refine clocked.trans ?_
  by_cases terminal : old.fields.state ∈ WorkerLifecycleState.terminalStates
  · rw [if_pos terminal, pure_eq_ok] at rest
    cases rest
    exact .refl _
  rw [if_neg terminal] at rest
  simp only [bind_eq_ok] at rest
  obtain ⟨⟨retiring, s₂⟩, begun, rest⟩ := rest
  cases removed with
  | false =>
    simp only [Bool.false_eq_true, if_false, pure_eq_ok, Prod.mk.injEq] at rest
    obtain ⟨-, rfl⟩ := rest
    unfold beginRetirement at begun
    split at begun
    · cases begun
      exact .refl _
    · refine thins_of_writes Scope.thinning_thinning (writes_of_transition begun ?_)
      intro current found' _ failed
      exact absurd (spared current found' failed) Bool.false_ne_true
  | true =>
    -- the worker passes through `retiring` within the transaction
    obtain ⟨last, row, ended, state⟩ := touches_of_transition rest
    have free : ¬ s'.Live hotkey := by
      intro live
      have consuming := live row ended
      rw [state] at consuming
      revert consuming
      decide
    unfold beginRetirement at begun
    split at begun
    · cases begun
      exact last.thins free
    · exact ((touches_of_transition begun).1.trans last).thins free

/-! ## Enrolling -/

section Enrolling

variable {p : Platform} {a : EnrollArguments} {s s' : State} {when : Instant}

/-- What the caps promise of the workers that are already there. -/
structure Room (total perColdkey : ℕ) (s : State) (a : EnrollArguments) (canonical : Text) :
    Prop where
  inService : ∀ row ∈ s.current.find? a.hotkey, row.state ∉ withdrawnStates
  total : ((roster s).members.erase a.hotkey).card < total
  unclaimed : ∀ other ∈ (roster s).members.erase a.hotkey, (roster s).place other ≠ canonical
  coldkey : ∀ key ∈ a.coldkey,
    ((roster s).placesOf ((roster s).members.erase a.hotkey) key).card < perColdkey

theorem erase_roster (s : State) (hotkey : Text) : (roster s).members.erase hotkey =
    ((liveOthers s hotkey).map EnrollmentRow.hotkey).toFinset := by
  ext other
  simp only [Finset.mem_erase, roster, liveOthers, List.mem_toFinset, List.mem_map,
    Table.mem_select]
  constructor
  · rintro ⟨different, row, ⟨member, live⟩, rfl⟩
    exact ⟨row, ⟨member, live, different⟩, rfl⟩
  · rintro ⟨row, ⟨member, live, different⟩, rfl⟩
    exact ⟨different, row, ⟨member, live⟩, rfl⟩

theorem card_erase_roster (s : State) (hotkey : Text) :
    ((roster s).members.erase hotkey).card = (liveOthers s hotkey).length := by
  have nodup : ((liveOthers s hotkey).map EnrollmentRow.hotkey).Nodup :=
    s.enrollments.unique.sublist (List.Sublist.map _ List.filter_sublist)
  rw [erase_roster, List.toFinset_card_of_nodup nodup, List.length_map]

/-- Another live worker is found with its enrollment. -/
theorem exists_liveOther {hotkey other : Text} (member : other ∈ (roster s).members.erase hotkey) :
    ∃ row ∈ liveOthers s hotkey, s.enrollments.find? other = some row := by
  rw [erase_roster, List.mem_toFinset, List.mem_map] at member
  obtain ⟨row, live, rfl⟩ := member
  exact ⟨row, live, Table.find?_eq_some.mpr ⟨(Table.mem_select.mp live).1, rfl⟩⟩

/-- The places a coldkey holds through the others are those the cap counts. -/
theorem placesOf_roster (s : State) (hotkey key : Text) :
    (roster s).placesOf ((roster s).members.erase hotkey) key ⊆
      (heldEndpoints s hotkey key).toFinset := by
  intro place inside
  obtain ⟨other, member, rfl⟩ := Finset.mem_image.mp inside
  obtain ⟨member, owned⟩ := Finset.mem_filter.mp member
  obtain ⟨row, live, found⟩ := exists_liveOther member
  have owned : row.coldkey = some key := by simpa [roster, found] using owned
  rw [List.mem_toFinset, heldEndpoints, List.mem_dedup, List.mem_map]
  refine ⟨row, List.mem_filter.mpr ⟨live, by simpa using owned⟩, ?_⟩
  simp [roster, found]

/-- **The caps.** An enrollment that passes them finds room. -/
theorem room_of_caps {total perColdkey : ℕ} {ts : Instant} {canonical : Text}
    (under : (Op.enroll a ts when).UnderCaps total perColdkey)
    (keyed : canonicalEndpointKey p a.endpointUrl = .ok canonical)
    (capped : enforceEnrollmentCaps p a s = .ok ()) : Room total perColdkey s a canonical := by
  obtain ⟨totalCap, coldkeyCap, unique, refuse⟩ := under
  simp only [enforceEnrollmentCaps, requireUnclaimed, requireColdkeyCap, requireTotalCap, keyed,
    unique, refuse, checkIf, if_true, bind_eq_ok, require_eq_ok] at capped
  obtain ⟨_, refused, _, ⟨⟩, -, unclaimed, -, coldkey, bounded⟩ := capped
  have unclaimed' : ∀ other ∈ (roster s).members.erase a.hotkey,
      (roster s).place other ≠ canonical := by
    intro other member
    obtain ⟨row, live, found⟩ := exists_liveOther member
    simpa [roster, found] using unclaimed row live
  refine ⟨?_, ?_, unclaimed', ?_⟩
  · intro row found
    rw [refuseOutOfService, Option.mem_def.mp found] at refused
    simp only [bind_eq_ok, require_eq_ok] at refused
    obtain ⟨-, terminal, retiring⟩ := refused
    revert terminal retiring
    unfold withdrawnStates
    cases row.state <;> decide
  · rw [card_erase_roster]
    exact_mod_cast bounded total (by rw [totalCap]; rfl)
  · intro key given
    -- the endpoint is none of the others', so the cap counts it as a new one
    rcases coldkey perColdkey (by rw [coldkeyCap]; rfl) key given with inside | fewer
    · rw [heldEndpoints, List.mem_dedup, List.mem_map] at inside
      obtain ⟨row, live, same⟩ := inside
      exact absurd same (unclaimed row (List.mem_of_mem_filter live))
    · have bound := Finset.card_le_card (placesOf_roster s a.hotkey key)
      have nodup : (heldEndpoints s a.hotkey key).Nodup := List.nodup_dedup _
      rw [List.toFinset_card_of_nodup nodup] at bound
      omega

/-- What an enrollment leaves. -/
structure Enrolled (s s' : State) (a : EnrollArguments) (canonical : Text) : Prop where
  others : ∀ other, other ≠ a.hotkey → s'.enrollments.find? other = s.enrollments.find? other
  own : ∃ row, s'.enrollments.find? a.hotkey = some row ∧ row.endpointCanonical = canonical ∧
    row.coldkey = (a.coldkey <|> (s.enrollments.find? a.hotkey).bind EnrollmentRow.coldkey)
  rows : ∀ other, other ≠ a.hotkey → s'.current.find? other = s.current.find? other
  same : ∀ prior ∈ s.enrollments.find? a.hotkey, prior.endpointUrl = a.endpointUrl →
    s'.current.find? a.hotkey = s.current.find? a.hotkey

theorem enrolled_of_new {canonical : Text} {ts : Instant}
    (absent : s.enrollments.find? a.hotkey = none)
    (enrolled : enrollNew a canonical ts when s = .ok s') : Enrolled s s' a canonical := by
  simp only [enrollNew, insertInitialLifecycle, bind_eq_ok, demand_eq_ok, pure_eq_ok] at enrolled
  obtain ⟨enrollments, placed, s₁, advanced, ⟨eventId, s₂⟩, appended, current, first, rfl⟩ :=
    enrolled
  obtain ⟨-, rfl⟩ := advanceLifecycleClock_eq_ok advanced
  obtain ⟨rfl, -, events, -, rfl⟩ := insertEvent_eq_ok appended
  refine ⟨fun other different => ?_, ⟨.fresh a canonical ts, ?_, rfl, ?_⟩,
    fun other different => ?_, fun prior found => ?_⟩
  · exact (Table.find?_insert placed other).trans (if_neg (Ne.symm different))
  · exact (Table.find?_insert placed a.hotkey).trans (if_pos rfl)
  · show a.coldkey = _
    rw [absent]
    cases a.coldkey <;> rfl
  · exact (Table.find?_insert first other).trans (if_neg (Ne.symm different))
  · rw [absent] at found
    cases found

theorem enrolled_of_again {canonical : Text} {ts : Instant} {prior : EnrollmentRow}
    (found : s.enrollments.find? a.hotkey = some prior)
    (enrolled : enrollAgain p a prior canonical ts when s = .ok s') :
    Enrolled s s' a canonical := by
  have keyed := (Table.find?_eq_some.mp found).2
  -- the enrollment is refreshed in either case
  have refreshed : ∀ s₁ : State, s₁.enrollments = s.enrollments.update
      (fun row => row.hotkey = a.hotkey) (fun row => row.refresh a canonical ts) →
      (∀ other, other ≠ a.hotkey → s₁.enrollments.find? other = s.enrollments.find? other) ∧
      ∃ row, s₁.enrollments.find? a.hotkey = some row ∧ row.endpointCanonical = canonical ∧
        row.coldkey = (a.coldkey <|> (s.enrollments.find? a.hotkey).bind EnrollmentRow.coldkey) := by
    intro s₁ updated
    rw [updated]
    refine ⟨fun other different => ?_, prior.refresh a canonical ts, ?_, rfl, ?_⟩
    · rw [Table.find?_update]
      cases old : s.enrollments.find? other with
      | none => rfl
      | some row =>
        have named := (Table.find?_eq_some.mp old).2
        rw [Option.map_some, if_neg (named ▸ different)]
    · rw [Table.find?_update, found, Option.map_some, if_pos keyed]
    · rw [found]
      rfl
  unfold enrollAgain at enrolled
  by_cases changed : prior.endpointUrl ≠ a.endpointUrl
  · simp only [if_pos changed, bind_eq_ok, pure_eq_ok] at enrolled
    obtain ⟨⟨_, s₁⟩, reenrolled, rfl⟩ := enrolled
    obtain ⟨current, -, named, -, -, renewed⟩ := reenroll_cases reenrolled
    obtain ⟨others, own⟩ := refreshed s₁ renewed.recorded.enrollments
    refine ⟨others, own, fun other different => ?_, fun prior' found' same => ?_⟩
    · have different : other ≠ current.hotkey := named ▸ different
      exact renewed.recorded.others other different
    · rw [found] at found'
      cases found'
      exact absurd same changed
  · simp only [if_neg changed, pure_eq_ok] at enrolled
    subst enrolled
    obtain ⟨others, own⟩ := refreshed { s with
      enrollments := s.enrollments.update (fun row => row.hotkey = a.hotkey)
        (fun row => row.refresh a canonical ts) } rfl
    exact ⟨others, own, fun _ _ => rfl, fun _ _ _ => rfl⟩

theorem enrolled_of_enroll {ts : Instant} {u : Unit}
    (enrolled : enroll p a ts when s = .ok (u, s')) :
    ∃ canonical, canonicalEndpointKey p a.endpointUrl = .ok canonical ∧
      enforceEnrollmentCaps p a s = .ok () ∧ Enrolled s s' a canonical := by
  obtain ⟨canonical, nonces, keyed, capped, written⟩ := enroll_cases enrolled
  refine ⟨canonical, keyed, capped, ?_⟩
  have after : Enrolled { s with nonces := nonces } s' a canonical := by
    unfold enrollWorker at written
    split at written
    case h_1 absent => exact enrolled_of_new absent written
    case h_2 prior found => exact enrolled_of_again found written
  exact ⟨after.others, after.own, after.rows, after.same⟩

theorem Enrolled.enlisted {canonical : Text} (enrolled : Enrolled s s' a canonical)
    (enlisted : Enlisted s) : Enlisted s' := by
  intro hotkey listed
  by_cases same : hotkey = a.hotkey
  · obtain ⟨row, found, -⟩ := enrolled.own
    rw [same, found]
    rfl
  · rw [enrolled.rows hotkey same] at listed
    rw [enrolled.others hotkey same]
    exact enlisted hotkey listed

/-- The other workers are who and where they were. -/
theorem Enrolled.erase_roster {canonical : Text} (enrolled : Enrolled s s' a canonical) :
    (roster s').members.erase a.hotkey = (roster s).members.erase a.hotkey := by
  ext other
  simp only [Finset.mem_erase, mem_roster, State.Live]
  refine and_congr_right fun different => ?_
  rw [enrolled.others other different, enrolled.rows other different]

theorem Enrolled.agrees {canonical : Text} (enrolled : Enrolled s s' a canonical) :
    Roster.AgreesOn ((roster s).members.erase a.hotkey) (roster s) (roster s') := by
  refine ⟨fun other member => ?_, fun other member => ?_⟩
  · simp only [roster, enrolled.others other (Finset.ne_of_mem_erase member)]
  · simp only [roster, enrolled.others other (Finset.ne_of_mem_erase member)]

/-- A live worker of a coldkey leaves the coldkey room for it, whether the
enrollment names the coldkey or keeps it. -/
theorem Enrolled.share {total perColdkey : ℕ} {canonical : Text} {ts : Instant}
    (enrolled : Enrolled s s' a canonical) (room : Room total perColdkey s a canonical)
    (keeps : (Op.enroll a ts when).KeepsCapacity s)
    (within : (roster s).Within total perColdkey) (live : s'.Live a.hotkey) (key : Text)
    (owned : (roster s').owner a.hotkey = some key) :
    ((roster s).placesOf ((roster s).members.erase a.hotkey) key).card < perColdkey := by
  obtain ⟨row, found, -, coldkey⟩ := enrolled.own
  have owned : row.coldkey = some key := by simpa [roster, found] using owned
  cases given : a.coldkey with
  | some named =>
    rw [coldkey, given] at owned
    have same : named = key := Option.some.inj owned
    exact same ▸ room.coldkey named given
  | none =>
    -- the coldkey is that of an enrollment the worker already has
    rw [coldkey, given] at owned
    have owned : (s.enrollments.find? a.hotkey).bind EnrollmentRow.coldkey = some key := owned
    obtain ⟨prior, found', kept⟩ := Option.bind_eq_some_iff.mp owned
    have alive : s.Live a.hotkey := by
      by_contra dead
      unfold State.Live at dead
      push Not at dead
      obtain ⟨current, listed, free⟩ := dead
      have failed : current.state = .failed := by
        have inside := room.inService current listed
        revert inside free
        unfold withdrawnStates
        cases current.state <;> decide
      by_cases moved : prior.endpointUrl = a.endpointUrl
      · unfold State.Live at live
        rw [enrolled.same prior found' moved] at live
        exact free (live current listed)
      · exact keeps given prior found' (by rw [kept]; exact Option.some_ne_none key) moved current
          listed failed
    exact within.share_of_member (mem_roster.mpr ⟨⟨prior, found'⟩, alive⟩) owned

/-- An enrollment under the caps stays within them. -/
theorem Enrolled.within {total perColdkey : ℕ} {canonical : Text} {ts : Instant}
    (enrolled : Enrolled s s' a canonical) (room : Room total perColdkey s a canonical)
    (keeps : (Op.enroll a ts when).KeepsCapacity s)
    (within : (roster s).Within total perColdkey) : (roster s').Within total perColdkey := by
  obtain ⟨row, found, keyed, -⟩ := enrolled.own
  by_cases live : s'.Live a.hotkey
  · refine within.enter enrolled.erase_roster enrolled.agrees room.total ?_
      (enrolled.share room keeps within live)
    have place : (roster s').place a.hotkey = canonical := by simp [roster, found, keyed]
    rw [place]
    exact room.unclaimed
  · -- the worker is not counted, so only others are
    have absent : a.hotkey ∉ (roster s').members := fun member => live (mem_roster.mp member).2
    have fewer : (roster s').members = (roster s).members.erase a.hotkey := by
      rw [← enrolled.erase_roster, Finset.erase_eq_of_notMem absent]
    exact within.leave (fewer ▸ Finset.erase_subset _ _) (fewer ▸ enrolled.agrees)

end Enrolling

/-! ## Runs -/

/-- Every worker with a lifecycle is enrolled, and the live ones are within the
caps. -/
structure Bounded (total perColdkey : ℕ) (s : State) : Prop where
  enlisted : Enlisted s
  within : (roster s).Within total perColdkey

theorem Bounded.initial (total perColdkey : ℕ) : Bounded total perColdkey .initial where
  enlisted _ listed := by cases listed
  within := ⟨Nat.zero_le _, fun _ member => absurd member (Finset.notMem_empty _),
    fun _ => Nat.zero_le _⟩

theorem Thins.bounded {total perColdkey : ℕ} {s s' : State} (thins : Thins s s')
    (bounded : Bounded total perColdkey s) : Bounded total perColdkey s' :=
  ⟨thins.enlisted bounded.enlisted, thins.within bounded.within⟩

/-- An operation whose scope brings in nobody stays within the caps. -/
theorem Bounded.commit {p : Platform} {total perColdkey : ℕ} {s s' : State} {op : Op}
    (bounded : Bounded total perColdkey s) (committed : op.commit p s = .ok s')
    (moves : ∀ current target reason a, (op.scope p).moves current target reason a →
      current.state = .failed → target ∉ revivals)
    (renews : ∀ current reason, ¬ (op.scope p).renews current reason)
    (enrolls : ¬ (op.scope p).enrolls) : Bounded total perColdkey s' := by
  have thinning : (op.scope p).Thinning :=
    ⟨moves, fun current reason allowed => absurd allowed (renews current reason), enrolls⟩
  exact (thins_of_writes thinning (writes_of_commit committed)).bounded bounded

theorem FailureMove.spared {hotkey : Text} {when : Instant} {current : SnapshotFields}
    {target : WorkerLifecycleState} {reason : LifecycleReason} {a : TransitionArguments}
    (move : FailureMove hotkey when current target reason a) (failed : current.state = .failed) :
    target ∉ revivals := by
  refine absurd ?_ move.2.1
  right
  rw [failed]
  decide

theorem AttestedMove.spared {p : Platform} {ttl : ℕ} {hotkey : Text} {attested : Attested}
    {current : SnapshotFields} {target : WorkerLifecycleState} {reason : LifecycleReason}
    {a : TransitionArguments} (move : AttestedMove p ttl hotkey attested current target reason a) :
    target ∉ revivals := by
  rw [move.2.1]
  decide

theorem ExpiryMove.spared {current : SnapshotFields} {target : WorkerLifecycleState}
    {reason : LifecycleReason} {a : TransitionArguments}
    (move : ExpiryMove current target reason a) : target ∉ revivals := by
  rw [move.2.1]
  decide

theorem bounded_of_commit {p : Platform} {total perColdkey : ℕ} {s s' : State} {op : Op}
    (bounded : Bounded total perColdkey s) (under : op.UnderCaps total perColdkey)
    (keeps : op.KeepsCapacity s) (committed : op.commit p s = .ok s') :
    Bounded total perColdkey s' := by
  cases op with
  -- enrollment looks at the caps itself
  | enroll a ts when =>
    simp only [Op.commit, map_eq_ok, Prod.exists, exists_eq_right] at committed
    obtain ⟨_, written⟩ := committed
    obtain ⟨canonical, keyed, capped, enrolled⟩ := enrolled_of_enroll written
    have room := room_of_caps under keyed capped
    exact ⟨enrolled.enlisted bounded.enlisted, enrolled.within room keeps bounded.within⟩
  -- an operation that looks at no cap only lets workers leave
  | transitionLifecycle hotkey target reason generation revision detail when =>
    simp only [Op.commit, map_eq_ok, Prod.exists, exists_eq_right] at committed
    obtain ⟨_, transitioned⟩ := committed
    refine (thins_of_writes Scope.thinning_thinning ?_).bounded bounded
    exact writes_of_transition transitioned fun current found _ => keeps current found
  | reenrollLifecycle hotkey reason operator when =>
    simp only [Op.commit, map_eq_ok, Prod.exists, exists_eq_right] at committed
    obtain ⟨_, reenrolled⟩ := committed
    obtain ⟨current, found, -, -, clock, renewed⟩ := reenroll_cases reenrolled
    refine (thins_of_writes Scope.thinning_thinning ?_).bounded bounded
    exact .head (.advance when clock rfl)
      (.single (.renew current reason when (keeps current found) renewed))
  | retireLifecycle hotkey removed when =>
    simp only [Op.commit, map_eq_ok, Prod.exists, exists_eq_right] at committed
    obtain ⟨_, retired⟩ := committed
    exact (thins_of_retire retired keeps).bounded bounded
  | recordVerdict ttl a clock =>
    refine bounded.commit committed ?_ (fun _ _ no => no) (fun no => no)
    rintro current target reason arguments (⟨attested, -, move⟩ | ⟨-, -, rfl, -⟩) _
    · exact move.spared
    · decide
  | recordAttestedLifecycle =>
    exact bounded.commit committed (fun _ _ _ _ move _ => move.spared) (fun _ _ no => no) fun no => no
  | recordRefreshFailure =>
    exact bounded.commit committed (fun _ _ _ _ move => move.spared) (fun _ _ no => no) fun no => no
  | recordProbeFailure =>
    exact bounded.commit committed (fun _ _ _ _ move => move.spared) (fun _ _ no => no) fun no => no
  | lifecycleSnapshot =>
    exact bounded.commit committed (fun _ _ _ _ move _ => move.spared) (fun _ _ no => no) fun no => no
  | dueRefreshes =>
    exact bounded.commit committed (fun _ _ _ _ move _ => move.spared) (fun _ _ no => no) fun no => no
  | applyLifecyclePolicy =>
    refine bounded.commit committed ?_ (fun _ _ no => no) (fun no => no)
    rintro current target reason a ⟨eligible, -⟩ failed
    rw [failed] at eligible
    exact absurd eligible (by decide)
  | backfill =>
    exact bounded.commit committed (fun _ _ _ _ no => no.elim) (fun _ _ no => no) fun no => no
  | clearVerdict =>
    exact bounded.commit committed (fun _ _ _ _ no => no.elim) (fun _ _ no => no) fun no => no

/-- **Capacity caps.** After any sequence of operations whose enrollments are made
under the caps, and that bring no failed worker back outside of them, the workers
that consume capacity are within all three caps. -/
theorem capacity_within_caps (p : Platform) (total perColdkey : ℕ) (ops : List Op)
    (regular : Along (step p) (fun s op => op.UnderCaps total perColdkey ∧ op.KeepsCapacity s)
      .initial ops) : Capped total perColdkey (runOps p .initial ops) := by
  have bounded : Bounded total perColdkey (runOps p .initial ops) := by
    refine invariant_along (fun s op bounded regular => ?_) (.initial total perColdkey) regular
    exact settle_of_ok bounded fun _ committed =>
      bounded_of_commit bounded regular.1 regular.2 committed
  exact capped_of_within bounded.enlisted bounded.within

/-! ## Concrete runs -/

/-- An enrollment under a cap of one worker and one endpoint for each coldkey. -/
def sampleCapped (hotkey endpointUrl : Text) (when : Instant) : Op :=
  .enroll { sampleEnrollment hotkey endpointUrl with
    maxTotalEnrollments := some 1
    maxEndpointsPerColdkey := some 1
    uniqueEndpoint := true
    refuseTerminal := true } when when

/-- A worker fails on its first refresh. -/
def sampleFailure (hotkey : Text) (when : Instant) : Op :=
  .recordRefreshFailure hotkey 1 1 {} none none none when

/-- The theorem applied to a worker that fails and another that takes its place. -/
theorem capacity_within_caps_replaced :
    let reached := runOps .sampleNetwork .initial
      [sampleCapped "first" "https://1.1.1.1:8443" 63839664000000000,
        sampleFailure "first" 63839664001000000,
        sampleCapped "second" "https://8.8.8.8:8443" 63839664002000000]
    (consumingWorkers reached).map EnrollmentRow.hotkey = [Text.ofString "second"] ∧
      Capped 1 1 reached := by
  intro reached
  refine ⟨by decide +kernel, capacity_within_caps .sampleNetwork 1 1 _ ?_⟩
  refine ⟨⟨⟨rfl, rfl, rfl, rfl⟩, ?_⟩, ⟨trivial, trivial⟩, ⟨⟨rfl, rfl, rfl, rfl⟩, ?_⟩, trivial⟩
  · rintro - prior ⟨⟩
  · intro _ prior found
    have absent : (runOps .sampleNetwork .initial
        [sampleCapped "first" "https://1.1.1.1:8443" 63839664000000000,
          sampleFailure "first" 63839664001000000]).enrollments.find? (Text.ofString "second") = none := by
      decide +kernel
    exact absurd (absent.symm.trans found) (Option.some_ne_none prior).symm

/-- Retiring a failed worker whose place is taken makes two workers consume
capacity under a cap of one. -/
theorem not_capacity_within_caps_retired :
    ¬ ∀ (p : Platform) (total perColdkey : ℕ) (ops : List Op),
      (∀ op ∈ ops, op.UnderCaps total perColdkey ∧ ∀ hotkey, ¬ op.OperatorReenrolls hotkey) →
      Capped total perColdkey (runOps p .initial ops) := by
  intro claim
  have capped := claim .sampleNetwork 1 1
    [sampleCapped "first" "https://1.1.1.1:8443" 63839664000000000,
      sampleFailure "first" 63839664001000000,
      sampleCapped "second" "https://8.8.8.8:8443" 63839664002000000,
      .retireLifecycle "first" false 63839664003000000] (by
    intro op member
    simp only [List.mem_cons, List.not_mem_nil, or_false] at member
    rcases member with rfl | rfl | rfl | rfl
    · exact ⟨⟨rfl, rfl, rfl, rfl⟩, fun _ ⟨_, _, no⟩ => by cases no⟩
    · exact ⟨trivial, fun _ ⟨_, _, no⟩ => by cases no⟩
    · exact ⟨⟨rfl, rfl, rfl, rfl⟩, fun _ ⟨_, _, no⟩ => by cases no⟩
    · exact ⟨trivial, fun _ ⟨_, _, no⟩ => by cases no⟩)
  exact absurd capped.total (by decide +kernel)

end Cathedral.Registry
