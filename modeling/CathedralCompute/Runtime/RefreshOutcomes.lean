import CathedralCompute.Runtime.SingleFlight

/-!
# How refreshes end

Every refresh that is not done is the one `_flights` knows for its worker, so no second one
begins, and a refresh that is cancelled before its operation ended delivers no result. What
a caller gets is then the outcome of the operation or a lifecycle error, unless its refresh
was withdrawn from the queue: then the future raises an exception that nobody expects.

## Main definitions

* `Inv` — what holds of every state

## Main results

* `outcomes_of_undisturbed` — while no refresh is withdrawn from the queue, every call ends
  with the outcome of its refresh or with a lifecycle error
* `not_outcomes_withdrawn` — the caller of a refresh that is withdrawn
-/

set_option autoImplicit false

namespace Cathedral.Runtime

open Codec Semantics

namespace SingleFlight

variable {ε τ : Type}

/-! ## What a refresh goes through -/

namespace Flight

/-- What one step makes of a refresh. -/
inductive Moves : Flight ε τ → Flight ε τ → Prop
  | stay (flight : Flight ε τ) : Moves flight flight
  | requestCancel (flight : Flight ε τ) : Moves flight flight.requestCancel
  | withdraw (flight : Flight ε τ) : Moves flight flight.withdraw
  | take (flight : Flight ε τ) : Moves flight flight.take
  | check (flight : Flight ε τ) : Moves flight flight.check
  | finish (own : Ending ε τ) (flight : Flight ε τ) : Moves flight (flight.finish own)
  | recheck (flight : Flight ε τ) : Moves flight flight.recheck
  | settle (flight : Flight ε τ) : Moves flight flight.settle

/-- What is known of the operation where a refresh stands: it has not ended, or it returned,
or its outcome is that of the refresh unless that is a lifecycle error. -/
def Sound (flight : Flight ε τ) : Prop :=
  match flight.phase with
  | .returned value => flight.own = some (.ok value)
  | .settling outcome => flight.own = some outcome ∨
      ∃ message, outcome = .error (.lifecycleError message)
  | .done outcome => flight.own = some outcome ∨
      ∃ message, outcome = .error (.lifecycleError message)
  | _ => flight.own = none

/-- The refresh has a result for its callers. -/
def delivers (flight : Flight ε τ) : Bool :=
  match flight.phase with
  | .settling (.ok _) => true
  | .done (.ok _) => true
  | _ => false

/-- The refresh is cancelled and will not deliver a result. -/
def Doomed (flight : Flight ε τ) : Prop := flight.cancel = true ∧ flight.delivers = false

variable {flight flight' : Flight ε τ}

theorem Moves.kept (moves : Moves flight flight') :
    flight'.hotkey = flight.hotkey ∧ flight'.generation = flight.generation := by
  cases moves with
  | stay => exact ⟨rfl, rfl⟩
  | requestCancel => exact ⟨rfl, rfl⟩
  | withdraw => unfold Flight.withdraw; split <;> exact ⟨rfl, rfl⟩
  | take => unfold Flight.take; split <;> exact ⟨rfl, rfl⟩
  | check => unfold Flight.check; split <;> exact ⟨rfl, rfl⟩
  | finish own => unfold Flight.finish; split <;> exact ⟨rfl, rfl⟩
  | recheck => unfold Flight.recheck; split <;> exact ⟨rfl, rfl⟩
  | settle => unfold Flight.settle; split <;> exact ⟨rfl, rfl⟩

/-- A refresh that is done stays as it is. -/
theorem Moves.phase_of_isDone (moves : Moves flight flight') (done : flight.isDone = true) :
    flight'.phase = flight.phase := by
  have ends : (∃ outcome, flight.phase = .done outcome) ∨ flight.phase = .cancelled := by
    unfold Flight.isDone at done
    split at done
    · exact .inl ⟨_, ‹_›⟩
    · exact .inr ‹_›
    · cases done
  rcases ends with ⟨outcome, phase⟩ | phase <;> cases moves <;>
    simp [Flight.requestCancel, Flight.withdraw, Flight.take, Flight.check, Flight.finish,
      Flight.recheck, Flight.settle, phase]

theorem Moves.isDone (moves : Moves flight flight') (done : flight.isDone = true) :
    flight'.isDone = true := by
  rw [Flight.isDone, moves.phase_of_isDone done]
  exact done

theorem sound_submitted (hotkey : Text) (generation : ℤ) :
    (submitted hotkey generation : Flight ε τ).Sound := rfl

theorem Moves.sound (moves : Moves flight flight') (sound : flight.Sound) : flight'.Sound := by
  obtain ⟨hotkey, generation, cancel, phase, own⟩ := flight
  cases moves with
  | stay => exact sound
  | requestCancel => exact sound
  | withdraw => cases phase <;> exact sound
  | take => cases phase <;> exact sound
  | check =>
    cases phase with
    | starting =>
      cases cancel
      · exact sound
      · exact .inr ⟨_, rfl⟩
    | _ => exact sound
  | finish own' =>
    cases phase with
    | executing =>
      cases own' with
      | ok value => exact rfl
      | error raised => exact .inl rfl
    | _ => exact sound
  | recheck =>
    cases phase with
    | returned value =>
      cases cancel
      · exact .inl sound
      · exact .inr ⟨_, rfl⟩
    | _ => exact sound
  | settle => cases phase <;> exact sound

/-- A cancelled refresh whose operation has not ended is doomed. -/
theorem doomed_of_unfinished (sound : flight.Sound) (cancel : flight.cancel = true)
    (unfinished : flight.own = none) : flight.Doomed := by
  refine ⟨cancel, ?_⟩
  unfold delivers
  split
  · rename_i phase
    simp [Sound, phase, unfinished] at sound
  · rename_i phase
    simp [Sound, phase, unfinished] at sound
  · rfl

theorem Moves.doomed (moves : Moves flight flight') (doomed : flight.Doomed) :
    flight'.Doomed := by
  obtain ⟨hotkey, generation, cancel, phase, own⟩ := flight
  obtain ⟨cancelled, silent⟩ := doomed
  dsimp only at cancelled
  subst cancelled
  cases moves with
  | stay => exact ⟨rfl, silent⟩
  | requestCancel => exact ⟨rfl, silent⟩
  | withdraw => cases phase <;> exact ⟨rfl, silent⟩
  | take => cases phase <;> exact ⟨rfl, silent⟩
  | check => cases phase <;> exact ⟨rfl, silent⟩
  | finish own' =>
    cases phase with
    | executing => cases own' <;> exact ⟨rfl, rfl⟩
    | _ => exact ⟨rfl, silent⟩
  | recheck => cases phase <;> exact ⟨rfl, silent⟩
  | settle =>
    cases phase with
    | settling outcome => cases outcome <;> exact ⟨rfl, silent⟩
    | _ => exact ⟨rfl, silent⟩

end Flight

/-! ## The invariant -/

/-- A call is for the worker and the generation of its refresh, and it ended with a lifecycle
error, or as its refresh was done or withdrawn. -/
structure Call.Fits (s : State ε τ) (call : Call ε τ) : Prop where
  joined : ∀ f, call.flight = some f → ∃ flight, s.flights[f]? = some flight ∧
    flight.hotkey = call.hotkey ∧ flight.generation = call.generation
  ending : ∀ outcome, call.status = .ended outcome →
    (∃ message, outcome = .error (.lifecycleError message)) ∨
      ∃ f flight, call.flight = some f ∧ s.flights[f]? = some flight ∧
        (flight.phase = .done outcome ∨
          (flight.phase = .cancelled ∧ outcome = .error .cancelledError))

/-- What holds of every state: `_flights` knows every refresh that is not done, so there is
one for each worker at most. -/
structure Inv (s : State ε τ) : Prop where
  sound : ∀ (f : ℕ) (flight : Flight ε τ), s.flights[f]? = some flight → flight.Sound
  current : ∀ hotkey f, s.current hotkey = some f → ∃ flight, s.flights[f]? = some flight ∧
    flight.hotkey = hotkey
  live : ∀ (f : ℕ) (flight : Flight ε τ), s.flights[f]? = some flight → flight.isDone = false →
    s.current flight.hotkey = some f
  callbacks : ∀ f ∈ s.callbacks, ∃ flight, s.flights[f]? = some flight ∧ flight.isDone = true
  calls : ∀ call ∈ s.calls, call.Fits s

/-- Every refresh of the first state is in the second, as steps may have changed it. -/
def Extends (s s' : State ε τ) : Prop :=
  ∀ (f : ℕ) (flight : Flight ε τ), s.flights[f]? = some flight →
    ∃ flight', s'.flights[f]? = some flight' ∧ flight.Moves flight'

section Invariant

variable {s s' : State ε τ}

theorem Call.Fits.extends {call : Call ε τ} (fits : call.Fits s) (later : Extends s s') :
    call.Fits s' where
  joined f joins := by
    obtain ⟨flight, found, hotkey, generation⟩ := fits.joined f joins
    obtain ⟨flight', found', moves⟩ := later f flight found
    exact ⟨flight', found', moves.kept.1.trans hotkey, moves.kept.2.trans generation⟩
  ending outcome ended := by
    refine (fits.ending outcome ended).imp_right ?_
    rintro ⟨f, flight, joins, found, how⟩
    obtain ⟨flight', found', moves⟩ := later f flight found
    have final : flight'.phase = flight.phase := by
      refine moves.phase_of_isDone ?_
      rcases how with phase | ⟨phase, -⟩ <;> rw [Flight.isDone, phase]
    exact ⟨f, flight', joins, found', final ▸ how⟩

theorem inv_initial : Inv (State.initial : State ε τ) where
  sound f flight found := by cases found
  current hotkey f found := by cases found
  live f flight found := by cases found
  callbacks f member := by cases member
  calls call member := by cases member

theorem getElem?_onFlight (s : State ε τ) (f g : ℕ) (change : Flight ε τ → Flight ε τ) :
    (s.onFlight f change).flights[g]? =
      (s.flights[g]?).map fun flight => if f = g then change flight else flight :=
  List.getElem?_modify ..

theorem extends_onFlight (f : ℕ) {change : Flight ε τ → Flight ε τ}
    (moves : ∀ flight, Flight.Moves flight (change flight)) : Extends s (s.onFlight f change) := by
  intro g flight found
  rw [getElem?_onFlight, found]
  refine ⟨_, rfl, ?_⟩
  split
  · exact moves flight
  · exact .stay flight

theorem exists_of_onFlight {f g : ℕ} {change : Flight ε τ → Flight ε τ} {flight' : Flight ε τ}
    (moves : ∀ flight, Flight.Moves flight (change flight))
    (found : (s.onFlight f change).flights[g]? = some flight') :
    ∃ flight, s.flights[g]? = some flight ∧ flight.Moves flight' := by
  rw [getElem?_onFlight, Option.map_eq_some_iff] at found
  obtain ⟨flight, found, rfl⟩ := found
  refine ⟨flight, found, ?_⟩
  split
  · exact moves flight
  · exact .stay flight

/-- One refresh goes on. -/
theorem Inv.onFlight (inv : Inv s) (f : ℕ) {change : Flight ε τ → Flight ε τ}
    (moves : ∀ flight, Flight.Moves flight (change flight)) : Inv (s.onFlight f change) where
  sound g flight' found := by
    obtain ⟨flight, found, moves⟩ := exists_of_onFlight moves found
    exact moves.sound (inv.sound g flight found)
  current hotkey g known := by
    obtain ⟨flight, found, same⟩ := inv.current hotkey g known
    obtain ⟨flight', found', moves⟩ := extends_onFlight f moves g flight found
    exact ⟨flight', found', moves.kept.1.trans same⟩
  live g flight' found busy := by
    obtain ⟨flight, found, moves⟩ := exists_of_onFlight moves found
    rw [moves.kept.1]
    refine inv.live g flight found ?_
    by_contra done
    rw [moves.isDone (by simpa using done)] at busy
    cases busy
  callbacks g member := by
    obtain ⟨flight, found, done⟩ := inv.callbacks g member
    obtain ⟨flight', found', moves⟩ := extends_onFlight f moves g flight found
    exact ⟨flight', found', moves.isDone done⟩
  calls call member := (inv.calls call member).extends (extends_onFlight f moves)

/-- A call begins, or ends at once. -/
theorem Inv.addCall (inv : Inv s) {call : Call ε τ} (fits : call.Fits s) :
    Inv (s.addCall call) where
  sound := inv.sound
  current := inv.current
  live := inv.live
  callbacks := inv.callbacks
  calls other member := by
    rcases List.mem_append.mp member with old | new
    · exact ⟨(inv.calls other old).joined, (inv.calls other old).ending⟩
    · rw [List.mem_singleton.mp new]
      exact ⟨fits.joined, fits.ending⟩

/-- A call goes on. -/
theorem Inv.onCall (inv : Inv s) {c : ℕ} {call : Call ε τ} {status : CallStatus ε τ}
    (here : s.calls[c]? = some call) (fits : Call.Fits s { call with status := status }) :
    Inv (s.onCall c status) where
  sound := inv.sound
  current := inv.current
  live := inv.live
  callbacks := inv.callbacks
  calls other member := by
    obtain ⟨i, found⟩ := List.mem_iff_getElem?.mp member
    rw [State.onCall, List.getElem?_modify] at found
    obtain ⟨old, known, rfl⟩ := Option.map_eq_some_iff.mp found
    have before := inv.calls old (List.mem_of_getElem? known)
    split
    · rename_i same
      rw [same, known] at here
      cases here
      exact ⟨fits.joined, fits.ending⟩
    · exact ⟨before.joined, before.ending⟩

/-- A refresh that is done is forgotten. -/
theorem Inv.forget (inv : Inv s) (hotkey : Text) {f : ℕ}
    (done : ∀ flight, s.flights[f]? = some flight → flight.isDone = true) :
    Inv (s.forget hotkey f) := by
  unfold State.forget
  split
  case isFalse => exact inv
  case isTrue known =>
    refine ⟨inv.sound, fun other g found => ?_, fun g flight found busy => ?_, inv.callbacks,
      fun call member => ⟨(inv.calls call member).joined, (inv.calls call member).ending⟩⟩
    · by_cases same : other = hotkey
      · rw [same] at found
        simp at found
      · dsimp only at found
        rw [Function.update_of_ne same] at found
        exact inv.current other g found
    · have here := inv.live g flight found busy
      have other : flight.hotkey ≠ hotkey := by
        intro same
        rw [same, known] at here
        cases here
        rw [done flight found] at busy
        cases busy
      exact (Function.update_of_ne other ..).trans here

theorem extends_append (s : State ε τ) (flight : Flight ε τ) (calls : List (Call ε τ))
    (current : Text → Option ℕ) (queue callbacks : List ℕ) :
    Extends s ⟨s.flights ++ [flight], calls, current, queue, callbacks⟩ := fun f old found =>
  ⟨old, by rw [List.getElem?_append_left (List.getElem?_eq_some_iff.mp found).1, found], .stay old⟩

theorem underWay_eq_some {hotkey : Text} {f : ℕ} {flight : Flight ε τ}
    (inv : Inv s) (found : s.underWay hotkey = some (f, flight)) :
    s.current hotkey = some f ∧ s.flights[f]? = some flight ∧ flight.hotkey = hotkey ∧
      flight.isDone = false := by
  simp only [State.underWay, Option.bind_eq_some_iff, Option.map_eq_some_iff,
    Option.filter_eq_some_iff, Prod.mk.injEq] at found
  obtain ⟨g, known, other, ⟨here, busy⟩, rfl, rfl⟩ := found
  obtain ⟨same, here', hotkey⟩ := inv.current _ g known
  cases here.symm.trans here'
  exact ⟨known, here, hotkey, by simpa using busy⟩

/-- No refresh of the worker is under way when a new one is submitted. -/
theorem isDone_of_underWay {hotkey : Text} (inv : Inv s) (none : s.underWay hotkey = none)
    {f : ℕ} {flight : Flight ε τ} (found : s.flights[f]? = some flight)
    (same : flight.hotkey = hotkey) : flight.isDone = true := by
  by_contra busy
  have busy : flight.isDone = false := by simpa using busy
  have known := inv.live f flight found busy
  simp [State.underWay, same ▸ known, found, Option.filter, busy] at none

/-- A refresh is submitted, and its caller waits. -/
theorem Inv.submit (inv : Inv s) {hotkey : Text} (generation : ℤ)
    (none : s.underWay hotkey = none) :
    Inv (⟨s.flights ++ [Flight.submitted hotkey generation],
      s.calls ++ [⟨hotkey, generation, some s.flights.length, .waiting⟩],
      Function.update s.current hotkey (some s.flights.length),
      s.queue ++ [s.flights.length], s.callbacks⟩ : State ε τ) := by
  have new : (s.flights ++ [Flight.submitted hotkey generation])[s.flights.length]? =
      some (Flight.submitted hotkey generation) := by simp
  have cases_ : ∀ (g : ℕ) (flight : Flight ε τ),
      (s.flights ++ [Flight.submitted hotkey generation])[g]? = some flight →
        s.flights[g]? = some flight ∨
          (g = s.flights.length ∧ flight = Flight.submitted hotkey generation) := by
    intro g flight found
    rcases lt_or_ge g s.flights.length with old | last
    · rw [List.getElem?_append_left old] at found
      exact .inl found
    · rw [List.getElem?_append_right last, List.getElem?_singleton] at found
      split at found
      · exact .inr ⟨by omega, (Option.some.inj found).symm⟩
      · cases found
  -- the old refreshes stay where they are
  have later := extends_append s (Flight.submitted hotkey generation)
    (s.calls ++ [⟨hotkey, generation, some s.flights.length, .waiting⟩])
    (Function.update s.current hotkey (some s.flights.length))
    (s.queue ++ [s.flights.length]) s.callbacks
  refine ⟨fun g flight found => ?_, fun other g known => ?_, fun g flight found busy => ?_,
    fun g member => ?_, fun call member => ?_⟩
  · rcases cases_ g flight found with old | ⟨-, rfl⟩
    · exact inv.sound g flight old
    · exact Flight.sound_submitted hotkey generation
  · dsimp only at known
    by_cases same : other = hotkey
    · rw [same, Function.update_self, Option.some.injEq] at known
      exact ⟨_, known ▸ new, same.symm⟩
    · rw [Function.update_of_ne same] at known
      obtain ⟨flight, found, hotkey'⟩ := inv.current other g known
      obtain ⟨flight', found', moves⟩ := later g flight found
      exact ⟨flight', found', moves.kept.1.trans hotkey'⟩
  · rcases cases_ g flight found with old | ⟨rfl, rfl⟩
    · -- an unfinished refresh of the hotkey would be under way
      have other : flight.hotkey ≠ hotkey := by
        intro same
        rw [isDone_of_underWay inv none old same] at busy
        cases busy
      exact (Function.update_of_ne other ..).trans (inv.live g flight old busy)
    · exact Function.update_self ..
  · obtain ⟨flight, found, done⟩ := inv.callbacks g member
    obtain ⟨flight', found', moves⟩ := later g flight found
    exact ⟨flight', found', moves.isDone done⟩
  · rcases List.mem_append.mp member with old | added
    · exact (inv.calls call old).extends later
    · rw [List.mem_singleton.mp added]
      refine ⟨fun f joins => ?_, fun outcome ended => nomatch ended⟩
      cases joins
      exact ⟨_, new, rfl, rfl⟩

theorem Inv.enter (inv : Inv s) (hotkey : Text) (generation : ℤ) :
    Inv (enter s hotkey generation) := by
  unfold SingleFlight.enter
  split
  case h_1 f flight found =>
    obtain ⟨-, here, same, -⟩ := underWay_eq_some inv found
    split
    · refine (inv.onFlight f .requestCancel).addCall ⟨fun g joins => (nomatch joins), ?_⟩
      rintro _ ⟨⟩
      exact .inl ⟨_, rfl⟩
    case isFalse agree =>
      refine inv.addCall ⟨fun g joins => ?_, fun outcome ended => nomatch ended⟩
      cases joins
      exact ⟨flight, here, same, not_not.mp agree⟩
  case h_2 none => exact inv.submit generation none

theorem Inv.cancel (inv : Inv s) (hotkey : Text) : Inv (cancel s hotkey) := by
  unfold SingleFlight.cancel
  split
  case h_2 => exact inv
  case h_1 f flight found =>
    obtain ⟨-, here, -, -⟩ := underWay_eq_some inv found
    have next := inv.onFlight f .withdraw
    dsimp only
    split
    case isFalse => exact next
    case isTrue queued =>
      refine next.forget hotkey fun flight' found' => ?_
      rw [getElem?_onFlight, here, Option.map_some, if_pos rfl, Option.some.injEq] at found'
      unfold Flight.isQueued at queued
      split at queued
      · rename_i phase
        rw [← found', Flight.withdraw, phase]
        rfl
      · cases queued

theorem Inv.take (inv : Inv s) (maxWorkers : ℕ) : Inv (take maxWorkers s) := by
  unfold SingleFlight.take
  split
  case h_1 f queue listed =>
    split
    · have next := inv.onFlight f .take
      exact ⟨next.sound, next.current, next.live, next.callbacks, fun call member =>
        ⟨(next.calls call member).joined, (next.calls call member).ending⟩⟩
    · exact inv
  case h_2 => exact inv

theorem Inv.settle (inv : Inv s) (f : ℕ) : Inv (settle s f) := by
  unfold SingleFlight.settle
  split
  case h_2 => exact inv
  case h_1 outcome phase =>
    obtain ⟨flight, found, phase⟩ := Option.map_eq_some_iff.mp phase
    have next := inv.onFlight f .settle
    refine ⟨next.sound, next.current, next.live, fun g member => ?_, fun call member =>
      ⟨(next.calls call member).joined, (next.calls call member).ending⟩⟩
    rcases List.mem_append.mp member with old | new
    · exact next.callbacks g old
    · rw [List.mem_singleton.mp new]
      refine ⟨flight.settle, ?_, by rw [Flight.settle, phase]; rfl⟩
      exact (getElem?_onFlight ..).trans (by rw [found, Option.map_some, if_pos rfl])

theorem Inv.callback (inv : Inv s) (f : ℕ) : Inv (callback s f) := by
  unfold SingleFlight.callback
  split
  case h_2 => exact inv
  case h_1 flight found =>
    split
    case isFalse => exact inv
    case isTrue member =>
      obtain ⟨flight', found', done⟩ := inv.callbacks f member
      cases found.symm.trans found'
      have next : Inv { s with callbacks := s.callbacks.erase f } :=
        ⟨inv.sound, inv.current, inv.live, fun g later =>
          inv.callbacks g (List.mem_of_mem_erase later), fun call member =>
          ⟨(inv.calls call member).joined, (inv.calls call member).ending⟩⟩
      refine next.forget flight.hotkey fun flight' found' => ?_
      cases found.symm.trans found'
      exact done

theorem awaited_eq_some {c f : ℕ} (waits : awaited s c = some f) :
    ∃ call, s.calls[c]? = some call ∧ call.flight = some f := by
  unfold awaited at waits
  split at waits
  case h_1 hotkey generation g found =>
    cases waits
    exact ⟨_, found, rfl⟩
  case h_2 => cases waits

theorem ending_of_resultStatus {phase : Phase ε τ} {outcome : Ending ε τ}
    (result : resultStatus phase = some (.ended outcome)) :
    phase = .done outcome ∨ (phase = .cancelled ∧ outcome = .error .cancelledError) := by
  unfold resultStatus at result
  split at result <;> cases result
  · exact .inl rfl
  · exact .inr ⟨rfl, rfl⟩

theorem Inv.wake (inv : Inv s) (c : ℕ) : Inv (wake s c) := by
  unfold SingleFlight.wake
  split
  case h_2 => exact inv
  case h_1 status result =>
    obtain ⟨f, waits, result⟩ := Option.bind_eq_some_iff.mp result
    obtain ⟨flight, found, result⟩ := Option.bind_eq_some_iff.mp result
    obtain ⟨call, here, joins⟩ := awaited_eq_some waits
    have fits := inv.calls call (List.mem_of_getElem? here)
    refine inv.onCall here ⟨fits.joined, fun outcome ended => .inr ⟨f, flight, joins, found, ?_⟩⟩
    exact ending_of_resultStatus (result.trans (congrArg some ended))

theorem Inv.timeOut (inv : Inv s) (c : ℕ) : Inv (timeOut s c) := by
  unfold SingleFlight.timeOut
  split
  case h_2 => exact inv
  case h_1 f waits =>
    obtain ⟨call, here, -⟩ := awaited_eq_some waits
    have fits := inv.calls call (List.mem_of_getElem? here)
    exact inv.onCall here ⟨fits.joined, fun outcome ended => nomatch ended⟩

theorem Inv.giveUp (inv : Inv s) (c : ℕ) : Inv (giveUp s c) := by
  unfold SingleFlight.giveUp
  split
  case h_2 => exact inv
  case h_1 hotkey generation f here =>
    have next := inv.onFlight f .requestCancel
    have fits := next.calls _ (List.mem_of_getElem? here)
    refine next.onCall here ⟨fits.joined, ?_⟩
    rintro _ ⟨⟩
    exact .inl ⟨_, rfl⟩

/-- **One step** keeps the invariant. -/
theorem Inv.step (inv : Inv s) (maxWorkers : ℕ) (op : Step ε τ) : Inv (step maxWorkers s op) := by
  cases op with
  | run hotkey generation timeoutSeconds =>
    unfold SingleFlight.step
    dsimp only
    split
    · refine inv.addCall ⟨fun g joins => (nomatch joins), ?_⟩
      rintro _ ⟨⟩
      exact .inl ⟨_, rfl⟩
    · exact inv.enter hotkey generation
  | cancel hotkey => exact inv.cancel hotkey
  | take => exact inv.take maxWorkers
  | check f => exact inv.onFlight f .check
  | finish f own => exact inv.onFlight f (.finish own)
  | recheck f => exact inv.onFlight f .recheck
  | settle f => exact inv.settle f
  | callback f => exact inv.callback f
  | wake c => exact inv.wake c
  | timeOut c => exact inv.timeOut c
  | giveUp c => exact inv.giveUp c

theorem Extends.refl (s : State ε τ) : Extends s s := fun _ flight found =>
  ⟨flight, found, .stay flight⟩

theorem flights_forget (s : State ε τ) (hotkey : Text) (f : ℕ) :
    (s.forget hotkey f).flights = s.flights := by
  unfold State.forget
  split <;> rfl

/-- One step keeps every refresh, as it may have changed it. -/
theorem extends_step (maxWorkers : ℕ) (op : Step ε τ) : Extends s (step maxWorkers s op) := by
  -- every operation changes one refresh by one of its moves, or none
  cases op with
  | run hotkey generation timeoutSeconds =>
    unfold step enter
    dsimp only
    split
    · exact .refl s
    · split
      · split
        · exact extends_onFlight _ .requestCancel
        · exact .refl s
      · exact extends_append s _ _ _ _ _
  | cancel hotkey =>
    unfold step SingleFlight.cancel
    dsimp only
    split
    · split
      · -- the name of the refresh is forgotten, the refresh itself stays
        intro f flight found
        rw [flights_forget]
        exact extends_onFlight _ .withdraw f flight found
      · exact extends_onFlight _ .withdraw
    · exact .refl s
  | take =>
    unfold step SingleFlight.take
    dsimp only
    split
    · split
      · exact extends_onFlight _ .take
      · exact .refl s
    · exact .refl s
  | check f => exact extends_onFlight f .check
  | finish f own => exact extends_onFlight f (.finish own)
  | recheck f => exact extends_onFlight f .recheck
  | settle f =>
    unfold step SingleFlight.settle
    dsimp only
    split
    · exact extends_onFlight f .settle
    · exact .refl s
  | callback f =>
    unfold step SingleFlight.callback
    dsimp only
    split
    · split
      · intro g flight found
        rw [flights_forget]
        exact ⟨flight, found, .stay flight⟩
      · exact .refl s
    · exact .refl s
  | wake c =>
    unfold step SingleFlight.wake
    dsimp only
    split <;> exact .refl s
  | timeOut c =>
    unfold step SingleFlight.timeOut
    dsimp only
    split <;> exact .refl s
  | giveUp c =>
    unfold step SingleFlight.giveUp
    dsimp only
    split
    · exact extends_onFlight _ .requestCancel
    · exact .refl s

/-- A doomed refresh stays doomed over a run. -/
theorem doomed_run {f : ℕ} {flight : Flight ε τ} (maxWorkers : ℕ)
    (found : s.flights[f]? = some flight) (doomed : flight.Doomed) (steps : List (Step ε τ)) :
    ∃ flight', (run (step maxWorkers) s steps).flights[f]? = some flight' ∧ flight'.Doomed := by
  have preserved : ∀ (s : State ε τ) (op : Step ε τ),
      (∃ flight, s.flights[f]? = some flight ∧ flight.Doomed) →
        ∃ flight, (step maxWorkers s op).flights[f]? = some flight ∧ flight.Doomed := by
    rintro s op ⟨flight, found, doomed⟩
    obtain ⟨flight', found', moves⟩ := extends_step maxWorkers op f flight found
    exact ⟨flight', found', moves.doomed doomed⟩
  exact invariant_run preserved ⟨flight, found, doomed⟩ steps

/-! ## Withdrawn refreshes -/

/-- No refresh was withdrawn from the queue. -/
def NoneWithdrawn (s : State ε τ) : Prop :=
  ∀ (f : ℕ) (flight : Flight ε τ), s.flights[f]? = some flight → flight.phase ≠ .cancelled

/-- The step withdraws no refresh that is still in the queue. -/
def Undisturbed (s : State ε τ) (op : Step ε τ) : Prop :=
  ∀ hotkey f flight, op = .cancel hotkey → s.underWay hotkey = some (f, flight) →
    flight.isQueued = false

theorem NoneWithdrawn.onFlight (none : NoneWithdrawn s) (f : ℕ)
    {change : Flight ε τ → Flight ε τ}
    (keeps : ∀ flight : Flight ε τ, s.flights[f]? = some flight → flight.phase ≠ .cancelled →
      (change flight).phase ≠ .cancelled) : NoneWithdrawn (s.onFlight f change) := by
  intro g flight' found
  rw [getElem?_onFlight, Option.map_eq_some_iff] at found
  obtain ⟨flight, found, rfl⟩ := found
  split
  case isTrue same => exact keeps flight (same ▸ found) (none g flight found)
  case isFalse => exact none g flight found

/-- **One step** that withdraws nothing. -/
theorem NoneWithdrawn.step (inv : Inv s) (none : NoneWithdrawn s) (maxWorkers : ℕ)
    {op : Step ε τ} (undisturbed : Undisturbed s op) :
    NoneWithdrawn (step maxWorkers s op) := by
  cases op with
  | run hotkey generation timeoutSeconds =>
    unfold SingleFlight.step SingleFlight.enter
    dsimp only
    split
    · exact none
    · split
      · split
        · exact none.onFlight _ fun flight _ phase => phase
        · exact none
      · -- a new refresh is queued
        intro f flight found
        dsimp only at found
        rcases List.mem_append.mp (List.mem_of_getElem? found) with old | new
        · obtain ⟨g, here⟩ := List.mem_iff_getElem?.mp old
          exact none g flight here
        · rw [List.mem_singleton.mp new]
          exact fun phase => nomatch phase
  | cancel hotkey =>
    unfold SingleFlight.step SingleFlight.cancel
    dsimp only
    split
    case h_2 => exact none
    case h_1 f flight found =>
      -- by assumption a refresh that is cancelled is no longer queued
      have running := undisturbed hotkey f flight rfl found
      rw [if_neg (by rw [running]; exact Bool.false_ne_true)]
      refine none.onFlight f fun flight' found' phase => ?_
      cases (underWay_eq_some inv found).2.1.symm.trans found'
      unfold Flight.withdraw
      split
      · rename_i queued
        rw [Flight.isQueued, queued] at running
        cases running
      · exact phase
  | take =>
    unfold SingleFlight.step SingleFlight.take
    dsimp only
    split
    · split
      · refine none.onFlight _ fun flight _ phase => ?_
        unfold Flight.take
        split
        · exact fun phase => nomatch phase
        · exact phase
      · exact none
    · exact none
  -- a worker moves its own refresh, and never to the withdrawn phase
  | check f =>
    refine none.onFlight f fun flight _ phase => ?_
    unfold Flight.check
    split
    · dsimp only
      split <;> exact fun phase => nomatch phase
    · exact phase
  | finish f own =>
    refine none.onFlight f fun flight _ phase => ?_
    unfold Flight.finish
    split
    · exact fun phase => nomatch phase
    · exact fun phase => nomatch phase
    · exact phase
  | recheck f =>
    refine none.onFlight f fun flight _ phase => ?_
    unfold Flight.recheck
    split
    · exact fun phase => nomatch phase
    · exact phase
  | settle f =>
    unfold SingleFlight.step SingleFlight.settle
    dsimp only
    split
    · refine none.onFlight f fun flight _ phase => ?_
      unfold Flight.settle
      split
      · exact fun phase => nomatch phase
      · exact phase
    · exact none
  | callback f =>
    unfold SingleFlight.step SingleFlight.callback
    dsimp only
    split
    · split
      · intro g flight found
        rw [flights_forget] at found
        exact none g flight found
      · exact none
    · exact none
  | wake c =>
    unfold SingleFlight.step SingleFlight.wake
    dsimp only
    split <;> exact none
  | timeOut c =>
    unfold SingleFlight.step SingleFlight.timeOut
    dsimp only
    split <;> exact none
  | giveUp c =>
    unfold SingleFlight.step SingleFlight.giveUp
    dsimp only
    split
    · exact none.onFlight _ fun flight _ phase => phase
    · exact none

/-- Both invariants over a run. -/
theorem inv_run (maxWorkers : ℕ) (steps : List (Step ε τ)) :
    Inv (run (step maxWorkers) (State.initial : State ε τ) steps) :=
  invariant_run (fun _ op inv => inv.step maxWorkers op) inv_initial steps

theorem noneWithdrawn_run (maxWorkers : ℕ) {steps : List (Step ε τ)}
    (undisturbed : Along (step maxWorkers) Undisturbed (State.initial : State ε τ) steps) :
    NoneWithdrawn (run (step maxWorkers) State.initial steps) := by
  have start : Inv (State.initial : State ε τ) ∧ NoneWithdrawn (State.initial : State ε τ) :=
    ⟨inv_initial, fun f flight found => nomatch found⟩
  have preserved : ∀ (s : State ε τ) (op : Step ε τ), Inv s ∧ NoneWithdrawn s →
      Undisturbed s op → Inv (step maxWorkers s op) ∧ NoneWithdrawn (step maxWorkers s op) :=
    fun s op both undisturbed => ⟨both.1.step maxWorkers op,
      both.2.step both.1 maxWorkers undisturbed⟩
  exact (invariant_along preserved start undisturbed).2

end Invariant

/-! ## Outcomes -/

theorem exists_of_attestTargets {outcomes : List (Ending ε τ)} {raised : Raised ε}
    (aborted : attestTargets outcomes = .error raised) :
    .error raised ∈ outcomes ∧ ∀ message, raised ≠ .lifecycleError message := by
  induction outcomes with
  | nil => cases aborted
  | cons outcome outcomes ih =>
    rw [attestTargets, List.mapM_cons, bind_eq_error] at aborted
    rcases aborted with here | ⟨_, -, later⟩
    · unfold collectSingleflight at here
      split at here
      · cases here
      · cases here
      case h_3 other =>
        cases here
        exact ⟨List.mem_cons_self, other⟩
    · rcases bind_eq_error.mp later with rest | ⟨_, -, never⟩
      · obtain ⟨member, other⟩ := ih rest
        exact ⟨List.mem_cons_of_mem _ member, other⟩
      · cases never

/-- The refresh is inside its operation. -/
def Flight.isExecuting (flight : Flight ε τ) : Bool :=
  match flight.phase with
  | .executing => true
  | _ => false

theorem Flight.isDone_of_isExecuting {flight : Flight ε τ} (executing : flight.isExecuting = true) :
    flight.isDone = false := by
  unfold Flight.isExecuting at executing
  split at executing
  · rename_i phase
    rw [Flight.isDone, phase]
  · cases executing

/-- A call for the worker and the generation of the refresh, which ended with the outcome of
its operation. -/
def OwnOutcome (s : State ε τ) (call : Call ε τ) (outcome : Ending ε τ) : Prop :=
  ∃ f flight, call.flight = some f ∧ s.flights[f]? = some flight ∧
    flight.hotkey = call.hotkey ∧ flight.generation = call.generation ∧ flight.own = some outcome

/-- How a call ends in a state of a run. -/
theorem Inv.ending {s : State ε τ} (inv : Inv s) {call : Call ε τ} (member : call ∈ s.calls)
    {outcome : Ending ε τ} (ended : call.status = .ended outcome) :
    (∃ message, outcome = .error (.lifecycleError message)) ∨ OwnOutcome s call outcome ∨
      ∃ (f : ℕ) (flight : Flight ε τ), s.flights[f]? = some flight ∧
        flight.phase = .cancelled ∧ outcome = .error .cancelledError := by
  have fits := inv.calls call member
  rcases fits.ending outcome ended with refused | ⟨f, flight, joins, found, phase | withdrawn⟩
  · exact .inl refused
  · have sound := inv.sound f flight found
    simp only [Flight.Sound, phase] at sound
    obtain ⟨flight', found', hotkey, generation⟩ := fits.joined f joins
    cases found.symm.trans found'
    rcases sound with own | refused
    · exact .inr (.inl ⟨f, flight, joins, found, hotkey, generation, own⟩)
    · exact .inl refused
  · exact .inr (.inr ⟨f, flight, found, withdrawn⟩)

/-- No call returns the result of a doomed refresh. -/
theorem Inv.not_returned {s : State ε τ} (inv : Inv s) {f : ℕ} {flight : Flight ε τ}
    (found : s.flights[f]? = some flight) (doomed : flight.Doomed) {call : Call ε τ}
    (member : call ∈ s.calls) (joins : call.flight = some f) (value : τ) :
    call.status ≠ .ended (.ok value) := by
  intro ended
  rcases (inv.calls call member).ending _ ended with ⟨_, refused⟩ |
    ⟨g, flight', joins', found', phase | ⟨-, withdrawn⟩⟩
  · cases refused
  · cases joins.symm.trans joins'
    cases found.symm.trans found'
    have silent := doomed.2
    rw [Flight.delivers, phase] at silent
    cases silent
  · cases withdrawn

/-- **Single flight.** In every run that withdraws no refresh from the queue: a worker has one
executing refresh at most; no call returns the result of a refresh that was cancelled before
its operation ended; every call that ends does so with a lifecycle error, or with the outcome
of the operation of a refresh for its worker and its generation; and the epoch aborts only
with an exception that an operation raised. -/
theorem outcomes_of_undisturbed (maxWorkers : ℕ) (steps : List (Step ε τ))
    (undisturbed : Along (step maxWorkers) Undisturbed (State.initial : State ε τ) steps) :
    let s := run (step maxWorkers) State.initial steps
    (∀ (f g : ℕ) (flight flight' : Flight ε τ), s.flights[f]? = some flight →
      s.flights[g]? = some flight' → flight.isExecuting = true → flight'.isExecuting = true →
      flight.hotkey = flight'.hotkey → f = g) ∧
    (∀ before after, steps = before ++ after → ∀ (f : ℕ) (flight : Flight ε τ),
      (run (step maxWorkers) State.initial before).flights[f]? = some flight →
      flight.cancel = true → flight.own = none →
      ∀ call ∈ s.calls, call.flight = some f → ∀ value, call.status ≠ .ended (.ok value)) ∧
    (∀ call ∈ s.calls, ∀ outcome, call.status = .ended outcome →
      (∃ message, outcome = .error (.lifecycleError message)) ∨ OwnOutcome s call outcome) ∧
    ∀ outcomes : List (Ending ε τ),
      (∀ outcome ∈ outcomes, ∃ call ∈ s.calls, call.status = .ended outcome) →
      ∀ raised, attestTargets outcomes = .error raised →
        ∃ call ∈ s.calls, OwnOutcome s call (.error raised) := by
  intro s
  have inv : Inv s := inv_run maxWorkers steps
  have none : NoneWithdrawn s := noneWithdrawn_run maxWorkers undisturbed
  have endings : ∀ call ∈ s.calls, ∀ outcome, call.status = .ended outcome →
      (∃ message, outcome = .error (.lifecycleError message)) ∨ OwnOutcome s call outcome := by
    intro call member outcome ended
    rcases inv.ending member ended with refused | own | ⟨f, flight, found, withdrawn, -⟩
    · exact .inl refused
    · exact .inr own
    · exact absurd withdrawn (none f flight found)
  refine ⟨fun f g flight flight' found found' executing executing' same => ?_,
    fun before after split f flight found cancelled unfinished call member joins => ?_, endings,
    fun outcomes ended raised aborted => ?_⟩
  · have here := inv.live f flight found (Flight.isDone_of_isExecuting executing)
    have there := inv.live g flight' found' (Flight.isDone_of_isExecuting executing')
    rw [same, there] at here
    exact (Option.some.inj here).symm
  · have doomed := Flight.doomed_of_unfinished ((inv_run maxWorkers before).sound f flight found)
      cancelled unfinished
    obtain ⟨flight', found', doomed'⟩ := doomed_run maxWorkers found doomed after
    rw [← run_append, ← split] at found'
    exact inv.not_returned found' doomed' member joins
  · obtain ⟨member, other⟩ := exists_of_attestTargets aborted
    obtain ⟨call, listed, status⟩ := ended _ member
    rcases endings call listed _ status with ⟨message, refused⟩ | own
    · cases refused
      exact absurd rfl (other message)
    · exact ⟨call, listed, own⟩

/-- A refresh is cancelled while it executes. -/
def cancelledRun : List (Step Unit ℕ) :=
  [.run "worker" 1 1, .take, .check 0, .cancel "worker", .finish 0 (.ok 7), .recheck 0, .settle 0,
    .wake 0]

theorem undisturbed_of_ne {s : State ε τ} {op : Step ε τ} (other : ∀ hotkey, op ≠ .cancel hotkey) :
    Undisturbed s op := fun hotkey _ _ same => absurd same (other hotkey)

theorem outcomes_of_undisturbed_cancelled :
    Along (step 1) Undisturbed (State.initial : State Unit ℕ) cancelledRun ∧
    ∀ call ∈ (run (step 1) State.initial cancelledRun).calls, ∀ outcome,
      call.status = .ended outcome → (∃ message, outcome = .error (.lifecycleError message)) ∨
        OwnOutcome (run (step 1) State.initial cancelledRun) call outcome := by
  have running : Undisturbed (run (step 1) (State.initial : State Unit ℕ)
      [.run "worker" 1 1, .take, .check 0]) (.cancel "worker") := by
    rintro _ f flight ⟨⟩ found
    have here : (run (step 1) (State.initial : State Unit ℕ)
        [.run "worker" 1 1, .take, .check 0]).underWay "worker" =
          some (0, ⟨"worker", 1, false, .executing, none⟩) := rfl
    cases here.symm.trans found
    rfl
  have along : Along (step 1) Undisturbed (State.initial : State Unit ℕ) cancelledRun :=
    ⟨undisturbed_of_ne nofun, undisturbed_of_ne nofun, undisturbed_of_ne nofun, running,
      undisturbed_of_ne nofun, undisturbed_of_ne nofun, undisturbed_of_ne nofun,
      undisturbed_of_ne nofun, trivial⟩
  exact ⟨along, (outcomes_of_undisturbed 1 cancelledRun along).2.2.1⟩

/-- One thread is busy when the refresh of a second worker is withdrawn from the queue. -/
def withdrawnRun : List (Step Unit ℕ) :=
  [.run "busy" 1 1, .take, .run "worker" 1 1, .cancel "worker", .wake 1]

/-- The caller of a withdrawn refresh gets neither an outcome of its operation nor a lifecycle
error, and the epoch aborts. -/
theorem not_outcomes_withdrawn :
    (¬ ∀ (maxWorkers : ℕ) (steps : List (Step Unit ℕ)),
      let s := run (step maxWorkers) State.initial steps
      ∀ call ∈ s.calls, ∀ outcome, call.status = .ended outcome →
        (∃ message, outcome = .error (.lifecycleError message)) ∨ OwnOutcome s call outcome) ∧
    attestTargets [(.error .cancelledError : Ending Unit ℕ)] = .error .cancelledError := by
  refine ⟨fun always => ?_, rfl⟩
  have call : (run (step 1) State.initial withdrawnRun).calls[1]? =
      some ⟨"worker", 1, some 1, .ended (.error .cancelledError)⟩ := rfl
  have flight : (run (step 1) State.initial withdrawnRun).flights[1]? =
      some ⟨"worker", 1, true, .cancelled, none⟩ := rfl
  rcases always 1 withdrawnRun _ (List.mem_of_getElem? call) _ rfl with ⟨_, refused⟩ |
    ⟨f, found, joins, here, -, -, own⟩
  · cases refused
  · cases joins
    cases flight.symm.trans here
    cases own

end SingleFlight

end Cathedral.Runtime
