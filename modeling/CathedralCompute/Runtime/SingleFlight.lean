import CathedralCompute.Platform
import Mathlib.Logic.Function.Basic

/-!
# Single-flight refreshes

`run` starts the refresh of a worker or joins the one under way, and waits for it. A pool of
threads executes the refreshes in the order they were asked for. A refresh may be cancelled
by `cancel`, by a caller whose time is over, and by a caller with another generation; the
first also withdraws a refresh that no thread has taken yet.

The parts that hold the lock are steps, and so is everything a thread does between two
looks at what it shares with others.

## Main definitions

* `SingleFlight.step` — one step of a caller, of the pool or of a refresh
* `collectSingleflight`, `attestTargets` — what the epoch makes of the outcomes
-/

set_option autoImplicit false

namespace Cathedral.Runtime

open Codec Semantics

/-- An exception that reaches a caller. -/
inductive Raised (ε : Type) where
  | lifecycleError (message : Text)
  | timeoutError
  | cancelledError
  | other (error : ε)
deriving DecidableEq

/-- How a refresh, or a call that waits for it, ends. -/
abbrev Ending (ε τ : Type) := Except (Raised ε) τ

namespace SingleFlight

variable {ε τ : Type}

/-! ## Refreshes -/

/-- Where a refresh stands: in the queue; taken by a thread; in its operation; after the
operation; with its outcome; with its outcome published; or withdrawn. -/
inductive Phase (ε τ : Type) where
  | queued
  | starting
  | executing
  | returned (value : τ)
  | settling (outcome : Ending ε τ)
  | done (outcome : Ending ε τ)
  | cancelled

/-- `_Flight` with its future. `own` remembers how the operation itself ended. -/
structure Flight (ε τ : Type) where
  hotkey : Text
  generation : ℤ
  cancel : Bool
  phase : Phase ε τ
  own : Option (Ending ε τ)

namespace Flight

/-- `future.done()`. -/
def isDone (flight : Flight ε τ) : Bool :=
  match flight.phase with
  | .done _ => true
  | .cancelled => true
  | _ => false

def isQueued (flight : Flight ε τ) : Bool :=
  match flight.phase with
  | .queued => true
  | _ => false

/-- A thread of the pool is busy with the refresh. -/
def isBusy (flight : Flight ε τ) : Bool :=
  match flight.phase with
  | .queued => false
  | .done _ => false
  | .cancelled => false
  | _ => true

/-- A refresh that was just submitted. -/
def submitted (hotkey : Text) (generation : ℤ) : Flight ε τ :=
  ⟨hotkey, generation, false, .queued, none⟩

/-- `flight.cancel.set()`. -/
def requestCancel (flight : Flight ε τ) : Flight ε τ := { flight with cancel := true }

/-- `flight.cancel.set()` and `flight.future.cancel()`. -/
def withdraw (flight : Flight ε τ) : Flight ε τ :=
  match flight.phase with
  | .queued => { flight with cancel := true, phase := .cancelled }
  | _ => { flight with cancel := true }

/-- A thread takes the refresh, unless it was withdrawn. -/
def take (flight : Flight ε τ) : Flight ε τ :=
  match flight.phase with
  | .queued => { flight with phase := .starting }
  | _ => flight

/-- The error of a refresh that finds itself cancelled. -/
def wasCancelled : Ending ε τ := .error (.lifecycleError "worker re-attestation was cancelled")

/-- `_invoke` up to the operation. -/
def check (flight : Flight ε τ) : Flight ε τ :=
  match flight.phase with
  | .starting =>
    { flight with phase := if flight.cancel then .settling wasCancelled else .executing }
  | _ => flight

/-- The operation returns or raises. -/
def finish (own : Ending ε τ) (flight : Flight ε τ) : Flight ε τ :=
  match flight.phase, own with
  | .executing, .ok value => { flight with phase := .returned value, own := some own }
  | .executing, .error raised => { flight with phase := .settling (.error raised), own := some own }
  | _, _ => flight

/-- `_invoke` after the operation. -/
def recheck (flight : Flight ε τ) : Flight ε τ :=
  match flight.phase with
  | .returned value =>
    { flight with phase := .settling (if flight.cancel then wasCancelled else .ok value) }
  | _ => flight

/-- The future gets its result or its exception. -/
def settle (flight : Flight ε τ) : Flight ε τ :=
  match flight.phase with
  | .settling outcome => { flight with phase := .done outcome }
  | _ => flight

end Flight

/-! ## Calls -/

/-- Where a call of `run` stands: it waits for its refresh; its time is over; or it ended. -/
inductive CallStatus (ε τ : Type) where
  | waiting
  | timingOut
  | ended (outcome : Ending ε τ)

structure Call (ε τ : Type) where
  hotkey : Text
  generation : ℤ
  flight : Option ℕ
  status : CallStatus ε τ

/-- Everything shared: all refreshes and calls so far, the refresh of each worker in
`_flights`, the queue of the pool, and the callbacks to come. -/
structure State (ε τ : Type) where
  flights : List (Flight ε τ)
  calls : List (Call ε τ)
  current : Text → Option ℕ
  queue : List ℕ
  callbacks : List ℕ

namespace State

def initial : State ε τ := ⟨[], [], fun _ => none, [], []⟩

/-- A refresh changes. -/
def onFlight (s : State ε τ) (f : ℕ) (change : Flight ε τ → Flight ε τ) : State ε τ :=
  { s with flights := s.flights.modify f change }

/-- A call changes. -/
def onCall (s : State ε τ) (c : ℕ) (status : CallStatus ε τ) : State ε τ :=
  { s with calls := s.calls.modify c fun call => { call with status := status } }

def addCall (s : State ε τ) (call : Call ε τ) : State ε τ := { s with calls := s.calls ++ [call] }

/-- The refresh under way for a worker, if there is one. -/
def underWay (s : State ε τ) (hotkey : Text) : Option (ℕ × Flight ε τ) :=
  (s.current hotkey).bind fun f =>
    (s.flights[f]?.filter fun flight => !flight.isDone).map fun flight => (f, flight)

/-- `self._flights.pop(hotkey)` where the refresh is still the one there. -/
def forget (s : State ε τ) (hotkey : Text) (f : ℕ) : State ε τ :=
  if s.current hotkey = some f then { s with current := Function.update s.current hotkey none }
  else s

/-- The threads that are busy: with a refresh, or with its callback. -/
def busy (s : State ε τ) : ℕ := s.flights.countP Flight.isBusy + s.callbacks.length

end State

/-! ## Steps -/

/-- What callers, the threads of the pool and the passage of time do. Refreshes and calls are
numbered in the order they began. -/
inductive Step (ε τ : Type) where
  | run (hotkey : Text) (generation : ℤ) (timeoutSeconds : ℚ)
  | cancel (hotkey : Text)
  | take
  | check (f : ℕ)
  | finish (f : ℕ) (own : Ending ε τ)
  | recheck (f : ℕ)
  | settle (f : ℕ)
  | callback (f : ℕ)
  | wake (c : ℕ)
  | timeOut (c : ℕ)
  | giveUp (c : ℕ)

/-- What `run` checks of its arguments. -/
def refusal (hotkey : Text) (generation : ℤ) (timeoutSeconds : ℚ) : Option Text :=
  if hotkey = [] then some "refresh hotkey is invalid"
  else if generation ≤ 0 then some "refresh generation is invalid"
  else if timeoutSeconds ≤ 0 then some "refresh timeout must be positive"
  else none

/-- The part of `run` under the lock. -/
def enter (s : State ε τ) (hotkey : Text) (generation : ℤ) : State ε τ :=
  match s.underWay hotkey with
  | some (f, flight) =>
    if flight.generation ≠ generation then
      (s.onFlight f Flight.requestCancel).addCall ⟨hotkey, generation, none,
        .ended (.error (.lifecycleError "worker generation changed during refresh"))⟩
    else s.addCall ⟨hotkey, generation, some f, .waiting⟩
  | none =>
    { s with
      flights := s.flights ++ [Flight.submitted hotkey generation]
      calls := s.calls ++ [⟨hotkey, generation, some s.flights.length, .waiting⟩]
      current := Function.update s.current hotkey (some s.flights.length)
      queue := s.queue ++ [s.flights.length] }

/-- `cancel`; the callback of a refresh that is withdrawn runs at once. -/
def cancel (s : State ε τ) (hotkey : Text) : State ε τ :=
  match s.underWay hotkey with
  | some (f, flight) =>
    let s := s.onFlight f Flight.withdraw
    if flight.isQueued then s.forget hotkey f else s
  | none => s

/-- A free thread takes the next refresh. -/
def take (maxWorkers : ℕ) (s : State ε τ) : State ε τ :=
  match s.queue with
  | f :: queue =>
    if s.busy < maxWorkers then { s.onFlight f Flight.take with queue := queue } else s
  | [] => s

/-- The future of a refresh gets its outcome; its callback is still to come. -/
def settle (s : State ε τ) (f : ℕ) : State ε τ :=
  match s.flights[f]?.map Flight.phase with
  | some (.settling _) => { s.onFlight f Flight.settle with callbacks := s.callbacks ++ [f] }
  | _ => s

/-- `_completed`. -/
def callback (s : State ε τ) (f : ℕ) : State ε τ :=
  match s.flights[f]? with
  | some flight =>
    if f ∈ s.callbacks then
      { s with callbacks := s.callbacks.erase f }.forget flight.hotkey f
    else s
  | none => s

/-- What `future.result` raises or returns, as `run` goes on with it. -/
def resultStatus : Phase ε τ → Option (CallStatus ε τ)
  | .done (.error .timeoutError) => some .timingOut
  | .done outcome => some (.ended outcome)
  | .cancelled => some (.ended (.error .cancelledError))
  | _ => none

/-- The refresh that a waiting call waits for. -/
def awaited (s : State ε τ) (c : ℕ) : Option ℕ :=
  match s.calls[c]? with
  | some ⟨_, _, some f, .waiting⟩ => some f
  | _ => none

/-- A waiting call gets the outcome of its refresh. -/
def wake (s : State ε τ) (c : ℕ) : State ε τ :=
  match (awaited s c).bind fun f => (s.flights[f]?).bind fun flight => resultStatus flight.phase with
  | some status => s.onCall c status
  | none => s

/-- The time of a waiting call is over. -/
def timeOut (s : State ε τ) (c : ℕ) : State ε τ :=
  match awaited s c with
  | some _ => s.onCall c .timingOut
  | none => s

/-- The `except TimeoutError` of `run`. -/
def giveUp (s : State ε τ) (c : ℕ) : State ε τ :=
  match s.calls[c]? with
  | some ⟨_, _, some f, .timingOut⟩ =>
    (s.onFlight f Flight.requestCancel).onCall c
      (.ended (.error (.lifecycleError "worker re-attestation timed out")))
  | _ => s

/-- One step; a step that is not possible changes nothing. -/
def step (maxWorkers : ℕ) (s : State ε τ) : Step ε τ → State ε τ
  | .run hotkey generation timeoutSeconds =>
    match refusal hotkey generation timeoutSeconds with
    | some message => s.addCall ⟨hotkey, generation, none, .ended (.error (.lifecycleError message))⟩
    | none => enter s hotkey generation
  | .cancel hotkey => cancel s hotkey
  | .take => take maxWorkers s
  | .check f => s.onFlight f Flight.check
  | .finish f own => s.onFlight f (Flight.finish own)
  | .recheck f => s.onFlight f Flight.recheck
  | .settle f => settle s f
  | .callback f => callback s f
  | .wake c => wake s c
  | .timeOut c => timeOut s c
  | .giveUp c => giveUp s c

/-! ## The epoch -/

/-- What the epoch keeps of one worker. -/
inductive Collected (τ : Type) where
  | attested (value : τ)
  | failed (error : Text)

/-- `_collect_attestation_singleflight` after `run`. -/
def collectSingleflight : Ending ε τ → Except (Raised ε) (Collected τ)
  | .ok value => .ok (.attested value)
  | .error (.lifecycleError message) => .ok (.failed message)
  | .error raised => .error raised

/-- The loop of `_attest_targets` over the workers in their order: the first exception that
was not collected ends the epoch. -/
def attestTargets (outcomes : List (Ending ε τ)) : Except (Raised ε) (List (Collected τ)) :=
  outcomes.mapM collectSingleflight

end SingleFlight

end Cathedral.Runtime
