import SelfRelay.Lib.Run
import Mathlib.Data.Nat.Notation
import Mathlib.Logic.Function.Basic

/-!
# The availability controller

`AvailabilityController` wakes the service and waits until it is ready.  A call of `start` begins a
run: at most `maxAttempts` attempts, each of two requests, with a wait after each failed one.
`dispose` aborts the run under way.

An `async` function that awaits is continued in a later microtask than the one that settles the
promise, so that an abort can fall between the two.  A run is therefore in one of the phases below,
and `resume` continues it when its promise is settled.  What runs do is recorded in `effects`.
-/

namespace SelfRelay

open StepSystem

inductive AvailabilityState where
  | starting
  | ready
  | degraded
  | failed
  deriving DecidableEq, Repr

/-- The two requests of a check: `AVAILABILITY_WAKE_PATH` and `AVAILABILITY_READINESS_PATH`. -/
inductive AvailabilityPath where
  | wake
  | readiness
  deriving DecidableEq, Repr

def AvailabilityPath.expectedStatus : AvailabilityPath → String
  | .wake => "ok"
  | .readiness => "ready"

/-- The response to a request, with the member `status` of its body where that is a JSON object with
one that is a string. -/
structure AvailabilityResponse where
  ok : Bool
  status : Option String
  deriving DecidableEq, Repr

/-- How a request ends: as expected, with an error (also that of the timeout), or cancelled by the
signal of its run. -/
inductive RequestOutcome where
  | succeeded
  | failed
  | cancelled
  deriving DecidableEq, Repr

/-- The operation of a request: the fetch fails, or its response is looked at. -/
def AvailabilityPath.outcome (path : AvailabilityPath) : Option AvailabilityResponse →
    RequestOutcome
  | none => .failed
  | some response =>
    if response.ok && response.status = some path.expectedStatus then .succeeded else .failed

/-- What a run awaits: a request, which may be settled, or the end of its wait.  A run that is
`attempting` begins its next attempt when it goes on. -/
inductive RunPhase where
  | requesting (path : AvailabilityPath)
  | requested (path : AvailabilityPath) (outcome : RequestOutcome)
  | waiting
  | attempting
  | ended
  deriving DecidableEq, Repr

/-- What the abort handlers of a request and of a wait do. -/
def RunPhase.abort : RunPhase → RunPhase
  | .requesting path => .requested path .cancelled
  | .waiting => .attempting
  | phase => phase

structure AvailabilityRun where
  attempt : ℕ
  phase : RunPhase
  aborted : Bool
  deriving DecidableEq, Repr

inductive AvailabilityEffect where
  | setAttempt (attempt : ℕ)
  | setState (state : AvailabilityState)
  | fetch (path : AvailabilityPath)
  deriving DecidableEq, Repr

/-- The fields of a controller, the first of which the constructor checks, its runs in the order of
their creation, and what they did.  `runPromise` and `abortController` are set
and cleared together. -/
structure AvailabilityController where
  maxAttempts : ℕ
  positive : 0 < maxAttempts
  currentState : AvailabilityState
  currentAttempt : ℕ
  runPromise : Option ℕ
  created : ℕ
  runs : ℕ → AvailabilityRun
  effects : List (ℕ × AvailabilityEffect)

inductive AvailabilityEvent where
  | start
  | dispose
  | completed (r : ℕ) (response : Option AvailabilityResponse)
  | requestTimeout (r : ℕ)
  | retryTimer (r : ℕ)
  | resume (r : ℕ)
  deriving DecidableEq, Repr

namespace AvailabilityController

def initial (maxAttempts : ℕ) (positive : 0 < maxAttempts) : AvailabilityController where
  maxAttempts := maxAttempts
  positive := positive
  currentState := .starting
  currentAttempt := 0
  runPromise := none
  created := 0
  runs _ := ⟨0, .ended, false⟩
  effects := []

variable (s : AvailabilityController) (r : ℕ)

def setRun (run : AvailabilityRun) : AvailabilityController :=
  { s with runs := Function.update s.runs r run }

def setPhase (phase : RunPhase) : AvailabilityController :=
  s.setRun r { s.runs r with phase := phase }

def setState (state : AvailabilityState) : AvailabilityController :=
  { s with currentState := state, effects := s.effects ++ [(r, .setState state)] }

def setAttempt (attempt : ℕ) : AvailabilityController :=
  { s.setRun r { s.runs r with attempt := attempt } with
    currentAttempt := attempt
    effects := s.effects ++ [(r, .setAttempt attempt)] }

/-- A request is sent at once, and awaited together with its timeout and the signal of the run.  A
signal that is aborted already cancels it. -/
def requestStatus (path : AvailabilityPath) : AvailabilityController :=
  { s.setPhase r (if (s.runs r).aborted then .requested path .cancelled else .requesting path) with
    effects := s.effects ++ [(r, .fetch path)] }

/-- The run returns or throws, and `start` forgets it. -/
def finish : AvailabilityController :=
  let s := s.setPhase r .ended
  if s.runPromise = some r then { s with runPromise := none } else s

/-- The head of the loop in `run`. -/
def nextAttempt (attempt : ℕ) : AvailabilityController :=
  if attempt ≤ s.maxAttempts then
    let s := s.setAttempt r attempt
    let s := s.setState r (if attempt = 1 then .starting else .degraded)
    s.requestStatus r .wake
  else s.finish r

def start : AvailabilityController :=
  if s.currentState = .ready then s
  else if s.runPromise.isSome then s
  else if s.currentState = .failed then s
  else
    let r := s.created
    let s := { s with runPromise := some r, created := r + 1 }.setRun r ⟨0, .attempting, false⟩
    s.nextAttempt r 1

def dispose : AvailabilityController :=
  match s.runPromise with
  | none => s
  | some r =>
    { s with runPromise := none }.setRun r
      { s.runs r with phase := (s.runs r).phase.abort, aborted := true }

/-- The `catch` block of `run`. -/
def catchError (outcome : RequestOutcome) : AvailabilityController :=
  if (s.runs r).aborted || outcome = .cancelled then s.finish r
  else if (s.runs r).attempt = s.maxAttempts then (s.setState r .failed).finish r
  else (s.setState r .degraded).setPhase r .waiting

/-- A run goes on after the promise that it awaited is settled. -/
def resume : Option AvailabilityController :=
  match (s.runs r).phase with
  | .requested .wake .succeeded => some (s.requestStatus r .readiness)
  | .requested .readiness .succeeded => some ((s.setState r .ready).finish r)
  | .requested _ outcome => some (s.catchError r outcome)
  | .attempting => some (s.nextAttempt r ((s.runs r).attempt + 1))
  | _ => none

def step : AvailabilityEvent → Option AvailabilityController
  | .start => some s.start
  | .dispose => some s.dispose
  | .completed r response =>
    match (s.runs r).phase with
    | .requesting path => some (s.setPhase r (.requested path (path.outcome response)))
    | _ => none
  | .requestTimeout r =>
    match (s.runs r).phase with
    | .requesting path => some (s.setPhase r (.requested path .failed))
    | _ => none
  | .retryTimer r => if (s.runs r).phase = .waiting then some (s.setPhase r .attempting) else none
  | .resume r => s.resume r

end AvailabilityController

end SelfRelay
