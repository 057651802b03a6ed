import FivegLab.Program.Play
import FivegLab.Program.Realize
import FivegLab.Readiness.Core
import Mathlib.Algebra.Order.Ring.Rat

/-!
# Waiting for the core

`wait_core_ready` polls the core until it has been ready for a while.  Its local
variables are the state, since what they were when an exception arose is
reported.
-/

namespace FivegLab

open Routine (state update raise attempt ofExcept unfinished)

/-- What the wait asks of the host: its clock, and snapshots of the core. -/
inductive CoreProbeOp
  | monotonic
  | sleep (seconds : ℚ)
  | readCore (deadline : ℚ)
  deriving DecidableEq, Repr

abbrev CoreProbeOp.Reply : CoreProbeOp → Type
  | .monotonic => ℚ
  | .sleep _ => Except Raised Unit
  | .readCore _ => Except Raised CoreSnapshot

abbrev CoreProbe : Interface where
  Op := CoreProbeOp
  Reply := CoreProbeOp.Reply

/-- A container and the process in it: `(state["id"], state["started_at"])`. -/
abbrev CoreIdentity := Json × Json

/-- The local variables of the wait. -/
structure CoreWait where
  stableSince : Option ℚ := none
  identities : List (String × CoreIdentity) := []
  snapshot : CoreSnapshot := {}
  detail : String := "Core readiness timed out"
  passed : Bool := false
  deriving DecidableEq, Repr

abbrev CoreM := Routine CoreProbe CoreWait Raised

namespace CoreProbe

def monotonic : CoreM ℚ := Routine.call (I := CoreProbe) .monotonic

def sleep (seconds : ℚ) : CoreM Unit :=
  Routine.call (I := CoreProbe) (.sleep seconds) >>= ofExcept

def readCore (deadline : ℚ) : CoreM CoreSnapshot :=
  Routine.call (I := CoreProbe) (.readCore deadline) >>= ofExcept

end CoreProbe

open CoreProbe

structure WaitSettings where
  timeout : ℤ := 120
  stableSeconds : ℤ := 30
  interval : ℚ := 2
  deriving DecidableEq, Repr

structure ReadinessResult where
  passed : Bool
  detail : String
  elapsedSeconds : ℚ
  snapshot : CoreSnapshot
  deriving DecidableEq, Repr

def CoreContainer.identity (container : CoreContainer) : CoreIdentity :=
  (container.id, container.startedAt)

/-- The identity of a service that runs. -/
def CoreSnapshot.identity (snapshot : CoreSnapshot) (service : String) : Option CoreIdentity :=
  match snapshot.container service with
  | some container =>
      if container.status = .string "running" then some container.identity else none
  | none => none

/-- Keep the identities of the running services, and note every one that changed. -/
def trackIdentities (snapshot : CoreSnapshot) :
    List String → List (String × CoreIdentity) → List String × List (String × CoreIdentity)
  | [], known => ([], known)
  | service :: services, known =>
      match snapshot.identity service with
      | none => trackIdentities snapshot services known
      | some identity =>
          let later := trackIdentities snapshot services ((service, identity) :: known)
          (noteUnless (∀ before, known.lookup service = some before → before = identity)
            (service ++ ": container/process changed during readiness") ++ later.1, later.2)

/-- What the wait makes of a snapshot without fatal issues. -/
def CoreWait.assess (settings : WaitSettings) (deadline now : ℚ) (pending : List String)
    (wait : CoreWait) : CoreWait :=
  if pending ≠ [] then
    { wait with
      stableSince := none
      detail := "Core readiness timed out: " ++ "; ".intercalate pending }
  else
    let stableSince := wait.stableSince.getD now
    if settings.stableSeconds ≤ now - stableSince ∧ now < deadline then
      { wait with
        stableSince := some stableSince
        passed := true
        detail := "Core initialized, MongoDB healthy, NRF/PFCP associations ready, " ++
          "and no restarts for " ++ toString settings.stableSeconds ++
          "s; not baseline validation" }
    else
      { wait with
        stableSince := some stableSince
        detail := "Core readiness timed out before the stability window completed" }

/-- One poll of the core.  The answer tells whether the wait is over. -/
def poll (settings : WaitSettings) (deadline : ℚ) : CoreM Bool := do
  let snapshot ← readCore deadline
  update fun wait => { wait with snapshot }
  let issues ← ofExcept (coreIssues snapshot)
  let wait ← state
  let tracked := trackIdentities snapshot coreServices wait.identities
  update fun wait => { wait with identities := tracked.2 }
  if issues.fatal ++ tracked.1 ≠ [] then
    update fun wait => { wait with detail := "; ".intercalate (issues.fatal ++ tracked.1) }
    return true
  else
    let now ← monotonic
    update (CoreWait.assess settings deadline now issues.pending)
    let wait ← state
    return wait.passed

/-- The loop of the wait. -/
def watch (settings : WaitSettings) (deadline : ℚ) : ℕ → CoreM Unit
  | 0 => unfinished
  | rounds + 1 => do
      let now ← monotonic
      if now < deadline then
        if ← poll settings deadline then return
        else
          let now ← monotonic
          CoreProbe.sleep (min settings.interval (max 0 (deadline - now)))
          watch settings deadline rounds
      else return

/-- `except (RuntimeError, ValueError, KeyError, TypeError, KeyboardInterrupt)`. -/
def Raised.isReadinessFailure (error : Raised) : Bool :=
  error.isRuntimeError || error.isValueError || error.kind = .keyError ||
    error.kind = .typeError || error.kind = .keyboardInterrupt

/-- The loop with its handler. -/
def guardedWatch (settings : WaitSettings) (deadline : ℚ) (rounds : ℕ) : CoreM Unit := do
  match ← attempt (watch settings deadline rounds) with
  | .ok () => return
  | .error error =>
      if error.isReadinessFailure then
        update fun wait => { wait with detail := "Core readiness failed: " ++ error.message }
      else raise error

/-- Round to the nearest integer, and half-way to the even one. -/
def roundHalfEven (number : ℚ) : ℤ :=
  if number - number.floor < 1 / 2 then number.floor
  else if 1 / 2 < number - number.floor then number.floor + 1
  else if number.floor % 2 = 0 then number.floor else number.floor + 1

/-- `round(seconds, 3)`. -/
def roundMillis (seconds : ℚ) : ℚ := roundHalfEven (seconds * 1000) / 1000

def waitCoreReady (settings : WaitSettings) (rounds : ℕ) : CoreM ReadinessResult :=
  if settings.timeout ≤ 0 ∨ settings.stableSeconds ≤ 0 ∨
      settings.timeout ≤ settings.stableSeconds ∨ settings.interval ≤ 0 then
    raise (.valueError "Require timeout > stable_seconds > 0 and interval > 0")
  else do
    let started ← monotonic
    guardedWatch settings (started + settings.timeout) rounds
    let finished ← monotonic
    let wait ← state
    return ⟨wait.passed, wait.detail, roundMillis (finished - started), wait.snapshot⟩

end FivegLab
