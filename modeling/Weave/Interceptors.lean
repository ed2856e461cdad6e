import Weave.Advice

/-! Ready-made advice: writing the log around calls, watching their duration, noting errors, and
trying again. -/

namespace Weave

variable [ValueTypes] {σ : Type}

def traceAdvice (withArguments : Bool) : Around σ Outcome := do
  let point ← Around.joinPoint
  let count := if withArguments then some point.arguments.size else none
  Around.act (Action.emit (.entering point.method count))
  let outcome ← Around.proceed
  let fault := match outcome with
    | .ok _ => none
    | .error fault => some fault
  Around.act (Action.emit (.exiting point.method fault))
  return outcome

def nanosecondsPerMillisecond : Nat := 1000000

def performanceAdvice (threshold : Nat) : Around σ Outcome := do
  let started ← Around.act (Action.query .readClock)
  let outcome ← Around.proceed
  let ended ← Around.act (Action.query .readClock)
  let point ← Around.joinPoint
  let event : Event :=
    if ended - started > threshold then .slow point.method (threshold / nanosecondsPerMillisecond)
    else .timed point.method
  Around.act (Action.emit event)
  return outcome

def exceptionLogging (point : JoinPoint) (fault : Fault) : Action σ (Except Fault Unit) := do
  Action.emit (.raised point.method fault.info)
  return .ok ()

/-- Trying again. At least one attempt is made; a condition, where there is one, is asked after
each failed attempt but the last. -/
structure Retry (σ : Type) where
  maxAttempts : Nat
  retryIf : Option (Fault → Action σ Bool) := none
  atLeastOne : 0 < maxAttempts

namespace Retry

def ofLimit (limit : Nat) (retryIf : Option (Fault → Action σ Bool) := none) : Retry σ :=
  ⟨max limit 1, retryIf, by omega⟩

def shouldRetry (retry : Retry σ) (fault : Fault) : Action σ Bool :=
  match retry.retryIf with
  | some condition => condition fault
  | none => pure true

/-- The attempts from number `attempt` on, of which `further` may follow the first. -/
def attempts (retry : Retry σ) : (further attempt : Nat) → Around σ Outcome
  | 0, _ => Around.proceed
  | further + 1, attempt => do
    match ← Around.proceed with
    | .ok value => return .ok value
    | .error fault =>
      if ← Around.act (retry.shouldRetry fault) then
        let point ← Around.joinPoint
        Around.act (Action.emit (.retrying point.method attempt retry.maxAttempts fault))
        attempts retry further (attempt + 1)
      else return .error fault

def interceptor (retry : Retry σ) : Around σ Outcome := retry.attempts (retry.maxAttempts - 1) 1

def describe (retry : Retry σ) : String :=
  Text.record "RetryInterceptor" [("max_attempts", toString retry.maxAttempts),
    ("conditional", toString retry.retryIf.isSome)]

end Retry

end Weave
