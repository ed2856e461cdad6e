import Weave.State

/-! Calls through proxies. What happens in a call is a course: a dialogue about operations, which
ends with the outcome of the call. A call fetches a target, finds the chain of its method and runs
it: each piece of advice gets the rest of the chain as its `proceed`, and past the last one the
target's own code is called. Advice may call proxies again; how deep calls may nest is bounded by an
allowance that the caller chooses. Running a course performs its operations on the state. -/

namespace Weave

variable [ValueTypes]

/-- One thing that happens in the course of calls. `advise` marks where advice begins. -/
inductive Operation (σ : Type) where
  | fetch (source : Source σ)
  | giveBack (source : Source σ) (target : Target)
  | findChain (snapshot : SnapshotId) (method : Method)
  | advise (interceptor : Interceptor σ) (args : Arguments)
  | dispatch (cls : TargetClass) (target : Target) (method : Method) (args : Arguments)
  | query (query : Query σ)

variable {σ : Type}

abbrev Operation.Answer : Operation σ → Type
  | fetch _ => Except Fault Target
  | giveBack _ _ => Except Fault Unit
  | findChain _ _ => Chain σ
  | advise _ _ => Unit
  | dispatch _ _ _ _ => Outcome
  | query asked => asked.Answer

abbrev Course (σ : Type) : Type → Type := Dialogue (Operation σ) Operation.Answer

namespace Course

def perform (operation : Operation σ) : Course σ operation.Answer := Dialogue.question operation

def emit (event : Event) : Course σ Unit := perform (.query (.emit event))

end Course

/-- What stays the same during one call. -/
structure CallFrame where
  method : Method
  target : Target
  cls : TargetClass
  chainLength : Nat
  exposed : Option Proxy

/-- How far a call has come: its arguments now, and how many entries of the chain have been passed
on the way to this point. -/
structure Progress where
  arguments : Arguments
  position : Nat

def CallFrame.view (frame : CallFrame) (progress : Progress) : InvocationView :=
  ⟨⟨frame.method, progress.arguments, frame.target, frame.cls⟩, progress.position,
    frame.chainLength, frame.exposed⟩

/-! ### Advice -/

section
variable (frame : CallFrame) (call : Proxy → Method → Arguments → Course σ Outcome)

def Request.course : (request : Request σ) → Course σ request.Answer
  | .query asked => Course.perform (.query asked)
  | .call proxy method args => call proxy method args

def Action.course {α : Type} (action : Action σ α) : Course σ α := do
  let (result, _) ← action.translate (fun request world => do return (← request.course call, world)) ()
  return result

def AroundRequest.course (proceed : Progress → Course σ (Outcome × Progress)) :
    (request : AroundRequest σ) → Progress → Course σ (request.Answer × Progress)
  | .engine request, progress => do return (← request.course call, progress)
  | .view, progress => return (frame.view progress, progress)
  | .setArguments args, progress => return ((), { progress with arguments := args })
  | .proceed, progress => proceed progress

def Interceptor.course (proceed : Progress → Course σ (Outcome × Progress))
    (interceptor : Interceptor σ) (progress : Progress) : Course σ (Outcome × Progress) := do
  Course.perform (.advise interceptor progress.arguments)
  interceptor.translate (AroundRequest.course frame call proceed) progress

/-! ### Chains -/

def Progress.passing (progress : Progress) : Progress :=
  { progress with position := progress.position + 1 }

def Progress.returning (goOn : Progress → Course σ (Outcome × Progress)) (progress : Progress) :
    Course σ (Outcome × Progress) := do
  let (outcome, after) ← goOn progress
  return (outcome, { after with position := progress.position })

def CallFrame.reachTarget (progress : Progress) : Course σ (Outcome × Progress) := do
  Course.emit (.chainEnded frame.method)
  let outcome ← Course.perform
    (.dispatch frame.cls frame.target frame.method progress.arguments)
  return (outcome, progress)

/-- Goes on from the position reached so far, past the entries that do not take the arguments as
they are now. `ahead` is how many entries there can still be. -/
def Chain.advance (chain : Chain σ) : (ahead : Nat) → Progress → Course σ (Outcome × Progress)
  | 0, progress => frame.reachTarget progress
  | ahead + 1, progress =>
    match chain[progress.position]? with
    | none => frame.reachTarget progress
    | some (.fixed interceptor) =>
      Interceptor.course frame call (Progress.returning (advance chain ahead)) interceptor
        progress.passing
    | some (.dynamic interceptor advisor) =>
      if advisor.pointcut.methodMatcher.matchesCall frame.method frame.cls progress.arguments then
        Interceptor.course frame call (Progress.returning (advance chain ahead)) interceptor
          progress.passing
      else do
        Course.emit (.advisorSkipped advisor.name frame.method)
        advance chain ahead progress.passing

def Chain.proceed (chain : Chain σ) : Progress → Course σ (Outcome × Progress) :=
  Progress.returning (Chain.advance frame call chain chain.length)

end

/-! ### Calls -/

/-- The part of a call between fetching its target and giving it back. -/
def Snapshot.callOn (snapshot : Snapshot σ)
    (call : Proxy → Method → Arguments → Course σ Outcome) (proxy : Proxy) (target : Target)
    (method : Method) (args : Arguments) : Course σ Outcome := do
  let chain ← Course.perform (.findChain proxy.snapshot method)
  if chain.isEmpty then
    Course.emit (.noAdvice method)
    Course.perform (.dispatch snapshot.cls target method args)
  else
    let exposed := if snapshot.flags.exposeProxy then some proxy else none
    let frame : CallFrame := ⟨method, target, snapshot.cls, chain.length, exposed⟩
    let (outcome, _) ← Chain.proceed frame call chain ⟨args, 0⟩
    return outcome

/-- Gives a target back after a call. A failure is noted and goes no further. -/
def Source.release (source : Source σ) (target : Target) : Course σ Unit := do
  match ← Course.perform (.giveBack source target) with
  | .ok _ => return ()
  | .error fault => Course.emit (.releaseFailed source.cls.name fault)

def nestingExhausted : Fault := .text "call nesting limit reached"

/-- The course of a call through a proxy. Nothing happens if the proxy does not expose the method.
The target is given back at the end unless the source is static, whatever the outcome. -/
def Setup.call (setup : Setup σ) : Nat → Proxy → Method → Arguments → Course σ Outcome
  | 0, _, _, _ => return .error nestingExhausted
  | depth + 1, proxy, method, args => do
    let snapshot := setup.snapshots proxy.snapshot
    if snapshot.exposes proxy.strategy method then
      match ← Course.perform (.fetch snapshot.source) with
      | .error fault => return .error fault
      | .ok target =>
        let outcome ← snapshot.callOn (setup.call depth) proxy target method args
        unless snapshot.source.isStatic do snapshot.source.release target
        return outcome
    else return .error (.invocation (.methodNotProxied method.signature proxy.strategy))

/-! ### Performing operations -/

def TargetClass.dispatch (cls : TargetClass) (setup : Setup σ) (target : Target) (method : Method)
    (args : Arguments) (state : State σ) : Outcome × State σ :=
  match cls.route? method with
  | none => (.error (.invocation (.unknownMethod method.signature cls.name)), state)
  | some (entry, expected) =>
    if target.type = cls.type then state.withMemory (setup.entryCode entry target method args)
    else (.error (.invocation (.targetTypeMismatch expected)), state)

theorem dispatch_frame (setup : Setup σ) (cls : TargetClass) (target : Target) (method : Method)
    (args : Arguments) (state : State σ) :
    ∃ memory, (cls.dispatch setup target method args state).2 = { state with memory } := by
  unfold TargetClass.dispatch
  split
  · exact ⟨_, rfl⟩
  · split
    · exact ⟨_, rfl⟩
    · exact ⟨_, rfl⟩

def Setup.answer (setup : Setup σ) : (query : Query σ) → State σ → query.Answer × State σ
  | .update change, state => (state.memory, { state with memory := change state.memory })
  | .allocate, state => state.allocate
  | .view proxy, state => ((setup.snapshots proxy.snapshot).view proxy.strategy, state)
  | .swap source target, state => source.swap target state
  | .counts source, state => (source.counts state.stock, state)
  | .readClock, state => (state.clock, { state with clock := state.clock + 1 })
  | .emit event, state => ((), state.emit event)

def Setup.perform (setup : Setup σ) :
    (operation : Operation σ) → State σ → operation.Answer × State σ
  | .fetch source, state => source.take state
  | .giveBack source target, state => source.putBack target state
  | .findChain snapshot method, state => setup.chainFor snapshot method state
  | .advise _ _, state => ((), state)
  | .dispatch cls target method args, state => cls.dispatch setup target method args state
  | .query asked, state => setup.answer asked state

def Setup.invoke (setup : Setup σ) (depth : Nat) (proxy : Proxy) (method : Method)
    (args : Arguments) (state : State σ) : Outcome × State σ :=
  (setup.call depth proxy method args).run setup.perform state

end Weave
