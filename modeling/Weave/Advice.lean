import Weave.Completion
import Weave.Dialogue
import Weave.Source

/-! Advice: what is done around a call. All advice is a dialogue with the engine. Simple advice may
use the memory, call proxies, swap targets and write events; advice around a call may also look at
the call, change its arguments and let it proceed, any number of times. -/

namespace Weave

variable [ValueTypes]

abbrev SnapshotId := Nat

/-- A handle on a proxied target: how it is exposed, and under which configuration. -/
structure Proxy where
  strategy : Strategy
  snapshot : SnapshotId
deriving DecidableEq, Repr

structure ProxyView where
  strategy : Strategy
  className : String
  advisors : Nat
deriving DecidableEq, Repr

def ProxyView.describe (view : ProxyView) : String :=
  Text.record "Proxy" [("strategy", view.strategy.describe),
    ("target_class", Text.quoted view.className), ("advisors", toString view.advisors)]

/-- A point in the execution of a call, as advice sees it. -/
structure JoinPoint where
  method : Method
  arguments : Arguments
  target : Target
  cls : TargetClass

namespace JoinPoint

def signature (point : JoinPoint) : String := point.method.signature

def describe (point : JoinPoint) : String :=
  Text.record "JoinPoint" [("target_class", Text.quoted point.cls.name),
    ("method", Text.quoted point.signature), ("arguments", toString point.arguments.size)]

end JoinPoint

/-- What any advice may ask for without calling anyone. -/
inductive Query (σ : Type) where
  | update (change : σ → σ)
  | allocate
  | view (proxy : Proxy)
  | swap (source : Source σ) (target : Target)
  | counts (source : Source σ)
  | readClock
  | emit (event : Event)

variable {σ : Type}

/-- An update answers with the memory before it; the clock counts nanoseconds. -/
abbrev Query.Answer : Query σ → Type
  | update _ => σ
  | allocate => ObjectId
  | view _ => ProxyView
  | swap _ _ => Except ConfigError Target
  | counts _ => Counts
  | readClock => Nat
  | emit _ => Unit

/-- What any advice may ask for. -/
inductive Request (σ : Type) where
  | query (query : Query σ)
  | call (proxy : Proxy) (method : Method) (args : Arguments)

abbrev Request.Answer : Request σ → Type
  | query asked => asked.Answer
  | call _ _ _ => Outcome

abbrev Action (σ : Type) : Type → Type := Dialogue (Request σ) Request.Answer

namespace Action

def query (query : Query σ) : Action σ query.Answer := Dialogue.question (Request.query query)

def call (proxy : Proxy) (method : Method) (args : Arguments) : Action σ Outcome :=
  Dialogue.question (Request.call proxy method args)

def consult : Action σ σ := query (.update id)

def update (change : σ → σ) : Action σ Unit := do
  let _ ← query (.update change)
  pure ()

def emit (event : Event) : Action σ Unit := query (.emit event)

end Action

/-- A call as advice around it sees it: its join point, how far the chain has been entered, and the
proxy the call came through if that is exposed. -/
structure InvocationView where
  point : JoinPoint
  position : Nat
  chainLength : Nat
  exposed : Option Proxy

def InvocationView.describe (view : InvocationView) : String :=
  Text.record "MethodInvocation" [("method", Text.quoted view.point.signature),
    ("target_class", Text.quoted view.point.cls.name), ("position", toString view.position),
    ("chain_len", toString view.chainLength)]

/-- What advice around a call may ask for besides. -/
inductive AroundRequest (σ : Type) where
  | engine (request : Request σ)
  | view
  | setArguments (args : Arguments)
  | proceed

abbrev AroundRequest.Answer : AroundRequest σ → Type
  | engine request => request.Answer
  | view => InvocationView
  | setArguments _ => Unit
  | proceed => Outcome

abbrev Around (σ : Type) : Type → Type := Dialogue (AroundRequest σ) AroundRequest.Answer

abbrev Interceptor (σ : Type) : Type := Around σ Outcome

namespace Around

def act {α : Type} : Action σ α → Around σ α
  | Dialogue.done result => Dialogue.done result
  | Dialogue.ask request next => Dialogue.ask (.engine request) fun answer => act (next answer)

def view : Around σ InvocationView := Dialogue.question AroundRequest.view

def joinPoint : Around σ JoinPoint := do return (← view).point

def setArguments (args : Arguments) : Around σ Unit :=
  Dialogue.question (AroundRequest.setArguments args)

def proceed : Around σ Outcome := Dialogue.question AroundRequest.proceed

end Around

inductive AdviceType where
  | before | after | afterReturning | afterThrowing | around
deriving DecidableEq, Repr

namespace AdviceType

def name : AdviceType → String
  | before => "before"
  | after => "after"
  | afterReturning => "after-returning"
  | afterThrowing => "after-throwing"
  | around => "around"

def describe : AdviceType → String
  | before => "Before"
  | after => "After"
  | afterReturning => "AfterReturning"
  | afterThrowing => "AfterThrowing"
  | around => "Around"

end AdviceType

inductive Advice (σ : Type) where
  | around (interceptor : Interceptor σ)
  | before (advice : JoinPoint → Action σ (Except Fault Unit))
  | after (advice : JoinPoint → Action σ Unit)
  | afterReturning (advice : JoinPoint → Value → Action σ (Except Fault Unit))
  | afterThrowing (advice : JoinPoint → Fault → Action σ (Except Fault Unit))

namespace Advice

def type : Advice σ → AdviceType
  | around _ => .around
  | before _ => .before
  | after _ => .after
  | afterReturning _ => .afterReturning
  | afterThrowing _ => .afterThrowing

def describe (advice : Advice σ) : String := "Advice(" ++ advice.type.name ++ ")"

/-- Every kind of advice as advice around the call. An error of before-advice keeps the call from
proceeding; one of the later kinds replaces the outcome. -/
def interceptor : Advice σ → Around σ Outcome
  | around interceptor => interceptor
  | before advice => do
    match ← Around.act (advice (← Around.joinPoint)) with
    | .ok _ => Around.proceed
    | .error fault => return .error fault
  | after advice => do
    let outcome ← Around.proceed
    Around.act (advice (← Around.joinPoint))
    return outcome
  | afterReturning advice => do
    match ← Around.proceed with
    | .error fault => return .error fault
    | .ok value =>
      match ← Around.act (advice (← Around.joinPoint) value) with
      | .ok _ => return .ok value
      | .error fault => return .error fault
  | afterThrowing advice => do
    match ← Around.proceed with
    | .ok value => return .ok value
    | .error fault =>
      match ← Around.act (advice (← Around.joinPoint) fault) with
      | .ok _ => return .error fault
      | .error replacement => return .error replacement

end Advice

end Weave
