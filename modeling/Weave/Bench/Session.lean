import Weave.AutoProxy
import Weave.Bench.Script

/-! Workbench: sessions. A session is a container together with the names under which a script
knows what it made. A step of a script runs against a session; it may end early with an answer of
its own, and what it changed until then stays changed. -/

namespace Weave.Bench

inductive Named where
  | cls | source | target | factory | proxy | bean | creator
deriving DecidableEq, Repr

def Named.word : Named → String
  | cls => "class"
  | source => "source"
  | target => "target"
  | factory => "factory"
  | proxy => "proxy"
  | bean => "bean"
  | creator => "creator"

inductive Answer where
  | done
  | nothing
  | flag (value : Bool)
  | number (value : Nat)
  | text (value : String)
  | missing (kind : Named) (name : String)
  | refused (error : ConfigError)
  | failed (fault : Fault)
  | outcome (outcome : Outcome)
  | described (description : Description)
  | classInfo (cls : TargetClass)
  | declares (interface cls : Bool)
  | source (className : String) (isStatic : Bool)
  | held (target : Description) (sameAs : List String)
  | counted (counts : SourceCounts)
  | factory (factory : Factory Memory)
  | snapshot (snapshot : Snapshot Memory)
  | proxy (view : ProxyView)
  | builtProxy (view : ProxyView) (text : String)
  | proxyState (view : ProxyView) (snapshot : Snapshot Memory) (cached : Nat)
  | chain (entries : List (String × Bool)) (before after : Nat)
  | value (value : Value)
  | declared (family : String) (error : FamilyError)
  | registered (className : String) (size : Nat)
  | registrations (entries : List (String × String))
  | creator (creator : AutoProxyCreator Memory)
  | decision (proxies : Bool) (text : String)
  | bean (description : Description) (same : Bool)
  | beanFailed (error : ContainerError)
  | wrapped (decision : String) (description : Description) (same : Bool)
  | processors (pipeline : Pipeline Memory)

structure Session where
  container : Container Memory
  classes : Table String TargetClass := {}
  descriptors : Table ObjectType ClassDescriptor := {}
  held : List (String × Target) := []
  factory : Option (Factory Memory) := none
  proxies : Table String Proxy := {}
  beans : Table String Bean := {}
  creators : Table String (AutoProxyCreator Memory) := {}
  pipeline : Pipeline Memory := {}

def Session.fresh : Session where
  container :=
    { entryCode := entryCode, state := { memory := {} }
      shared := Registry.load {} registrations }

abbrev Act : Type → Type := ExceptT Answer (StateM Session)

namespace Act

def orMissing {α : Type} (kind : Named) (name : String) (found : Option α) : Act α :=
  match found with
  | some item => pure item
  | none => throw (.missing kind name)

def cls (name : String) : Act TargetClass := do orMissing .cls name ((← get).classes.find? name)

def source (name : String) : Act (Source Memory) := do
  orMissing .source name ((← get).container.state.memory.source? name)

def factory : Act (Factory Memory) := do orMissing .factory "" (← get).factory

def bean (name : String) : Act Bean := do orMissing .bean name ((← get).beans.find? name)

def creator (name : String) : Act (AutoProxyCreator Memory) := do
  orMissing .creator name ((← get).creators.find? name)

def proxy (name : String) : Act Proxy := do
  let session ← get
  match session.proxies.find? name, session.beans.find? name with
  | some proxy, _ => pure proxy
  | none, some (.proxied _ proxy) => pure proxy
  | none, _ => throw (.missing .proxy name)

def accept {α : Type} : Except ConfigError α → Act α
  | .ok result => pure result
  | .error error => throw (.refused error)

def onContainer {α : Type} (step : Container Memory → α × Container Memory) : Act α := do
  let session ← get
  let (result, container) := step session.container
  set { session with container }
  pure result

def onState {α : Type} (step : State Memory → α × State Memory) : Act α :=
  onContainer (·.withState step)

def emit (event : Event) : Act Unit := onContainer fun container => ((), container.emit event)

def memory : Act Memory := do return (← get).container.state.memory

def describe (target : Target) : Act Description := do return (← memory).describe target

def newObject (plan : ObjectPlan) : Act Target := do
  let id ← onState State.allocate
  onState fun state => ((), { state with memory := state.memory.place id plan.body })
  pure ⟨id, plan.type⟩

def advisor (script : AdvisorScript) : Act (Advisor Memory) := accept script.build

def setFactory (factory : Factory Memory) : Act Unit := modify ({ · with factory := some factory })

def onFactory (change : Factory Memory → Except ConfigError (Factory Memory)) : Act Answer := do
  setFactory (← accept (change (← factory)))
  pure .done

def descriptorOf (type : ObjectType) : Act ClassDescriptor := do
  if type = accountType then pure Bank.account
  else if type = vaultType then pure Bank.vault
  else pure ((← get).descriptors.getD type ⟨type.shortName, [], false⟩)

def viewOf (proxy : Proxy) : Act ProxyView := do return (← get).container.viewOf proxy

def describeBean (bean : Bean) : Act Description := do
  match bean with
  | .plain target => describe target
  | .proxied _ proxy => return .proxied (← viewOf proxy)

end Act

def Act.run (act : Act Answer) (session : Session) : Answer × Session :=
  match (ExceptT.run act).run session with
  | (.ok answer, session) => (answer, session)
  | (.error answer, session) => (answer, session)

end Weave.Bench
