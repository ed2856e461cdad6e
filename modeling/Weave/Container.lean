import Weave.Engine
import Weave.Factory
import Weave.Registry

/-! A container: all that lives together while objects are proxied and called. It owns the
snapshots behind its proxies and the state of the engine, and it knows two registries, its own and
the one that holds the classes registered in advance. -/

namespace Weave

variable [ValueTypes] {σ : Type}

structure Container (σ : Type) where
  entryCode : EntryPoint → Target → Method → Arguments → σ → Outcome × σ
  state : State σ
  snapshots : Array (Snapshot σ) := #[]
  sources : Nat := 0
  registry : Registry := {}
  shared : Registry := {}
  nestingLimit : Nat := 1000000

namespace Container

/-- Stands behind handles that no snapshot belongs to: a class without any method. -/
def noSnapshot : Snapshot σ := { source := ⟨0, .ofType ⟨""⟩, .singleton ⟨0, ⟨""⟩⟩⟩ }

def snapshotOf (container : Container σ) (id : SnapshotId) : Snapshot σ :=
  container.snapshots.getD id noSnapshot

def setup (container : Container σ) : Setup σ := ⟨container.entryCode, container.snapshotOf⟩

def withState {α : Type} (container : Container σ) (step : State σ → α × State σ) :
    α × Container σ :=
  let (result, state) := step container.state
  (result, { container with state })

def emit (container : Container σ) (event : Event) : Container σ :=
  { container with state := container.state.emit event }

def emitAll (container : Container σ) (events : List Event) : Container σ :=
  events.foldl emit container

theorem emitAll_eq (container : Container σ) (events : List Event) :
    container.emitAll events =
      { container with state :=
          { container.state with events := container.state.events ++ events.toArray } } := by
  induction events generalizing container with
  | nil => simp [emitAll]
  | cons event rest ih =>
    change (container.emit event).emitAll rest = _
    rw [ih]
    simp [emit, State.emit]

theorem emitAll_append (container : Container σ) (first second : List Event) :
    container.emitAll (first ++ second) = (container.emitAll first).emitAll second :=
  List.foldl_append

def newSource (container : Container σ) : SourceId × Container σ :=
  (container.sources, { container with sources := container.sources + 1 })

def addSnapshot (container : Container σ) (snapshot : Snapshot σ) : SnapshotId × Container σ :=
  (container.snapshots.size, { container with snapshots := container.snapshots.push snapshot })

theorem snapshotOf_addSnapshot (container : Container σ) (snapshot : Snapshot σ) :
    (container.addSnapshot snapshot).2.snapshotOf container.snapshots.size = snapshot := by
  simp [addSnapshot, snapshotOf, Array.getD]

/-- Builds the proxy for a snapshot. The attempt is on record even if the class does not admit
it. -/
def proxyFor (container : Container σ) (builder : ProxyBuilder) (snapshot : Snapshot σ) :
    Except ConfigError Proxy × Container σ :=
  let container :=
    match builder with
    | .byConfiguration => container.emit (.proxyCreated
        (selectStrategy snapshot.flags snapshot.cls) snapshot.cls.name snapshot.advisors.length)
    | .always _ => container
  match builder.build snapshot with
  | .error error => (.error error, container)
  | .ok strategy =>
    let (id, container) := container.addSnapshot snapshot
    (.ok ⟨strategy, id⟩, container)

def proxyOf (container : Container σ) (factory : Factory σ) :
    Except ConfigError Proxy × Container σ :=
  container.proxyFor factory.builder factory.snapshot

theorem proxyOf_ok {container made : Container σ} {factory : Factory σ} {proxy : Proxy}
    (built : container.proxyOf factory = (.ok proxy, made)) :
    made.snapshotOf proxy.snapshot = factory.snapshot := by
  simp only [proxyOf, proxyFor] at built
  split at built
  · exact nomatch (Prod.mk.inj built).1
  · obtain ⟨same, rfl⟩ := Prod.mk.inj built
    rw [← Except.ok.inj same]
    exact snapshotOf_addSnapshot _ _

def invoke (container : Container σ) (proxy : Proxy) (method : Method) (args : Arguments) :
    Outcome × Container σ :=
  container.withState (container.setup.invoke container.nestingLimit proxy method args)

def exposes (container : Container σ) (proxy : Proxy) (method : Method) : Bool :=
  (container.snapshotOf proxy.snapshot).exposes proxy.strategy method

def viewOf (container : Container σ) (proxy : Proxy) : ProxyView :=
  (container.snapshotOf proxy.snapshot).view proxy.strategy

def asInterface (container : Container σ) (proxy : Proxy) (wanted : Interface) :
    Except ConfigError Unit :=
  let cls := (container.snapshotOf proxy.snapshot).cls
  if cls.implementsSame wanted then .ok ()
  else .error (.interfaceNotImplemented cls.name wanted.name)

def asClass (container : Container σ) (proxy : Proxy) (type : ObjectType)
    (descriptor : ClassDescriptor) : Except ConfigError Unit :=
  let cls := (container.snapshotOf proxy.snapshot).cls
  if proxy.strategy ≠ .subclassGeneration then .error (.notAClassProxy cls.name proxy.strategy)
  else if cls.type ≠ type then .error (.targetTypeMismatch descriptor.name)
  else .ok ()

/-- Builds a proxy to be used under an interface. A proxy that cannot be is built all the same. -/
def interfaceProxyOf (container : Container σ) (factory : Factory σ) (wanted : Interface) :
    Except ConfigError Proxy × Container σ :=
  match container.proxyOf factory with
  | (.ok proxy, made) => ((made.asInterface proxy wanted).map fun _ => proxy, made)
  | (.error error, made) => (.error error, made)

def classProxyOf (container : Container σ) (factory : Factory σ) (type : ObjectType)
    (descriptor : ClassDescriptor) : Except ConfigError Proxy × Container σ :=
  match container.proxyOf factory with
  | (.ok proxy, made) => ((made.asClass proxy type descriptor).map fun _ => proxy, made)
  | (.error error, made) => (.error error, made)

def register (container : Container σ) (cls : TargetClass) : Container σ :=
  let noted := container.emitAll (container.registry.registerEvents cls)
  { noted with registry := container.registry.register cls }

def loadAll (container : Container σ) (registrations : List Registration) : Container σ :=
  let noted := container.emitAll (container.registry.loadEvents registrations)
  { noted with registry := container.registry.load registrations }

end Container

end Weave
