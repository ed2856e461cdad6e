import Weave.Bench.Session

/-! Workbench: the steps of a session's script and what each of them does. The workbench drives
the library from outside, through scenarios that are data; nothing in the library depends on it.
-/

namespace Weave.Bench

inductive ClassPlan where
  | sample (cls : TargetClass)
  | built (type : ObjectType) (descriptor : Option ClassDescriptor)
      (steps : List (TargetClass → TargetClass))

namespace ClassPlan

def build : ClassPlan → TargetClass
  | sample cls => cls
  | built type descriptor steps =>
    let start :=
      match descriptor with
      | some descriptor => TargetClass.ofClass type descriptor
      | none => TargetClass.ofType type
    steps.foldl (fun cls step => step cls) start

end ClassPlan

inductive SourcePlan where
  | singleton | prototype | pooled (maxSize : Nat) | swappable | broken

inductive CreatorPlan where
  | given (rules : List String) (common : List AdvisorScript) (flags : ProxyFlags)
      (commonFirst : Bool)
  | properties (content : String) (interceptors : List (String × AdvisorScript))

inductive DecisionPlan where
  | leave | plain
  | additional (advisors : List AdvisorScript)

inductive ProcessorAction where
  | keep
  | replace (content : String)
  | fail (message : String)
  | failWith (fault : Fault)

inductive ProcessorPlan where
  | creator (name : String)
  | passive
  | scripted (label : String) (order : Int) (actsAfter : Bool) (action : ProcessorAction)

inductive Step where
  | makeClass (name : String) (plan : ClassPlan)
  | classInfo (cls : String)
  | implementsNamed (cls interface : String)
  | implementsSame (cls : String) (interface : Interface)
  | declares (cls : String) (method : Method)
  | isInstance (cls : String) (plan : ObjectPlan)
  | dispatch (cls : String) (plan : ObjectPlan) (method : Method) (args : Arguments)
  | dispatchByClass (plan : ObjectPlan) (method : Method) (args : Arguments)
  | strategy (cls : String) (flags : ProxyFlags)
  | makeSource (name cls : String) (kind : SourcePlan) (plan : ObjectPlan)
  | takeTarget (source name : String)
  | giveBack (source target : String)
  | swap (source : String) (plan : ObjectPlan)
  | counts (source : String)
  | factoryOn (source : String)
  | factoryFor (cls : String) (plan : ObjectPlan)
  | add (advisor : AdvisorScript)
  | addAdvice (advice : AdviceScript)
  | insert (index : Nat) (advisor : AdvisorScript)
  | replace (index : Nat) (advisor : AdvisorScript)
  | remove (index : Nat)
  | removeNamed (name : String)
  | indexOf (name : String)
  | freeze
  | setFlags (flags : ProxyFlags)
  | setProxyTargetClass (value : Bool)
  | setOptimize (value : Bool)
  | setExposeProxy (value : Bool)
  | setSource (source : String)
  | setBuilder (builder : ProxyBuilder)
  | factoryState
  | snapshot
  | makeProxy (name : String)
  | buildProxy (name : String) (builder : ProxyBuilder)
  | proxyState (proxy : String)
  | proxyIndexOf (proxy name : String)
  | exposes (proxy : String) (method : Method)
  | invoke (proxy : String) (method : Method) (args : Arguments)
  | chain (proxy : String) (method : Method)
  | asInterface (proxy : String) (interface : Interface)
  | factoryInterface (interface : Interface)
  | asClass (proxy : String) (type : ObjectType)
  | factoryClass (type : ObjectType)
  | call (proxy : String) (view : View) (method : ServiceMethod) (args : Arguments)
  | register (cls : String)
  | loadAll
  | registrations
  | registered (type : ObjectType) (shared : Bool)
  | findClass (plan : ObjectPlan)
  | makeCreator (name : String) (plan : CreatorPlan) (registry : RegistryChoice)
  | decide (creator bean : String)
  | makeBean (name : String) (plan : ObjectPlan)
  | wrap (creator bean name : String) (decision : DecisionPlan) (resultName : Option String)
  | beforeInitialization (bean name : String) (resultName : Option String)
  | afterInitialization (bean name : String) (resultName : Option String)
  | addProcessor (plan : ProcessorPlan)

namespace Act

/-! ### Classes and sources -/

def makeClass (name : String) (plan : ClassPlan) : Act Answer := do
  let cls := plan.build
  modify fun session => { session with classes := session.classes.insert name cls }
  match plan with
  | .built type (some descriptor) _ =>
    modify fun session =>
      { session with descriptors := session.descriptors.insert type descriptor }
  | _ => pure ()
  pure (.text cls.describe)

def dispatch (cls : TargetClass) (plan : ObjectPlan) (method : Method) (args : Arguments) :
    Act Answer := do
  let target ← newObject plan
  let setup := (← get).container.setup
  return .outcome (← onState (cls.dispatch setup target method args))

def dispatchByClass (plan : ObjectPlan) (method : Method) (args : Arguments) : Act Answer := do
  let target ← newObject plan
  return .outcome (← onState (·.withMemory (entryCode .classMethods target method args)))

def makeSource (name : String) (cls : TargetClass) (kind : SourcePlan) (plan : ObjectPlan) :
    Act Answer := do
  let id ← onContainer Container.newSource
  let supply : Supply ←
    match kind with
    | .singleton => do pure (.singleton (← newObject plan))
    | .prototype => pure (.prototype plan)
    | .pooled maxSize => pure (.pooled maxSize plan)
    | .swappable => do pure (.swappable (← newObject plan))
    | .broken => do pure (.broken (← newObject plan))
  let record : SourceRecord := ⟨id, cls, supply⟩
  let source ← accept record.open
  onState fun state =>
    let sources := state.memory.sources.insert name record
    ((), { state with memory := { state.memory with sources } })
  pure (.source source.cls.name source.isStatic)

def takeTarget (source : Source Memory) (name : String) : Act Answer := do
  match ← onState source.take with
  | .error fault => pure (.failed fault)
  | .ok target =>
    let held := (← get).held
    let same := (held.filter (·.2.id == target.id)).map (·.1)
    modify fun session =>
      { session with held := (name, target) :: session.held.filter (·.1 != name) }
    pure (.held (← describe target) (same.mergeSort fun a b => decide (a ≤ b)))

def giveBack (source name : String) : Act Answer := do
  let target ← orMissing .target name ((← get).held.lookup name)
  modify fun session => { session with held := session.held.filter (·.1 != name) }
  let source ← Act.source source
  match ← onState (source.putBack target) with
  | .ok _ => pure .done
  | .error fault => pure (.failed fault)

def swap (source : Source Memory) (plan : ObjectPlan) : Act Answer := do
  let target ← newObject plan
  return .described (← describe (← accept (← onState (source.swap target))))

def counts (source : Source Memory) : Act Answer := do
  let state := (← get).container.state
  pure (.counted (sourceCounts source (source.counts state.stock) state.memory))

/-! ### The factory -/

def factoryFor (cls : TargetClass) (plan : ObjectPlan) : Act Answer := do
  let id ← onContainer Container.newSource
  let source ← accept (Source.singleton id cls (← newObject plan))
  setFactory { source }
  pure .done

def append (advisor : Advisor Memory) : Act Answer := do
  let before ← factory
  let _ ← onFactory (·.addAdvisor advisor)
  emit (.advisorAdded advisor.name before.advisors.length)
  pure .done

def insert (index : Nat) (advisor : Advisor Memory) : Act Answer := do
  let _ ← onFactory (·.insertAdvisor index advisor)
  emit (.advisorInserted advisor.name index)
  pure .done

def changeFactory {α : Type}
    (change : Factory Memory → Except ConfigError (α × Factory Memory)) : Act α := do
  let (result, factory) ← accept (change (← factory))
  setFactory factory
  pure result

def position (index : Option Nat) : Answer :=
  match index with
  | some index => .number index
  | none => .nothing

/-! ### Proxies -/

def newProxy : Act Proxy := do
  let factory ← factory
  accept (← onContainer (·.proxyOf factory))

def keepProxy (name : String) (proxy : Proxy) : Act Unit :=
  modify fun session => { session with proxies := session.proxies.insert name proxy }

def describeBuilt (strategy : Strategy) (cls : TargetClass) : String :=
  match strategy with
  | .interfaceForwarding =>
    Text.record "InterfaceForwardingProxy" [("interfaces", Text.quotedList cls.interfaceNames)]
  | .subclassGeneration => Text.record "SubclassProxy" [("class", Text.quoted cls.name)]

def buildProxy (name : String) (builder : ProxyBuilder) : Act Answer := do
  let snapshot := (← factory).snapshot
  let proxy ← accept (← onContainer (·.proxyFor builder snapshot))
  keepProxy name proxy
  pure (.builtProxy (← viewOf proxy) (describeBuilt proxy.strategy snapshot.cls))

def snapshotOf (proxy : Proxy) : Act (Snapshot Memory) := do
  return (← get).container.snapshotOf proxy.snapshot

def cachedChains (proxy : Proxy) : Act Nat := do
  return ((← get).container.state.cachedChains proxy.snapshot).size

def invoke (proxy : Proxy) (method : Method) (args : Arguments) : Act Outcome :=
  onContainer (·.invoke proxy method args)

def chain (proxy : Proxy) (method : Method) : Act Answer := do
  let before ← cachedChains proxy
  let setup := (← get).container.setup
  let chain ← onState (setup.chainFor proxy.snapshot method)
  pure (.chain (chain.map fun entry => (entry.describe, entry.isDynamic)) before
    (← cachedChains proxy))

def asInterface (proxy : Proxy) (interface : Interface) : Act Unit := do
  accept ((← get).container.asInterface proxy interface)

def asClass (proxy : Proxy) (type : ObjectType) : Act Unit := do
  accept ((← get).container.asClass proxy type (← descriptorOf type))

def factoryClass (type : ObjectType) : Act Answer := do
  let factory ← factory
  let descriptor ← descriptorOf type
  let proxy ← accept (← onContainer (·.classProxyOf factory type descriptor))
  if scriptedTypes.contains type then pure .done
  else
    let view ← viewOf proxy
    pure (.text (Text.record (type.shortName ++ "Proxy") [("proxy", view.describe)]))

def completed (method : ServiceMethod) (outcome : Outcome) : Answer :=
  match method.errors with
  | .any =>
    match Outcome.complete method.result .any method.method outcome with
    | .ok content => .value ⟨method.result, content⟩
    | .error fault => .failed fault
  | .family name =>
    match Outcome.complete method.result (.family name) method.method outcome with
    | .ok content => .value ⟨method.result, content⟩
    | .error error => .declared name error

def call (proxy : Proxy) (view : View) (method : ServiceMethod) (args : Arguments) :
    Act Answer := do
  match view with
  | .interface interface _ => asInterface proxy interface
  | .cls type _ _ => asClass proxy type
  return completed method (← invoke proxy method.method args)

/-! ### Registries, creators and beans -/

def registrySize : Act Nat := do return (← get).container.registry.size

def byName {α : Type} (a b : String × α) : Bool := decide (a.1 ≤ b.1)

def className (cls : Option TargetClass) : Answer :=
  match cls with
  | some cls => .text cls.name
  | none => .nothing

def advisors (scripts : List AdvisorScript) : Act (List (Advisor Memory)) := scripts.mapM advisor

def newCreator (plan : CreatorPlan) (registry : RegistryChoice) :
    Act (AutoProxyCreator Memory) := do
  match plan with
  | .given rules common flags commonFirst =>
    pure { rules, common := ← advisors common, commonFirst, flags, registry }
  | .properties content interceptors => do
    let properties ← accept (Properties.read content)
    emit (.propertiesLoaded properties.describe)
    let known ← interceptors.mapM fun (name, script) => do pure (name, ← advisor script)
    let creator ← accept (AutoProxyCreator.ofProperties properties (known.lookup ·))
    pure { creator with registry }

def makeCreator (name : String) (plan : CreatorPlan) (registry : RegistryChoice) :
    Act Answer := do
  let creator ← newCreator plan registry
  modify fun session => { session with creators := session.creators.insert name creator }
  pure (.creator creator)

def keepBean (name : Option String) (bean : Bean) : Act Unit :=
  match name with
  | some name => modify fun session => { session with beans := session.beans.insert name bean }
  | none => pure ()

def runHook (hook : BeanHook Memory) (bean : Bean) (name : String) (resultName : Option String) :
    Act (Description × Bool) := do
  match ← onContainer (hook bean name) with
  | .error error => throw (.beanFailed error)
  | .ok result =>
    keepBean resultName result
    pure (← describeBean result, result.id == bean.id)

def decisionOf : DecisionPlan → Act (ProxyDecision Memory)
  | .leave => pure .leave
  | .plain => pure .plain
  | .additional scripts => return .additional (← advisors scripts)

def react (label : String) (action : ProcessorAction) : BeanHook Memory :=
  fun bean name container => match action with
  | .keep => (.ok bean, container)
  | .replace content =>
    let (id, container) := container.withState State.allocate
    let (_, container) := container.withState fun state =>
      ((), { state with memory := state.memory.place id (.text content) })
    (.ok (.plain ⟨id, stringType⟩), container)
  | .fail message => (.error (.processorFailed label name message), container)
  | .failWith fault => (.error (.other fault), container)

def scriptedHook (label : String) (after acts : Bool) (action : ProcessorAction) :
    BeanHook Memory := fun bean name container =>
  let shown :=
    match bean with
    | .plain target => container.state.memory.describe target
    | .proxied _ proxy => .proxied (container.viewOf proxy)
  let (_, container) := container.withState fun state =>
    ((), { state with memory := state.memory.write (.note label (.processed after name shown)) })
  if acts then react label action bean name container else (.ok bean, container)

def processor : ProcessorPlan → Act (Processor Memory)
  | .creator name => return (← creator name).processor
  | .passive => pure {}
  | .scripted label order actsAfter action =>
    pure
      { name := label, order
        before := scriptedHook label false (!actsAfter) action
        after := scriptedHook label true actsAfter action }

def addProcessor (plan : ProcessorPlan) : Act Answer := do
  let processor ← processor plan
  emit (.processorAdded processor.name processor.order)
  modify fun session => { session with pipeline := session.pipeline.add processor }
  return .processors (← get).pipeline

end Act

def Step.act : Step → Act Answer
  | makeClass name plan => Act.makeClass name plan
  | classInfo cls => return .classInfo (← Act.cls cls)
  | implementsNamed cls interface => return .flag ((← Act.cls cls).implementsNamed interface)
  | implementsSame cls interface => return .flag ((← Act.cls cls).implementsSame interface)
  | declares cls method => do
    let cls ← Act.cls cls
    return .declares (cls.declaresViaInterface method) (cls.declaresViaClass method)
  | isInstance cls plan => return .flag ((← Act.cls cls).type == plan.type)
  | dispatch cls plan method args => do Act.dispatch (← Act.cls cls) plan method args
  | dispatchByClass plan method args => Act.dispatchByClass plan method args
  | strategy cls flags => return .text (selectStrategy flags (← Act.cls cls)).name
  | makeSource name cls kind plan => do Act.makeSource name (← Act.cls cls) kind plan
  | takeTarget source name => do Act.takeTarget (← Act.source source) name
  | giveBack source target => Act.giveBack source target
  | swap source plan => do Act.swap (← Act.source source) plan
  | counts source => do Act.counts (← Act.source source)
  | factoryOn source => do
    let source ← Act.source source
    Act.setFactory { source }
    return .done
  | factoryFor cls plan => do Act.factoryFor (← Act.cls cls) plan
  | add script => do Act.append (← Act.advisor script)
  | addAdvice script => do Act.append (.everywhere script.build)
  | insert index script => do Act.insert index (← Act.advisor script)
  | replace index script => do
    let advisor ← Act.advisor script
    return .text (← Act.changeFactory (·.replaceAdvisor index advisor)).name
  | remove index => return .text (← Act.changeFactory (·.removeAdvisor index)).name
  | removeNamed name => return .flag (← Act.changeFactory (·.removeAdvisorNamed name))
  | indexOf name => return Act.position ((← Act.factory).indexOf? name)
  | freeze => Act.onFactory fun factory => .ok factory.freeze
  | setFlags flags => Act.onFactory (·.setFlags flags)
  | setProxyTargetClass value => Act.onFactory (·.setProxyTargetClass value)
  | setOptimize value => Act.onFactory (·.setOptimize value)
  | setExposeProxy value => Act.onFactory (·.setExposeProxy value)
  | setSource source => do
    let source ← Act.source source
    Act.onFactory (·.setSource source)
  | setBuilder builder => Act.onFactory fun factory => .ok (factory.setBuilder builder)
  | factoryState => return .factory (← Act.factory)
  | snapshot => return .snapshot (← Act.factory).snapshot
  | makeProxy name => do
    let proxy ← Act.newProxy
    Act.keepProxy name proxy
    return .proxy (← Act.viewOf proxy)
  | buildProxy name builder => Act.buildProxy name builder
  | proxyState name => do
    let proxy ← Act.proxy name
    return .proxyState (← Act.viewOf proxy) (← Act.snapshotOf proxy) (← Act.cachedChains proxy)
  | proxyIndexOf proxy name => do
    let snapshot ← Act.snapshotOf (← Act.proxy proxy)
    return Act.position (Advisor.indexOf? snapshot.advisors name)
  | exposes proxy method => do
    let proxy ← Act.proxy proxy
    return .flag ((← get).container.exposes proxy method)
  | invoke proxy method args => do return .outcome (← Act.invoke (← Act.proxy proxy) method args)
  | chain proxy method => do Act.chain (← Act.proxy proxy) method
  | asInterface name interface => do
    let proxy ← Act.proxy name
    Act.asInterface proxy interface
    return .text proxy.strategy.name
  | factoryInterface interface => do
    let factory ← Act.factory
    let proxy ← Act.accept (← Act.onContainer (·.interfaceProxyOf factory interface))
    return .text proxy.strategy.name
  | asClass name type => do
    Act.asClass (← Act.proxy name) type
    return .done
  | factoryClass type => Act.factoryClass type
  | call proxy view method args => do Act.call (← Act.proxy proxy) view method args
  | register cls => do
    let cls ← Act.cls cls
    Act.onContainer fun container => ((), container.register cls)
    return .registered cls.name (← Act.registrySize)
  | loadAll => do
    Act.onContainer fun container => ((), container.loadAll Bench.registrations)
    return .number (← Act.registrySize)
  | registrations =>
    let entries := Bench.registrations.map fun entry => (entry.name, entry.cls.name)
    return .registrations (entries.mergeSort Act.byName)
  | registered type shared => do
    let container := (← get).container
    return Act.className ((if shared then container.shared else container.registry).find? type)
  | findClass plan => do
    match (← get).container.registry.find? plan.type with
    | some cls => return .text cls.describe
    | none => return .nothing
  | makeCreator name plan registry => Act.makeCreator name plan registry
  | decide creator bean => do
    let decision := (← Act.creator creator).decide bean
    return .decision decision.proxies decision.describe
  | makeBean name plan => do
    let target ← Act.newObject plan
    Act.keepBean (some name) (.plain target)
    return .described (← Act.describe target)
  | wrap creator bean name decision resultName => do
    let decision ← Act.decisionOf decision
    let bean ← Act.bean bean
    let creator ← Act.creator creator
    let (description, same) ← Act.runHook (creator.wrapIfNecessary decision) bean name resultName
    return .wrapped decision.describe description same
  | beforeInitialization bean name resultName => do
    let pipeline := (← get).pipeline
    let (description, same) ←
      Act.runHook pipeline.beforeInitialization (← Act.bean bean) name resultName
    return .bean description same
  | afterInitialization bean name resultName => do
    let pipeline := (← get).pipeline
    let (description, same) ←
      Act.runHook pipeline.afterInitialization (← Act.bean bean) name resultName
    return .bean description same
  | addProcessor plan => Act.addProcessor plan

structure Report where
  answer : Answer
  journal : List Entry
  events : List Event

namespace Session

def perform (step : Step) (session : Session) : Report × Session :=
  let (answer, session) := step.act.run session
  let state := session.container.state
  let cleared := { state with memory := { state.memory with journal := #[] }, events := #[] }
  (⟨answer, state.memory.journal.toList, state.events.toList⟩,
    { session with container := { session.container with state := cleared } })

def runFrom : Session → List Step → List Report
  | _, [] => []
  | session, step :: rest =>
    let (report, session) := session.perform step
    report :: runFrom session rest

def runScript (steps : List Step) : List Report := runFrom fresh steps

end Session

end Weave.Bench
