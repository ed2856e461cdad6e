import Weave.Advisor

/-! The proxy factory: a proxy configuration under construction. Freezing it is final: afterwards
every change is refused, before anything else about it is checked. -/

namespace Weave

variable [ValueTypes] {σ : Type}

/-- Who decides how a proxy exposes its target: the flags and the class, or one strategy always. -/
inductive ProxyBuilder where
  | byConfiguration
  | always (strategy : Strategy)
deriving DecidableEq, Repr

/-- A subclass proxy is built on request, and for want of interfaces. -/
def selectStrategy (flags : ProxyFlags) (cls : TargetClass) : Strategy :=
  if flags.optimize || flags.proxyTargetClass || !cls.hasInterfaces then .subclassGeneration
  else .interfaceForwarding

namespace ProxyBuilder

def strategyFor (builder : ProxyBuilder) (flags : ProxyFlags) (cls : TargetClass) : Strategy :=
  match builder with
  | byConfiguration => selectStrategy flags cls
  | always strategy => strategy

def build (builder : ProxyBuilder) (snapshot : Snapshot σ) : Except ConfigError Strategy :=
  match builder.strategyFor snapshot.flags snapshot.cls with
  | .interfaceForwarding => .ok .interfaceForwarding
  | .subclassGeneration => snapshot.cls.checkSubclassable.map fun _ => .subclassGeneration

end ProxyBuilder

structure Factory (σ : Type) where
  source : Source σ
  advisors : List (Advisor σ) := []
  flags : ProxyFlags := {}
  builder : ProxyBuilder := .byConfiguration

inductive FactoryChange where
  | addAdvisor | removeAdvisor | replaceAdvisor | targetSource | proxyFlags
deriving DecidableEq, Repr

def FactoryChange.name : FactoryChange → String
  | addAdvisor => "add advisor"
  | removeAdvisor => "remove advisor"
  | replaceAdvisor => "replace advisor"
  | targetSource => "change target source"
  | proxyFlags => "change proxy flags"

namespace Factory

def whileOpen {α : Type} (factory : Factory σ) (change : FactoryChange)
    (result : Except ConfigError α) : Except ConfigError α :=
  if factory.flags.frozen then .error (.frozen change.name) else result

def outOfBounds {α : Type} (factory : Factory σ) (index : Nat) : Except ConfigError α :=
  .error (.indexOutOfBounds index factory.advisors.length)

def addAdvisor (factory : Factory σ) (advisor : Advisor σ) : Except ConfigError (Factory σ) :=
  factory.whileOpen .addAdvisor
    (.ok { factory with advisors := factory.advisors ++ [advisor] })

def addAdvice (factory : Factory σ) (advice : Advice σ) : Except ConfigError (Factory σ) :=
  factory.addAdvisor (.everywhere advice)

def insertAdvisor (factory : Factory σ) (index : Nat) (advisor : Advisor σ) :
    Except ConfigError (Factory σ) :=
  factory.whileOpen .addAdvisor <|
    if index ≤ factory.advisors.length then
      .ok { factory with advisors := factory.advisors.insertIdx index advisor }
    else factory.outOfBounds index

def removeAdvisor (factory : Factory σ) (index : Nat) :
    Except ConfigError (Advisor σ × Factory σ) :=
  factory.whileOpen .removeAdvisor <|
    match factory.advisors[index]? with
    | some removed => .ok (removed, { factory with advisors := factory.advisors.eraseIdx index })
    | none => factory.outOfBounds index

def replaceAdvisor (factory : Factory σ) (index : Nat) (advisor : Advisor σ) :
    Except ConfigError (Advisor σ × Factory σ) :=
  factory.whileOpen .replaceAdvisor <|
    match factory.advisors[index]? with
    | some replaced =>
      .ok (replaced, { factory with advisors := factory.advisors.set index advisor })
    | none => factory.outOfBounds index

def indexOf? (factory : Factory σ) (name : String) : Option Nat :=
  Advisor.indexOf? factory.advisors name

def removeAdvisorNamed (factory : Factory σ) (name : String) :
    Except ConfigError (Bool × Factory σ) :=
  match factory.indexOf? name with
  | some index => (factory.removeAdvisor index).map fun (_, factory) => (true, factory)
  | none => factory.whileOpen .removeAdvisor (.ok (false, factory))

def setSource (factory : Factory σ) (source : Source σ) : Except ConfigError (Factory σ) :=
  factory.whileOpen .targetSource (.ok { factory with source })

def setFlags (factory : Factory σ) (flags : ProxyFlags) : Except ConfigError (Factory σ) :=
  factory.whileOpen .proxyFlags (.ok { factory with flags })

def setProxyTargetClass (factory : Factory σ) (value : Bool) : Except ConfigError (Factory σ) :=
  factory.setFlags { factory.flags with proxyTargetClass := value }

def setOptimize (factory : Factory σ) (value : Bool) : Except ConfigError (Factory σ) :=
  factory.setFlags { factory.flags with optimize := value }

def setExposeProxy (factory : Factory σ) (value : Bool) : Except ConfigError (Factory σ) :=
  factory.setFlags { factory.flags with exposeProxy := value }

def freeze (factory : Factory σ) : Factory σ :=
  { factory with flags := { factory.flags with frozen := true } }

def setBuilder (factory : Factory σ) (builder : ProxyBuilder) : Factory σ :=
  { factory with builder }

/-- The configuration as it is now; later changes of the factory do not reach it. -/
def snapshot (factory : Factory σ) : Snapshot σ := ⟨factory.source, factory.advisors, factory.flags⟩

def describe (factory : Factory σ) : String :=
  Text.record "ProxyFactory" [("target_class", Text.quoted factory.source.cls.name),
    ("advisors", Text.quotedList (factory.advisors.map (·.name))),
    ("config", factory.flags.describe)]

end Factory

end Weave
