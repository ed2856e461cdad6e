import Weave.Bean
import Weave.NameRule
import Weave.Properties

/-! Automatic proxies: beans whose names are selected are wrapped in proxies once they are
initialised. A bean that already is a proxy stays as it is, so wrapping never happens twice. -/

namespace Weave

variable [ValueTypes] {σ : Type}

/-- Whether to proxy a bean, and with what beyond the common advisors. -/
inductive ProxyDecision (σ : Type) where
  | leave
  | plain
  | additional (advisors : List (Advisor σ))

namespace ProxyDecision

def proxies : ProxyDecision σ → Bool
  | leave => false
  | plain | additional _ => true

def specific : ProxyDecision σ → List (Advisor σ)
  | additional advisors => advisors
  | leave | plain => []

def describe : ProxyDecision σ → String
  | leave => "DoNotProxy"
  | plain => "ProxyWithoutAdditionalAdvisors"
  | additional advisors => Text.quotedList (advisors.map (·.name))

end ProxyDecision

inductive RegistryChoice where
  | own | shared
deriving DecidableEq, Repr

/-- Selects beans by name rules and wraps them, all with the same advisors and flags. -/
structure AutoProxyCreator (σ : Type) where
  rules : List String
  common : List (Advisor σ) := []
  commonFirst : Bool := true
  flags : ProxyFlags := {}
  registry : RegistryChoice := .own

namespace AutoProxyCreator

def unknownInterceptor (name : String) : ConfigError :=
  .invalidProperties ("unknown interceptor name '" ++ name ++ "'")

def ofProperties (properties : Properties) (resolve : String → Option (Advisor σ)) :
    Except ConfigError (AutoProxyCreator σ) := do
  let common ← properties.autoProxy.interceptorNames.mapM fun name =>
    match resolve name with
    | some advisor => .ok advisor
    | none => .error (unknownInterceptor name)
  pure
    { rules := properties.autoProxy.beanNames, common
      commonFirst := properties.autoProxy.applyCommonFirst, flags := properties.proxy }

def typeName : String := "BeanNameAutoProxyCreator"

/-- Creators run after other processors, on beans that are fully initialised. -/
def order : Int := 2000

def selects (creator : AutoProxyCreator σ) (bean : String) : Bool :=
  creator.rules.any (NameRule.selects · bean)

def decide (creator : AutoProxyCreator σ) (bean : String) : ProxyDecision σ :=
  if creator.selects bean then .plain else .leave

def find? (creator : AutoProxyCreator σ) (container : Container σ) (type : ObjectType) :
    Option TargetClass :=
  match creator.registry with
  | .own => container.registry.find? type
  | .shared => container.shared.find? type

def advisors (creator : AutoProxyCreator σ) (specific : List (Advisor σ)) : List (Advisor σ) :=
  if creator.commonFirst then creator.common ++ specific else specific ++ creator.common

def addAll : List (Advisor σ) → Factory σ → Except ConfigError (Factory σ)
  | [], factory => .ok factory
  | advisor :: rest, factory =>
    match factory.addAdvisor advisor with
    | .ok factory => addAll rest factory
    | .error error => .error error

theorem addAll_open (advisors : List (Advisor σ)) (factory : Factory σ)
    (unfrozen : factory.flags.frozen = false) :
    addAll advisors factory = .ok { factory with advisors := factory.advisors ++ advisors } := by
  induction advisors generalizing factory with
  | nil => rw [addAll, List.append_nil]
  | cons advisor rest ih =>
    simp only [addAll, Factory.addAdvisor, Factory.whileOpen, unfrozen, Bool.false_eq_true, if_false]
    rw [ih { factory with advisors := factory.advisors ++ [advisor] } unfrozen, List.append_assoc,
      List.singleton_append]

def additions (factory : Factory σ) (advisors : List (Advisor σ)) : List Event :=
  advisors.mapIdx fun index advisor =>
    .advisorAdded advisor.name (factory.advisors.length + index)

/-- Fills a factory under unfrozen flags and freezes it, if the flags ask for that, at the end. -/
def factoryFor (creator : AutoProxyCreator σ) (source : Source σ) (advisors : List (Advisor σ)) :
    Except ConfigError (Factory σ) := do
  let empty : Factory σ := { source }
  let opened ← empty.setFlags { creator.flags with frozen := false }
  let filled ← addAll advisors opened
  pure (if creator.flags.frozen then filled.freeze else filled)

theorem factoryFor_eq (creator : AutoProxyCreator σ) (source : Source σ)
    (advisors : List (Advisor σ)) :
    creator.factoryFor source advisors = .ok { source, advisors, flags := creator.flags } := by
  obtain ⟨_, _, _, flags, _⟩ := creator
  have filled := addAll_open advisors { source, flags := { flags with frozen := false } } rfl
  change Except.bind (addAll advisors _) _ = _
  rw [filled]
  obtain ⟨proxyTargetClass, optimize, frozen, exposeProxy⟩ := flags
  cases frozen <;> rfl

def createProxy (creator : AutoProxyCreator σ) (target : Target) (cls : TargetClass)
    (advisors : List (Advisor σ)) (container : Container σ) :
    Except ConfigError Proxy × Container σ :=
  let (id, container) := container.newSource
  match Source.singleton id cls target with
  | .error error => (.error error, container)
  | .ok source =>
    match creator.factoryFor source advisors with
    | .error error => (.error error, container)
    | .ok factory =>
      (container.emitAll (additions { source } advisors)).proxyOf factory

def unregistered (bean : String) : Fault :=
  .text ("Bean '" ++ bean ++
    "' matches an auto-proxy rule but its type has no registered TargetClass")

def creationContext (bean : String) : String :=
  "Failed to create AOP proxy for bean '" ++ bean ++ "'"

def wrapIfNecessary (creator : AutoProxyCreator σ) (decision : ProxyDecision σ) : BeanHook σ :=
  fun bean name container =>
    if !decision.proxies then (.ok bean, container.emit (.beanPassedOver name))
    else
      match bean with
      | .proxied _ _ => (.ok bean, container.emit (.beanAlreadyProxy name))
      | .plain target =>
        match creator.find? container target.type with
        | none => (.error (.other (unregistered name)), container)
        | some cls =>
          match creator.createProxy target cls (creator.advisors decision.specific) container with
          | (.error error, container) =>
            (.error (.other ((Fault.config error).withContext (creationContext name))), container)
          | (.ok proxy, container) =>
            let view := container.viewOf proxy
            let (id, container) := container.withState State.allocate
            (.ok (.proxied id proxy),
              container.emit (.beanWrapped name view.strategy view.advisors))

def afterHook (creator : AutoProxyCreator σ) : BeanHook σ := fun bean name container =>
  let decision := creator.decide name
  let container := if decision.proxies then container.emit (.beanSelected name) else container
  creator.wrapIfNecessary decision bean name container

def processor (creator : AutoProxyCreator σ) : Processor σ where
  name := typeName
  order := order
  after := creator.afterHook

def describe (creator : AutoProxyCreator σ) : String :=
  Text.record typeName [("bean_names", Text.quotedList creator.rules),
    ("common_advisors", toString creator.common.length),
    ("apply_common_first", toString creator.commonFirst),
    ("proxy_config", creator.flags.describe)]

end AutoProxyCreator

end Weave
