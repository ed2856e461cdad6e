import Weave.Advice
import Weave.Flags
import Weave.Pointcut.Composition
import Weave.Pointcut.Expression

/-! Advisors: advice together with the pointcut that says where it applies, and the chain of advice
that a list of advisors gives for a method. -/

namespace Weave

variable [ValueTypes] {σ : Type}

structure Advisor (σ : Type) where
  name : String
  pointcut : Pointcut
  advice : Advice σ

namespace Advisor

def ofPointcut (pointcut : Pointcut) (advice : Advice σ) : Advisor σ :=
  ⟨advice.type.name ++ "-advisor", pointcut, advice⟩

def everywhere (advice : Advice σ) : Advisor σ := ofPointcut .always advice

def ofMethodNames (rules : List String) (advice : Advice σ) : Advisor σ :=
  ofPointcut (.methodNames rules) advice

def ofRegex (patterns : List String) (advice : Advice σ) : Except ConfigError (Advisor σ) :=
  (Pointcut.regex patterns).map (ofPointcut · advice)

def ofExecution (text : String) (advice : Advice σ) : Except ConfigError (Advisor σ) :=
  (Expression.ofExecution text).map fun expression => ofPointcut expression.pointcut advice

def named (name : String) (advisor : Advisor σ) : Advisor σ := { advisor with name }

def describe (advisor : Advisor σ) : String :=
  Text.record "DefaultPointcutAdvisor" [("name", Text.quoted advisor.name),
    ("advice", advisor.advice.describe)]

def indexOf? (advisors : List (Advisor σ)) (name : String) : Option Nat :=
  advisors.findIdx? (·.name == name)

end Advisor

/-- Advice that a chain runs in any case, or only when its advisor's matcher takes the arguments. -/
inductive ChainEntry (σ : Type) where
  | fixed (interceptor : Interceptor σ)
  | dynamic (interceptor : Interceptor σ) (advisor : Advisor σ)

namespace ChainEntry

def interceptor : ChainEntry σ → Interceptor σ
  | fixed interceptor | dynamic interceptor _ => interceptor

def isDynamic : ChainEntry σ → Bool
  | fixed _ => false
  | dynamic _ _ => true

def describe : ChainEntry σ → String
  | fixed _ => "Static"
  | dynamic _ advisor => "Dynamic(" ++ advisor.name ++ ")"

end ChainEntry

abbrev Chain (σ : Type) := List (ChainEntry σ)

namespace Chain

def contribution? (method : Method) (cls : TargetClass) (advisor : Advisor σ) :
    Option (ChainEntry σ) :=
  if advisor.pointcut.matchesMethod method cls then
    if advisor.pointcut.methodMatcher.isRuntime then
      some (.dynamic advisor.advice.interceptor advisor)
    else some (.fixed advisor.advice.interceptor)
  else none

theorem contribution_interceptor {method : Method} {cls : TargetClass} {advisor : Advisor σ}
    {entry : ChainEntry σ} (contributed : contribution? method cls advisor = some entry) :
    entry.interceptor = advisor.advice.interceptor := by
  unfold contribution? at contributed
  split at contributed
  · split at contributed <;> cases contributed <;> rfl
  · contradiction

def resolve (advisors : List (Advisor σ)) (method : Method) (cls : TargetClass) : Chain σ :=
  advisors.filterMap (contribution? method cls)

end Chain

/-- An immutable proxy configuration. -/
structure Snapshot (σ : Type) where
  source : Source σ
  advisors : List (Advisor σ) := []
  flags : ProxyFlags := {}

namespace Snapshot

def cls (snapshot : Snapshot σ) : TargetClass := snapshot.source.cls

def resolve (snapshot : Snapshot σ) (method : Method) : Chain σ :=
  Chain.resolve snapshot.advisors method snapshot.cls

/-- Which methods a proxy passes on: those of the interfaces and, for a subclass proxy, those of
the class. -/
def exposes (snapshot : Snapshot σ) (strategy : Strategy) (method : Method) : Bool :=
  (strategy = .subclassGeneration && snapshot.cls.declaresViaClass method) ||
    snapshot.cls.declaresViaInterface method

theorem exposes_declared {snapshot : Snapshot σ} {strategy : Strategy} {method : Method}
    (exposed : snapshot.exposes strategy method = true) :
    (snapshot.cls.route? method).isSome = true := by
  rw [TargetClass.route?_isSome]
  unfold exposes at exposed
  simp only [Bool.or_eq_true, Bool.and_eq_true] at exposed ⊢
  exact exposed.imp And.right id

def view (snapshot : Snapshot σ) (strategy : Strategy) : ProxyView :=
  ⟨strategy, snapshot.cls.name, snapshot.advisors.length⟩

def describe (snapshot : Snapshot σ) : String :=
  Text.record "AdvisedConfig" [("target_class", Text.quoted snapshot.cls.name),
    ("advisors", Text.quotedList (snapshot.advisors.map (·.name))),
    ("config", snapshot.flags.describe)]

end Snapshot

end Weave
