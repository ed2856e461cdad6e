import Weave.Arguments
import Weave.TargetClass

/-! Pointcuts: which methods of which classes advice applies to. A class filter looks at the class
alone; a method matcher looks at the method first and, if it is a runtime matcher, once more at the
arguments of each call. -/

namespace Weave

variable [ValueTypes]

abbrev ClassFilter := TargetClass → Bool

/-- The static match may be remembered for a method. The match with arguments counts only for a
runtime matcher, and only after the static match. -/
structure MethodMatcher where
  matchesMethod : Method → TargetClass → Bool
  isRuntime : Bool := false
  matchesCall : Method → TargetClass → Arguments → Bool :=
    fun method cls _ => matchesMethod method cls

namespace MethodMatcher

/-- A matcher that decides on the method alone; its match with arguments is the same. -/
def ofStatic (check : Method → TargetClass → Bool) : MethodMatcher := { matchesMethod := check }

/-- The whole verdict of a matcher on a call: the static match, then the arguments if it asks. -/
def accepts (matcher : MethodMatcher) (method : Method) (cls : TargetClass) (args : Arguments) :
    Bool :=
  matcher.matchesMethod method cls && (!matcher.isRuntime || matcher.matchesCall method cls args)

end MethodMatcher

structure Pointcut where
  classFilter : ClassFilter
  methodMatcher : MethodMatcher

namespace Pointcut

def always : Pointcut := ⟨fun _ => true, .ofStatic fun _ _ => true⟩

def never : Pointcut := ⟨fun _ => false, .ofStatic fun _ _ => false⟩

/-- The match that does not depend on arguments. -/
def matchesMethod (pointcut : Pointcut) (method : Method) (cls : TargetClass) : Bool :=
  pointcut.classFilter cls && pointcut.methodMatcher.matchesMethod method cls

/-- The match of one call: static first, then the arguments if the matcher is a runtime one. -/
def matchesCall (pointcut : Pointcut) (method : Method) (cls : TargetClass) (args : Arguments) :
    Bool :=
  pointcut.matchesMethod method cls &&
    (!pointcut.methodMatcher.isRuntime || pointcut.methodMatcher.matchesCall method cls args)

end Pointcut

end Weave
