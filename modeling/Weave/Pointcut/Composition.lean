import Weave.Pointcut.Basic

/-! Union, intersection and negation of pointcuts, and the plain combinations of class filters and
of method matchers. Pointcut operators know the class filters of their operands: in a union, only
the side whose filter takes the class decides on its methods. -/

namespace Weave

variable [ValueTypes]

namespace Pointcut

def union (a b : Pointcut) : Pointcut where
  classFilter cls := a.classFilter cls || b.classFilter cls
  methodMatcher :=
    { matchesMethod := fun method cls => a.matchesMethod method cls || b.matchesMethod method cls
      isRuntime := a.methodMatcher.isRuntime || b.methodMatcher.isRuntime
      matchesCall := fun method cls args =>
        a.matchesCall method cls args || b.matchesCall method cls args }

def intersection (a b : Pointcut) : Pointcut where
  classFilter cls := a.classFilter cls && b.classFilter cls
  methodMatcher :=
    { matchesMethod := fun method cls =>
        a.methodMatcher.matchesMethod method cls && b.methodMatcher.matchesMethod method cls
      isRuntime := a.methodMatcher.isRuntime || b.methodMatcher.isRuntime
      matchesCall := fun method cls args =>
        a.methodMatcher.matchesCall method cls args && b.methodMatcher.matchesCall method cls args }

/-- The operand does not match. No class can be excluded, and a runtime operand leaves every method
open until the arguments are known. -/
def negation (a : Pointcut) : Pointcut where
  classFilter _ := true
  methodMatcher :=
    { matchesMethod := fun method cls => a.methodMatcher.isRuntime || !a.matchesMethod method cls
      isRuntime := a.methodMatcher.isRuntime
      matchesCall := fun method cls args => !a.matchesCall method cls args }

end Pointcut

namespace ClassFilter

def union (a b : ClassFilter) : ClassFilter := fun cls => a cls || b cls

def intersection (a b : ClassFilter) : ClassFilter := fun cls => a cls && b cls

end ClassFilter

namespace MethodMatcher

def union (a b : MethodMatcher) : MethodMatcher where
  matchesMethod method cls := a.matchesMethod method cls || b.matchesMethod method cls
  isRuntime := a.isRuntime || b.isRuntime
  matchesCall method cls args := a.accepts method cls args || b.accepts method cls args

def intersection (a b : MethodMatcher) : MethodMatcher where
  matchesMethod method cls := a.matchesMethod method cls && b.matchesMethod method cls
  isRuntime := a.isRuntime || b.isRuntime
  matchesCall method cls args := a.matchesCall method cls args && b.matchesCall method cls args

end MethodMatcher

/-- One step of building a pointcut from another. The steps on a class filter or a method matcher
change that part alone; the other three compose the pointcut built so far as a whole. -/
inductive Pointcut.Step where
  | unionClass (filter : ClassFilter)
  | intersectionClass (filter : ClassFilter)
  | unionMethod (matcher : MethodMatcher)
  | intersectionMethod (matcher : MethodMatcher)
  | union (other : Pointcut)
  | intersection (other : Pointcut)
  | negate

namespace Pointcut

def Step.apply (pointcut : Pointcut) : Step → Pointcut
  | .unionClass filter => { pointcut with classFilter := pointcut.classFilter.union filter }
  | .intersectionClass filter =>
    { pointcut with classFilter := pointcut.classFilter.intersection filter }
  | .unionMethod matcher =>
    { pointcut with methodMatcher := pointcut.methodMatcher.union matcher }
  | .intersectionMethod matcher =>
    { pointcut with methodMatcher := pointcut.methodMatcher.intersection matcher }
  | .union other => Pointcut.union pointcut other
  | .intersection other => Pointcut.intersection pointcut other
  | .negate => Pointcut.negation pointcut

def compose (start : Pointcut) (steps : List Step) : Pointcut := steps.foldl Step.apply start

end Pointcut

end Weave
