import Weave.BasicTypes
import Weave.Pointcut.Composition
import Weave.Pointcut.Matchers

/-! Pointcut operators as Boolean operators. The class filter, the static match, the runtime flag and
the match with arguments of a composed pointcut are each composed in a way of their own. Together
they decide on a call as `or`, `and` and `not` do on the verdicts of the leaves, at any depth. -/

namespace Weave

variable [ValueTypes]

namespace MethodMatcher

/-- A matcher that does not ask for the arguments gives the same answer with them. -/
def Coherent (matcher : MethodMatcher) : Prop :=
  matcher.isRuntime = false →
    ∀ method cls args, matcher.matchesCall method cls args = matcher.matchesMethod method cls

theorem coherent_ofStatic (check : Method → TargetClass → Bool) : (ofStatic check).Coherent :=
  fun _ _ _ _ => rfl

theorem coherent_dynamic (check : Method → TargetClass → Arguments → Bool)
    (staticCheck : Method → TargetClass → Bool) : (dynamic check staticCheck).Coherent := by
  intro static
  contradiction

end MethodMatcher

namespace Pointcut

/-! ### What a static match leaves to the arguments -/

theorem matchesMethod_of_matchesCall {pointcut : Pointcut} {method : Method} {cls : TargetClass}
    {args : Arguments} (matched : pointcut.matchesCall method cls args = true) :
    pointcut.matchesMethod method cls = true := by
  simp only [matchesCall, Bool.and_eq_true] at matched
  exact matched.1

theorem matchesCall_of_static {pointcut : Pointcut}
    (static : pointcut.methodMatcher.isRuntime = false) (method : Method) (cls : TargetClass)
    (args : Arguments) : pointcut.matchesCall method cls args = pointcut.matchesMethod method cls := by
  simp only [matchesCall, static, Bool.not_false, Bool.true_or, Bool.and_true]

theorem matchesCall_of_runtime {pointcut : Pointcut}
    (runtime : pointcut.methodMatcher.isRuntime = true) (method : Method) (cls : TargetClass)
    (args : Arguments) :
    pointcut.matchesCall method cls args =
      (pointcut.matchesMethod method cls && pointcut.methodMatcher.matchesCall method cls args) := by
  simp only [matchesCall, runtime, Bool.not_true, Bool.false_or]

/-- Behind the static match, a coherent matcher's match with arguments is the verdict, whether it
is a runtime matcher or not. -/
theorem matchesCall_of_coherent {pointcut : Pointcut} (coherent : pointcut.methodMatcher.Coherent)
    (method : Method) (cls : TargetClass) (args : Arguments) :
    pointcut.matchesCall method cls args =
      (pointcut.matchesMethod method cls && pointcut.methodMatcher.matchesCall method cls args) := by
  cases runtime : pointcut.methodMatcher.isRuntime with
  | true => exact matchesCall_of_runtime runtime method cls args
  | false =>
    rw [matchesCall_of_static runtime, coherent runtime, matchesMethod, Bool.and_assoc,
      Bool.and_self]

/-! ### One operator -/

omit [ValueTypes] in
theorem or_of_narrower {first second wideFirst wideSecond : Bool} (left : first = true → wideFirst = true)
    (right : second = true → wideSecond = true) :
    ((wideFirst || wideSecond) && (first || second)) = (first || second) := by
  apply Bool.and_eq_right_iff_imp.2
  intro either
  exact Bool.or_eq_true_iff.2 ((Bool.or_eq_true_iff.1 either).imp left right)

section
variable (a b : Pointcut) (method : Method) (cls : TargetClass) (args : Arguments)

theorem matchesMethod_union :
    (union a b).matchesMethod method cls = (a.matchesMethod method cls || b.matchesMethod method cls) := by
  change ((a.classFilter cls || b.classFilter cls) &&
    (a.matchesMethod method cls || b.matchesMethod method cls)) = _
  unfold matchesMethod
  cases a.classFilter cls <;> cases b.classFilter cls <;> simp

theorem matchesMethod_intersection :
    (intersection a b).matchesMethod method cls =
      (a.matchesMethod method cls && b.matchesMethod method cls) := by
  simp only [intersection, matchesMethod]
  ac_rfl

theorem coherent_union : (union a b).methodMatcher.Coherent := by
  intro static method cls args
  simp only [union, Bool.or_eq_false_iff] at static
  simp only [union, matchesCall_of_static static.1, matchesCall_of_static static.2]

theorem coherent_intersection {a b : Pointcut} (left : a.methodMatcher.Coherent)
    (right : b.methodMatcher.Coherent) : (intersection a b).methodMatcher.Coherent := by
  intro static method cls args
  simp only [intersection, Bool.or_eq_false_iff] at static
  simp only [intersection, left static.1, right static.2]

theorem coherent_negation : (negation a).methodMatcher.Coherent := by
  intro static method cls args
  change a.methodMatcher.isRuntime = false at static
  simp only [negation, matchesCall_of_static static, static, Bool.false_or]

theorem matchesCall_union :
    (union a b).matchesCall method cls args =
      (a.matchesCall method cls args || b.matchesCall method cls args) := by
  rw [matchesCall_of_coherent (coherent_union a b), matchesMethod_union]
  exact or_of_narrower matchesMethod_of_matchesCall matchesMethod_of_matchesCall

theorem matchesCall_intersection {a b : Pointcut} (left : a.methodMatcher.Coherent)
    (right : b.methodMatcher.Coherent) :
    (intersection a b).matchesCall method cls args =
      (a.matchesCall method cls args && b.matchesCall method cls args) := by
  rw [matchesCall_of_coherent (coherent_intersection left right), matchesMethod_intersection,
    matchesCall_of_coherent left, matchesCall_of_coherent right]
  change (a.matchesMethod method cls && b.matchesMethod method cls &&
    (a.methodMatcher.matchesCall method cls args && b.methodMatcher.matchesCall method cls args)) = _
  ac_rfl

theorem matchesCall_negation :
    (negation a).matchesCall method cls args = !a.matchesCall method cls args := by
  rw [matchesCall_of_coherent (coherent_negation a)]
  change ((a.methodMatcher.isRuntime || !a.matchesMethod method cls) &&
    !a.matchesCall method cls args) = _
  cases runtime : a.methodMatcher.isRuntime with
  | true => rw [Bool.true_or, Bool.true_and]
  | false => rw [matchesCall_of_static runtime, Bool.false_or, Bool.and_self]

end

end Pointcut

/-! ### Any nesting of operators -/

inductive Composition where
  | leaf (pointcut : Pointcut)
  | union (left right : Composition)
  | intersection (left right : Composition)
  | negation (inner : Composition)

namespace Composition

def pointcut : Composition → Pointcut
  | leaf pointcut => pointcut
  | union left right => .union left.pointcut right.pointcut
  | intersection left right => .intersection left.pointcut right.pointcut
  | negation inner => .negation inner.pointcut

def leaves : Composition → List Pointcut
  | leaf pointcut => [pointcut]
  | union left right | intersection left right => left.leaves ++ right.leaves
  | negation inner => inner.leaves

/-- The operators as Boolean ones, on a verdict about each leaf. -/
def verdict (decide : Pointcut → Bool) : Composition → Bool
  | leaf pointcut => decide pointcut
  | union left right => left.verdict decide || right.verdict decide
  | intersection left right => left.verdict decide && right.verdict decide
  | negation inner => !inner.verdict decide

theorem coherent {tree : Composition}
    (leaves : ∀ leaf ∈ tree.leaves, leaf.methodMatcher.Coherent) :
    tree.pointcut.methodMatcher.Coherent := by
  induction tree with
  | leaf pointcut => exact leaves pointcut (List.mem_singleton_self _)
  | union left right => exact Pointcut.coherent_union _ _
  | intersection left right first second =>
    exact Pointcut.coherent_intersection
      (first fun leaf member => leaves leaf (List.mem_append_left _ member))
      (second fun leaf member => leaves leaf (List.mem_append_right _ member))
  | negation inner => exact Pointcut.coherent_negation _

theorem isRuntime_eq_any (tree : Composition) :
    tree.pointcut.methodMatcher.isRuntime = tree.leaves.any (·.methodMatcher.isRuntime) := by
  induction tree with
  | leaf own => simp only [pointcut, leaves, List.any_cons, List.any_nil, Bool.or_false]
  | union left right first second | intersection left right first second =>
    rw [leaves, List.any_append, ← first, ← second]
    rfl
  | negation inner ih => exact ih

theorem matchesCall_eq_verdict {tree : Composition}
    (leaves : ∀ leaf ∈ tree.leaves, leaf.methodMatcher.Coherent) (method : Method)
    (cls : TargetClass) (args : Arguments) :
    tree.pointcut.matchesCall method cls args = tree.verdict (·.matchesCall method cls args) := by
  induction tree with
  | leaf pointcut => rfl
  | union left right first second =>
    rw [pointcut, Pointcut.matchesCall_union, verdict,
      first fun leaf member => leaves leaf (List.mem_append_left _ member),
      second fun leaf member => leaves leaf (List.mem_append_right _ member)]
  | intersection left right first second =>
    have onLeft : ∀ leaf ∈ left.leaves, leaf.methodMatcher.Coherent :=
      fun leaf member => leaves leaf (List.mem_append_left _ member)
    have onRight : ∀ leaf ∈ right.leaves, leaf.methodMatcher.Coherent :=
      fun leaf member => leaves leaf (List.mem_append_right _ member)
    rw [pointcut, Pointcut.matchesCall_intersection _ _ _ (coherent onLeft) (coherent onRight),
      verdict, first onLeft, second onRight]
  | negation inner ih => rw [pointcut, Pointcut.matchesCall_negation, verdict, ih leaves]

/-- A composed pointcut decides on every call as the Boolean operators do on its leaves. Without
runtime leaves it needs no arguments, and the match of the method alone is the same verdict. -/
theorem decides_as_operators (tree : Composition)
    (leaves : ∀ leaf ∈ tree.leaves, leaf.methodMatcher.Coherent) :
    (∀ method cls args,
      tree.pointcut.matchesCall method cls args = tree.verdict (·.matchesCall method cls args)) ∧
    ((∀ leaf ∈ tree.leaves, leaf.methodMatcher.isRuntime = false) →
      tree.pointcut.methodMatcher.isRuntime = false ∧
      ∀ method cls args,
        tree.pointcut.methodMatcher.matchesCall method cls args =
          tree.pointcut.methodMatcher.matchesMethod method cls ∧
        tree.pointcut.matchesMethod method cls =
          tree.verdict (·.matchesCall method cls args)) := by
  refine ⟨matchesCall_eq_verdict leaves, fun static => ?_⟩
  have whole : tree.pointcut.methodMatcher.isRuntime = false := by
    rw [isRuntime_eq_any, List.any_eq_false]
    intro leaf member runtime
    rw [static leaf member] at runtime
    contradiction
  refine ⟨whole, fun method cls args => ⟨coherent leaves whole method cls args, ?_⟩⟩
  rw [← matchesCall_eq_verdict leaves, Pointcut.matchesCall_of_static whole]

end Composition

end Weave

namespace Weave.Composition

def getter : Composition := .leaf (.methodNames ["get*"])

def getterWithoutArguments : Composition :=
  .intersection getter
    (.negation (.leaf ⟨fun _ => true, .dynamic (fun _ _ args => args.size != 0) fun _ _ => true⟩))

/-- With a runtime leaf the call decides; without one the method does. -/
theorem getterWithoutArguments_decides :
    (∀ method cls args, getterWithoutArguments.pointcut.matchesCall method cls args =
        getterWithoutArguments.verdict (·.matchesCall method cls args)) ∧
      ∀ method cls args, (negation getter).pointcut.matchesMethod method cls =
        (negation getter).verdict (·.matchesCall method cls args) := by
  have names : ∀ leaf ∈ getter.leaves, leaf.methodMatcher.Coherent := by
    intro leaf member
    rw [List.mem_singleton.1 member]
    exact MethodMatcher.coherent_ofStatic _
  have leaves : ∀ leaf ∈ getterWithoutArguments.leaves, leaf.methodMatcher.Coherent := by
    intro leaf member
    rcases List.mem_append.1 member with name | test
    · exact names leaf name
    · rw [List.mem_singleton.1 test]
      exact MethodMatcher.coherent_dynamic _ _
  have static : ∀ leaf ∈ (negation getter).leaves, leaf.methodMatcher.isRuntime = false := by
    intro leaf member
    rw [List.mem_singleton.1 member]
    rfl
  refine ⟨(decides_as_operators getterWithoutArguments leaves).1, fun method cls args => ?_⟩
  exact (((decides_as_operators (negation getter) names).2 static).2 method cls args).2

end Weave.Composition
