import Weave.Proofs.PointcutAlgebra

/-! Pointcuts built step by step. A step on a class filter or on a method matcher changes that part alone
and knows nothing of the other; a union or a negation takes the pointcut built so far as a whole, and
so closes its class filter up in the part about calls. The two parts are followed step by step. -/

namespace Weave

variable [ValueTypes]

namespace MethodMatcher

/-- The verdict of a coherent matcher is its match with arguments behind the static one, whether it is a
runtime matcher or not. -/
theorem accepts_of_coherent {matcher : MethodMatcher} (coherent : matcher.Coherent) (method : Method)
    (cls : TargetClass) (args : Arguments) :
    matcher.accepts method cls args =
      (matcher.matchesMethod method cls && matcher.matchesCall method cls args) := by
  cases runtime : matcher.isRuntime with
  | true => simp only [accepts, runtime, Bool.not_true, Bool.false_or]
  | false =>
    rw [accepts, runtime, coherent runtime, Bool.not_false, Bool.true_or, Bool.and_true, Bool.and_self]

section
variable {a b : MethodMatcher}

theorem coherent_union (a b : MethodMatcher) : (union a b).Coherent := by
  intro static method cls args
  obtain ⟨left, right⟩ := Bool.or_eq_false_iff.1 static
  simp only [union, accepts, left, right, Bool.not_false, Bool.true_or, Bool.and_true]

theorem coherent_intersection (left : a.Coherent) (right : b.Coherent) :
    (intersection a b).Coherent := by
  intro static method cls args
  obtain ⟨first, second⟩ := Bool.or_eq_false_iff.1 static
  simp only [intersection, left first, right second]

variable (method : Method) (cls : TargetClass) (args : Arguments)

theorem accepts_union (a b : MethodMatcher) :
    (union a b).accepts method cls args = (a.accepts method cls args || b.accepts method cls args) := by
  rw [accepts_of_coherent (coherent_union a b)]
  exact Pointcut.or_of_narrower (fun left => (Bool.and_eq_true_iff.1 left).1)
    (fun right => (Bool.and_eq_true_iff.1 right).1)

theorem accepts_intersection (left : a.Coherent) (right : b.Coherent) :
    (intersection a b).accepts method cls args = (a.accepts method cls args && b.accepts method cls args) := by
  rw [accepts_of_coherent (coherent_intersection left right), accepts_of_coherent left,
    accepts_of_coherent right]
  simp only [intersection]
  ac_rfl

end

end MethodMatcher

namespace Pointcut

theorem matchesCall_eq_accepts (pointcut : Pointcut) (method : Method) (cls : TargetClass)
    (args : Arguments) :
    pointcut.matchesCall method cls args =
      (pointcut.classFilter cls && pointcut.methodMatcher.accepts method cls args) :=
  Bool.and_assoc ..

theorem accepts_union (a b : Pointcut) (method : Method) (cls : TargetClass) (args : Arguments) :
    (union a b).methodMatcher.accepts method cls args =
      (a.matchesCall method cls args || b.matchesCall method cls args) := by
  rw [MethodMatcher.accepts_of_coherent (coherent_union a b)]
  exact or_of_narrower matchesMethod_of_matchesCall matchesMethod_of_matchesCall

theorem accepts_negation (a : Pointcut) (method : Method) (cls : TargetClass) (args : Arguments) :
    (negation a).methodMatcher.accepts method cls args = !a.matchesCall method cls args := by
  rw [← matchesCall_negation, matchesCall_eq_accepts]
  rfl

/-- What a pointcut says of classes, and what it says of calls. -/
structure Judgement where
  onClass : TargetClass → Bool
  onCall : Method → TargetClass → Arguments → Bool

namespace Judgement

def ofParts (pointcut : Pointcut) : Judgement := ⟨pointcut.classFilter, pointcut.methodMatcher.accepts⟩

def holds (judgement : Judgement) (method : Method) (cls : TargetClass) (args : Arguments) : Bool :=
  judgement.onClass cls && judgement.onCall method cls args

/-- The steps on one part leave the other alone. A union and a negation judge calls by both parts, and a
negation judges no class. -/
def after (judgement : Judgement) : Step → Judgement
  | .unionClass filter => { judgement with onClass := fun cls => judgement.onClass cls || filter cls }
  | .intersectionClass filter => { judgement with onClass := fun cls => judgement.onClass cls && filter cls }
  | .unionMethod matcher =>
    { judgement with
      onCall := fun method cls args =>
        judgement.onCall method cls args || matcher.accepts method cls args }
  | .intersectionMethod matcher =>
    { judgement with
      onCall := fun method cls args =>
        judgement.onCall method cls args && matcher.accepts method cls args }
  | .union other =>
    { onClass := fun cls => judgement.onClass cls || other.classFilter cls
      onCall := fun method cls args =>
        judgement.holds method cls args || other.matchesCall method cls args }
  | .intersection other =>
    { onClass := fun cls => judgement.onClass cls && other.classFilter cls
      onCall := fun method cls args =>
        judgement.onCall method cls args && other.methodMatcher.accepts method cls args }
  | .negate =>
    { onClass := fun _ => true
      onCall := fun method cls args => !judgement.holds method cls args }

end Judgement

def Step.Coherent : Step → Prop
  | .unionMethod matcher | .intersectionMethod matcher => matcher.Coherent
  | .union other | .intersection other => other.methodMatcher.Coherent
  | .unionClass _ | .intersectionClass _ | .negate => True

/-- The judgement is that of the pointcut's parts. -/
structure Judged (pointcut : Pointcut) (judgement : Judgement) : Prop where
  onClass : pointcut.classFilter = judgement.onClass
  onCall : pointcut.methodMatcher.accepts = judgement.onCall
  coherent : pointcut.methodMatcher.Coherent

namespace Judged

variable {pointcut : Pointcut} {judgement : Judgement}

theorem holds (judged : Judged pointcut judgement) : pointcut.matchesCall = judgement.holds := by
  funext method cls args
  rw [matchesCall_eq_accepts, judged.onClass, judged.onCall]
  rfl

/-- What one step does to both parts. -/
theorem step (judged : Judged pointcut judgement) {step : Step} (brought : step.Coherent) :
    Judged (step.apply pointcut) (judgement.after step) := by
  have whole := judged.holds
  obtain ⟨onClass, onCall, coherent⟩ := judged
  cases step with
  | unionClass filter => exact ⟨by rw [Judgement.after, ← onClass]; rfl, onCall, coherent⟩
  | intersectionClass filter => exact ⟨by rw [Judgement.after, ← onClass]; rfl, onCall, coherent⟩
  | unionMethod matcher =>
    refine ⟨onClass, ?_, MethodMatcher.coherent_union _ _⟩
    funext method cls args
    rw [Judgement.after, ← onCall]
    exact MethodMatcher.accepts_union method cls args _ _
  | intersectionMethod matcher =>
    refine ⟨onClass, ?_, MethodMatcher.coherent_intersection coherent brought⟩
    funext method cls args
    rw [Judgement.after, ← onCall]
    exact MethodMatcher.accepts_intersection method cls args coherent brought
  | union other =>
    refine ⟨by rw [Judgement.after, ← onClass]; rfl, ?_, coherent_union _ _⟩
    funext method cls args
    rw [Judgement.after, ← whole]
    exact accepts_union pointcut other method cls args
  | intersection other =>
    refine ⟨by rw [Judgement.after, ← onClass]; rfl, ?_, coherent_intersection coherent brought⟩
    funext method cls args
    rw [Judgement.after, ← onCall]
    exact MethodMatcher.accepts_intersection method cls args coherent brought
  | negate =>
    refine ⟨rfl, ?_, coherent_negation _⟩
    funext method cls args
    rw [Judgement.after, ← whole]
    exact accepts_negation pointcut method cls args

theorem compose (judged : Judged pointcut judgement) {steps : List Step}
    (brought : ∀ step ∈ steps, step.Coherent) :
    Judged (pointcut.compose steps) (steps.foldl Judgement.after judgement) := by
  induction steps generalizing pointcut judgement with
  | nil => exact judged
  | cons first others ih =>
    obtain ⟨now, later⟩ := List.forall_mem_cons.1 brought
    exact ih (judged.step now) later

end Judged

/-- A pointcut that is built step by step from another decides on a call as its two parts do, followed
step by step; and its class filter is the part about classes. -/
theorem compose_judges (start : Pointcut) (steps : List Step) (started : start.methodMatcher.Coherent)
    (brought : ∀ step ∈ steps, step.Coherent) :
    let judgement := steps.foldl Judgement.after (.ofParts start)
    (start.compose steps).classFilter = judgement.onClass ∧
      ∀ method cls args, (start.compose steps).matchesCall method cls args =
        (judgement.onClass cls && judgement.onCall method cls args) := by
  intro judgement
  have judged : Judged (start.compose steps) judgement := Judged.compose ⟨rfl, rfl, started⟩ brought
  exact ⟨judged.onClass, fun method cls args => by rw [judged.holds, Judgement.holds]⟩

end Pointcut

end Weave

namespace Weave.Pointcut

def taking : Method := ⟨"", "Shop", "take", ["u64"], "bool"⟩

/-- From methods whose name starts with `put`: those that take something too, but only with arguments;
then all other calls, but only on shops. -/
def unhandled : List Step :=
  [.unionMethod (.names ["take*"]), .intersectionMethod (.dynamic fun _ _ args => args.size != 0), .negate,
    .intersectionClass (.names ["Shop*"])]

/-- The filter on shops comes behind the negation and is not turned round by it. -/
theorem unhandled_judged :
    let puts := methodNames ["put*"]
    puts.methodMatcher.Coherent ∧ (∀ step ∈ unhandled, step.Coherent) ∧
      (puts.compose unhandled).matchesCall taking (.ofType ⟨"Shop"⟩) ⟨[]⟩ = true ∧
      (puts.compose unhandled).matchesCall taking (.ofType ⟨"Shop"⟩) ⟨[⟨.bool, true⟩]⟩ = false ∧
      (puts.compose unhandled).matchesCall taking (.ofType ⟨"Depot"⟩) ⟨[]⟩ = false := by
  intro puts
  have started : puts.methodMatcher.Coherent := MethodMatcher.coherent_ofStatic _
  have brought : ∀ step ∈ unhandled, step.Coherent := by
    simp only [unhandled, List.forall_mem_cons]
    exact ⟨MethodMatcher.coherent_ofStatic _, MethodMatcher.coherent_dynamic _ _, trivial, trivial,
      List.forall_mem_nil _⟩
  refine ⟨started, brought, ?_⟩
  simp only [(compose_judges puts unhandled started brought).2]
  decide

end Weave.Pointcut
