import Weave.Pointcut.Expression
import Weave.Proofs.PointcutAlgebra

/-! Expressions against composed pointcuts. An expression looks at the class in one walk over its tree
and at the method in another, and a negation tells the first walk nothing. For a method that belongs to
the class the first walk refuses nothing that the second would take, so that the second decides alone;
and it decides as the pointcut operators do on the leaves. -/

namespace Weave

def TargetClass.Owns (cls : TargetClass) (method : Method) : Prop :=
  method.declaringType = cls.name ∨ method.declaringType ∈ cls.interfaceNames

namespace Expression

variable {cls : TargetClass} {method : Method} (owns : cls.Owns method)
include owns

theorem anyTypeName_of_anyOwnerName {check : String → Bool}
    (fits : anyOwnerName method cls check = true) : anyTypeName cls check = true := by
  simp only [anyOwnerName, anyTypeName, Bool.or_eq_true, List.any_eq_true] at fits ⊢
  rcases fits with own | declaring
  · exact .inl own
  · rcases owns with same | member
    · exact .inl (same ▸ declaring)
    · exact .inr ⟨_, member, declaring⟩

theorem matchesClass_of_matchesMethod {expression : Expression}
    (matched : expression.matchesMethod method cls = true) : expression.matchesClass cls = true := by
  induction expression with
  | all | methodPattern | methodRegex | custom | not => rfl
  | typePattern | typeRegex => exact anyTypeName_of_anyOwnerName owns matched
  | execution typeRule methodRule =>
    exact anyTypeName_of_anyOwnerName owns (Bool.and_eq_true_iff.1 matched).1
  | and left right first second =>
    obtain ⟨onLeft, onRight⟩ := Bool.and_eq_true_iff.1 matched
    exact Bool.and_eq_true_iff.2 ⟨first onLeft, second onRight⟩
  | or left right first second =>
    exact Bool.or_eq_true_iff.2 ((Bool.or_eq_true_iff.1 matched).imp first second)

end Expression

variable [ValueTypes]

namespace Composition

theorem matchesMethod_eq_verdict {tree : Composition}
    (static : ∀ leaf ∈ tree.leaves, leaf.methodMatcher.isRuntime = false) (method : Method)
    (cls : TargetClass) :
    tree.pointcut.matchesMethod method cls = tree.verdict (·.matchesMethod method cls) := by
  induction tree with
  | leaf pointcut => rfl
  | union left right first second =>
    rw [pointcut, Pointcut.matchesMethod_union, verdict,
      first fun leaf member => static leaf (List.mem_append_left _ member),
      second fun leaf member => static leaf (List.mem_append_right _ member)]
  | intersection left right first second =>
    rw [pointcut, Pointcut.matchesMethod_intersection, verdict,
      first fun leaf member => static leaf (List.mem_append_left _ member),
      second fun leaf member => static leaf (List.mem_append_right _ member)]
  | negation inner ih =>
    have whole : inner.pointcut.methodMatcher.isRuntime = false := by
      rw [isRuntime_eq_any, List.any_eq_false]
      intro leaf member runtime
      rw [static leaf member] at runtime
      contradiction
    rw [pointcut, verdict, ← ih static]
    simp only [Pointcut.matchesMethod, Pointcut.negation, whole, Bool.true_and, Bool.false_or]

end Composition

namespace Expression

def composition : Expression → Composition
  | and left right => .intersection left.composition right.composition
  | or left right => .union left.composition right.composition
  | not inner => .negation inner.composition
  | leaf => .leaf leaf.pointcut

/-- The tree as a Boolean formula, on a verdict about each leaf. -/
def verdict (decide : Expression → Bool) : Expression → Bool
  | and left right => left.verdict decide && right.verdict decide
  | or left right => left.verdict decide || right.verdict decide
  | not inner => !inner.verdict decide
  | leaf => decide leaf

theorem verdict_composition (decide : Pointcut → Bool) (expression : Expression) :
    expression.composition.verdict decide = expression.verdict fun leaf => decide leaf.pointcut := by
  induction expression with
  | and left right first second | or left right first second =>
    simp only [composition, verdict, Composition.verdict, first, second]
  | not inner ih => simp only [composition, verdict, Composition.verdict, ih]
  | all | typePattern | methodPattern | execution | typeRegex | methodRegex | custom => rfl

theorem composition_static (expression : Expression) :
    ∀ leaf ∈ expression.composition.leaves, leaf.methodMatcher.isRuntime = false := by
  induction expression with
  | and left right first second | or left right first second =>
    exact List.forall_mem_append.2 ⟨first, second⟩
  | not inner ih => exact ih
  | all | typePattern | methodPattern | execution | typeRegex | methodRegex | custom =>
    exact List.forall_mem_singleton.2 rfl

section
variable {cls : TargetClass} {method : Method} (owns : cls.Owns method)
include owns

theorem matchesMethod_pointcut (expression : Expression) :
    expression.pointcut.matchesMethod method cls = expression.matchesMethod method cls :=
  Bool.and_eq_right_iff_imp.2 (matchesClass_of_matchesMethod owns)

theorem matchesMethod_eq_verdict (expression : Expression) :
    expression.pointcut.matchesMethod method cls =
      expression.verdict (·.pointcut.matchesMethod method cls) := by
  induction expression with
  | and left right first second | or left right first second =>
    rw [verdict, ← first, ← second]
    simp only [matchesMethod_pointcut owns, matchesMethod]
  | not inner ih =>
    rw [verdict, ← ih]
    simp only [matchesMethod_pointcut owns, matchesMethod]
  | all | typePattern | methodPattern | execution | typeRegex | methodRegex | custom => rfl

end

/-- For a method of the class, an expression decides as the pointcut that the operators compose of its
leaves, and both decide as its tree does on the verdicts of the leaves. The leaves may ask anything
about names, and the custom ones about the method and the class. -/
theorem matches_as_composed (expression : Expression) (cls : TargetClass) (method : Method)
    (owns : cls.Owns method) :
    let verdict := expression.verdict (·.pointcut.matchesMethod method cls)
    expression.pointcut.matchesMethod method cls =
        expression.composition.pointcut.matchesMethod method cls ∧
      expression.pointcut.matchesMethod method cls = verdict ∧
      expression.composition.pointcut.matchesMethod method cls = verdict := by
  intro verdict
  have whole : expression.pointcut.matchesMethod method cls = verdict :=
    matchesMethod_eq_verdict owns expression
  have composed : expression.composition.pointcut.matchesMethod method cls = verdict := by
    rw [Composition.matchesMethod_eq_verdict expression.composition_static, verdict_composition]
  exact ⟨whole.trans composed.symm, whole, composed⟩

end Expression

end Weave

namespace Weave.Expression

def closing : Method := ⟨"", "Accounts", "close", [], "()"⟩

def ledger : TargetClass :=
  (TargetClass.ofType ⟨"Ledger"⟩).implementing ⟨"", "Accounts", [closing]⟩

def accountsOnly : Expression :=
  .not (.or (.not (.typePattern "Acc*")) (.and (.typePattern "Ledger") (.not (.methodPattern "cl*"))))

theorem accountsOnly_composed :
    ledger.Owns closing ∧ accountsOnly.pointcut.matchesMethod closing ledger = true ∧
      accountsOnly.composition.pointcut.matchesMethod closing ledger = true := by
  have owns : ledger.Owns closing := .inr (by decide +kernel)
  have matched : accountsOnly.pointcut.matchesMethod closing ledger = true := by decide +kernel
  have same := (matches_as_composed accountsOnly ledger closing owns).1
  exact ⟨owns, matched, same ▸ matched⟩

/-- On a method that another type declares the two differ: the composed pointcut refuses the operand for
its class, the expression takes it for the method. -/
example :
    let foreign : Method := { closing with declaringType := "Archive" }
    let outside : Expression := .not (.typePattern "Archive")
    outside.pointcut.matchesMethod foreign ledger = false ∧
      outside.composition.pointcut.matchesMethod foreign ledger = true := by
  decide +kernel

end Weave.Expression
