import Weave.Proofs.ExpressionTrees
import Weave.Proofs.StarPatterns

/-! Expressions and classes under another name. The class filter of an expression asks for the name of the
class and the names of its interfaces, the match of a method for the name of its declaring type. The two
agree on the methods of interfaces, but a class may go by another name than its own descriptor. Its own
methods are then declared by a name that the class filter does not ask for, and a rule for that name
selects methods of a class that it refuses. -/

namespace Weave

namespace TargetClass

/-- The methods of each descriptor carry its name as their declaring type. -/
structure Labelled (cls : TargetClass) : Prop where
  interfaces : ∀ interface ∈ cls.interfaceList, ∀ method ∈ interface.methods,
    method.declaringType = interface.name
  own : ∀ descriptor, cls.classDescriptor? = some descriptor → ∀ method ∈ descriptor.methods,
    method.declaringType = descriptor.name

/-- The name under which its own methods are declared is that of the class, or of an interface of it. -/
def KeepsName (cls : TargetClass) : Prop :=
  ∀ descriptor, cls.classDescriptor? = some descriptor → descriptor.methods ≠ [] →
    descriptor.name = cls.name ∨ descriptor.name ∈ cls.interfaceNames

variable {cls : TargetClass} {method : Method}

theorem mem_methods :
    method ∈ cls.methods ↔ (∃ interface ∈ cls.interfaceList, method ∈ interface.methods) ∨
      ∃ descriptor, cls.classDescriptor? = some descriptor ∧ method ∈ descriptor.methods := by
  rw [methods, List.mem_append, List.mem_flatMap]
  cases cls.classDescriptor? with
  | none => simp
  | some descriptor => simp

theorem Labelled.owns (labelled : cls.Labelled) (keeps : cls.KeepsName)
    (declared : method ∈ cls.methods) : cls.Owns method := by
  rcases mem_methods.1 declared with ⟨interface, bound, member⟩ | ⟨descriptor, described, member⟩
  · rw [Owns, labelled.interfaces interface bound method member]
    exact .inr (List.mem_map_of_mem bound)
  · rw [Owns, labelled.own descriptor described method member]
    exact keeps descriptor described (List.ne_nil_of_mem member)

end TargetClass

namespace Expression

def Conservative (cls : TargetClass) : Prop :=
  ∀ (expression : Expression), ∀ method ∈ cls.methods, expression.matchesMethod method cls = true →
    expression.matchesClass cls = true

theorem matchesClass_typePattern {cls : TargetClass} {name : String} (plain : '*' ∉ name.toList) :
    (typePattern name).matchesClass cls = true ↔ cls.name = name ∨ name ∈ cls.interfaceNames := by
  simp only [matchesClass, anyTypeName, Bool.or_eq_true, List.any_eq_true, Glob.accepts_of_plain plain,
    exists_eq_right]

theorem matchesMethod_typePattern {cls : TargetClass} {method : Method}
    (plain : '*' ∉ method.declaringType.toList) :
    (typePattern method.declaringType).matchesMethod method cls = true :=
  Bool.or_eq_true_iff.2 (.inr ((Glob.accepts_of_plain plain _).2 rfl))

/-- Class filters refuse no class of which a method is matched if the class keeps the name under which its
own methods are declared; and, that name being without stars, only if it does. -/
theorem conservative_iff_keepsName (cls : TargetClass) (labelled : cls.Labelled) :
    (cls.KeepsName → Conservative cls) ∧
      ((∀ descriptor, cls.classDescriptor? = some descriptor → '*' ∉ descriptor.name.toList) →
        Conservative cls → cls.KeepsName) := by
  constructor
  · intro keeps expression method declared matched
    exact matchesClass_of_matchesMethod (labelled.owns keeps declared) matched
  · intro plain conservative descriptor described listed
    obtain ⟨method, member⟩ := List.exists_mem_of_ne_nil _ listed
    have label := labelled.own descriptor described method member
    have unstarred : '*' ∉ method.declaringType.toList := label ▸ plain descriptor described
    have declared : method ∈ cls.methods :=
      TargetClass.mem_methods.2 (.inr ⟨descriptor, described, member⟩)
    have taken := conservative (.typePattern method.declaringType) method declared
      (matchesMethod_typePattern unstarred)
    rw [matchesClass_typePattern unstarred, label] at taken
    exact taken.imp_left Eq.symm

namespace Vault

def opening : Method := ⟨"", "Vault", "open", [], "bool"⟩

def own : TargetClass := .ofClass ⟨"Vault"⟩ ⟨"Vault", [opening], false⟩

def cellar : TargetClass := (own.named "Cellar").implementing ⟨"", "Vault", []⟩

theorem cellar_conservative : cellar.Labelled ∧ cellar.KeepsName ∧ Conservative cellar := by
  have labelled : cellar.Labelled := ⟨by decide +kernel, by decide +kernel⟩
  have keeps : cellar.KeepsName := by
    rintro descriptor ⟨⟩ _
    exact .inr (by decide +kernel)
  exact ⟨labelled, keeps, (conservative_iff_keepsName cellar labelled).1 keeps⟩

/-- Without the interface the rule for vaults selects the method but refuses the class. -/
theorem renamed_class_refused :
    (own.named "Cellar").Labelled ∧ opening ∈ (own.named "Cellar").methods ∧
      (typePattern "Vault").matchesMethod opening (own.named "Cellar") = true ∧
      (typePattern "Vault").matchesClass (own.named "Cellar") = false := by
  exact ⟨⟨by decide +kernel, by decide +kernel⟩, by decide +kernel⟩

end Vault

end Expression

end Weave
