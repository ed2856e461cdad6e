import Weave.BasicTypes
import Weave.Pointcut.Matchers

/-! Workbench: conditions on a call that can be written down as data. A condition on something
that is not known yet is false: there is no method in a class filter, and no argument in a static
check. -/

namespace Weave.Bench

def contentOrder : (type : BasicType) → type.Carrier → type.Carrier → Ordering
  | .string, a, b | .literal, a, b => compare a b
  | .u8, a, b => compare a b
  | .u32, a, b => compare a b
  | .u64, a, b => compare a b
  | .i32, a, b => compare a b
  | .i64, a, b => compare a b
  | .bool, a, b => compare a b
  | .unit, _, _ => .eq
  | .strings, a, b => compare a b

def compareValues? (a b : Value) : Option Ordering :=
  (a.as? b.type).map fun content => contentOrder b.type content b.data

inductive Condition where
  | constant (verdict : Bool)
  | arity (count : Nat)
  | nameStarts (stem : String)
  | declaring (typeName : String)
  | declaredIn (module : String)
  | className (name : String)
  | implementing (interface : String)
  | argumentCount (count : Nat)
  | argument (index : Nat) (order : Ordering) (value : Value)
  | all (conditions : List Condition)
  | not (inner : Condition)

namespace Condition

structure Known where
  cls : TargetClass
  method : Option Method := none
  args : Option Arguments := none

mutual

def holds (known : Known) : Condition → Bool
  | constant verdict => verdict
  | arity count => known.method.any (·.arity == count)
  | nameStarts stem => known.method.any (·.name.startsWith stem)
  | declaring typeName => known.method.any (·.declaringType == typeName)
  | declaredIn module => known.method.any (·.module == module)
  | className name => known.cls.name == name
  | implementing interface => known.cls.implementsNamed interface
  | argumentCount count => known.args.any (·.size == count)
  | argument index order value =>
    known.args.any fun args => (args.values[index]?.bind (compareValues? · value)) == some order
  | all conditions => allHold known conditions
  | not inner => !holds known inner

def allHold (known : Known) : List Condition → Bool
  | [] => true
  | condition :: rest => holds known condition && allHold known rest

end

def onClass (condition : Condition) : ClassFilter := fun cls => condition.holds { cls }

def onMethod (condition : Condition) (method : Method) (cls : TargetClass) : Bool :=
  condition.holds { cls, method }

def onCall (condition : Condition) (method : Method) (cls : TargetClass) (args : Arguments) :
    Bool :=
  condition.holds { cls, method, args }

end Condition

end Weave.Bench
