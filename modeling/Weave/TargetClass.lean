import Weave.Method
import Weave.Fault

/-! What is declared about a type of targets: the interfaces it is bound to, the class binding it
may have, and whether it is sealed. A binding names an entry point of the type's code; calling the
entry point is the engine's work. -/

namespace Weave

structure ObjectType where
  path : String
deriving DecidableEq, Repr

def afterLastColons : List Char → List Char → List Char
  | best, [] => best
  | best, ':' :: ':' :: rest => let _ := best; afterLastColons rest rest
  | best, _ :: rest => afterLastColons best rest

def ObjectType.shortName (type : ObjectType) : String :=
  let base := type.path.toList.takeWhile (· ≠ '<')
  String.ofList (afterLastColons base base)

/-- An interface: its methods, and the module and name that identify it. -/
structure Interface where
  module : String := ""
  name : String
  methods : List Method
deriving DecidableEq, Repr

namespace Interface

def qualifiedName (interface : Interface) : String :=
  if interface.module.isEmpty then interface.name else interface.module ++ "::" ++ interface.name

/-- Interfaces are one and the same if module and name agree, whatever methods they list. -/
def isSame (a b : Interface) : Bool := a.module == b.module && a.name == b.name

def declares (interface : Interface) (method : Method) : Bool := interface.methods.contains method

theorem declares_iff {interface : Interface} {method : Method} :
    interface.declares method = true ↔ method ∈ interface.methods := List.contains_iff_mem

def describe (interface : Interface) : String :=
  Text.record "InterfaceDescriptor" [("module", Text.quoted interface.module),
    ("name", Text.quoted interface.name),
    ("methods", Text.listing (interface.methods.map Method.describe))]

end Interface

/-- The methods of a class of its own, and whether it may have a subclass proxy. -/
structure ClassDescriptor where
  name : String
  methods : List Method
  isSealed : Bool := false
deriving DecidableEq, Repr

namespace ClassDescriptor

def declares (descriptor : ClassDescriptor) (method : Method) : Bool :=
  descriptor.methods.contains method

theorem declares_iff {descriptor : ClassDescriptor} {method : Method} :
    descriptor.declares method = true ↔ method ∈ descriptor.methods := List.contains_iff_mem

def describe (descriptor : ClassDescriptor) : String :=
  Text.record "ClassDescriptor" [("name", Text.quoted descriptor.name),
    ("methods", Text.listing (descriptor.methods.map Method.describe)),
    ("sealed", toString descriptor.isSealed)]

end ClassDescriptor

/-- The entry point of a type's code that a binding calls. -/
inductive EntryPoint where
  | classMethods
  | interfaceMethods (index : Nat)
deriving DecidableEq, Repr

/-- A descriptor with the entry point that serves it. `expected` is what the type was called when
the binding was made; an object of another type is refused under that name. -/
structure Binding (Descriptor : Type) where
  descriptor : Descriptor
  entry : EntryPoint
  expected : String
deriving DecidableEq, Repr

structure TargetClass where
  name : String
  type : ObjectType
  isSealed : Bool := false
  classBinding : Option (Binding ClassDescriptor) := none
  interfaces : List (Binding Interface) := []
deriving DecidableEq, Repr

namespace TargetClass

def ofType (type : ObjectType) : TargetClass := { name := type.shortName, type }

def ofClass (type : ObjectType) (descriptor : ClassDescriptor) : TargetClass where
  name := descriptor.name
  type := type
  isSealed := descriptor.isSealed
  classBinding := some ⟨descriptor, .classMethods, descriptor.name⟩

def named (name : String) (cls : TargetClass) : TargetClass := { cls with name }

def implementing (interface : Interface) (cls : TargetClass) : TargetClass :=
  { cls with interfaces := cls.interfaces ++
      [⟨interface, .interfaceMethods cls.interfaces.length, cls.name⟩] }

def sealed (cls : TargetClass) : TargetClass := { cls with isSealed := true }

def interfaceList (cls : TargetClass) : List Interface := cls.interfaces.map (·.descriptor)

def hasInterfaces (cls : TargetClass) : Bool := !cls.interfaces.isEmpty

def interfaceNames (cls : TargetClass) : List String := cls.interfaceList.map (·.name)

def classDescriptor? (cls : TargetClass) : Option ClassDescriptor :=
  cls.classBinding.map (·.descriptor)

def implementsNamed (cls : TargetClass) (name : String) : Bool :=
  cls.interfaceList.any fun interface => interface.name == name || interface.qualifiedName == name

def implementsSame (cls : TargetClass) (wanted : Interface) : Bool :=
  cls.interfaceList.any (·.isSame wanted)

def declaresViaInterface (cls : TargetClass) (method : Method) : Bool :=
  cls.interfaceList.any (·.declares method)

def declaresViaClass (cls : TargetClass) (method : Method) : Bool :=
  cls.classDescriptor?.any (·.declares method)

theorem declaresViaInterface_iff {cls : TargetClass} {method : Method} :
    cls.declaresViaInterface method = true ↔
      ∃ interface ∈ cls.interfaceList, method ∈ interface.methods := by
  simp only [declaresViaInterface, List.any_eq_true, Interface.declares_iff]

theorem declaresViaClass_iff {cls : TargetClass} {method : Method} :
    cls.declaresViaClass method = true ↔
      ∃ descriptor, cls.classDescriptor? = some descriptor ∧ method ∈ descriptor.methods := by
  simp only [declaresViaClass, Option.any_eq_true, ClassDescriptor.declares_iff]

def methods (cls : TargetClass) : List Method :=
  cls.interfaceList.flatMap (·.methods) ++ (cls.classDescriptor?.map (·.methods)).getD []

def checkSubclassable (cls : TargetClass) : Except ConfigError Unit :=
  if cls.isSealed then .error (.notSubclassable cls.name "type is sealed")
  else if cls.classBinding.isNone then
    .error (.notSubclassable cls.name
      "no class binding declared (annotate the impl block with #[aop_class])")
  else .ok ()

/-- The entry point that serves a method, with the name its binding expects: the class binding
first, then the interfaces in the order they were bound. -/
def route? (cls : TargetClass) (method : Method) : Option (EntryPoint × String) :=
  match cls.classBinding.filter (·.descriptor.declares method) with
  | some binding => some (binding.entry, binding.expected)
  | none =>
    (cls.interfaces.find? (·.descriptor.declares method)).map fun binding =>
      (binding.entry, binding.expected)

theorem route?_isSome (cls : TargetClass) (method : Method) :
    (cls.route? method).isSome = (cls.declaresViaClass method || cls.declaresViaInterface method) := by
  have viaInterface : cls.declaresViaInterface method =
      (cls.interfaces.find? (·.descriptor.declares method)).isSome := by
    rw [declaresViaInterface, interfaceList, List.any_map, Bool.eq_iff_iff, List.any_eq_true,
      List.find?_isSome]
    rfl
  unfold route? declaresViaClass classDescriptor?
  rw [viaInterface]
  cases cls.classBinding with
  | none => exact Option.isSome_map
  | some binding =>
    cases declared : binding.descriptor.declares method <;> simp [Option.filter, declared]

def describe (cls : TargetClass) : String :=
  Text.record "TargetClass" [("name", Text.quoted cls.name),
    ("interfaces", Text.quotedList cls.interfaceNames),
    ("class", Text.optional (cls.classDescriptor?.map fun own => Text.quoted own.name)),
    ("sealed", toString cls.isSealed)]

end TargetClass

end Weave
