import Weave.Event
import Weave.Table

/-! The registry of target classes: for each concrete type the class registered last. -/

namespace Weave

structure Registry where
  classes : Table ObjectType TargetClass := {}

/-- A class that is registered under a name of its own whenever a registry loads them all. -/
structure Registration where
  name : String
  cls : TargetClass

namespace Registry

def find? (registry : Registry) (type : ObjectType) : Option TargetClass :=
  registry.classes.find? type

def size (registry : Registry) : Nat := registry.classes.size

/-- The key is the described type, so a class replaces the one of the same type whatever either is
called. -/
def register (registry : Registry) (cls : TargetClass) : Registry :=
  ⟨registry.classes.insert cls.type cls⟩

def registerEvents (registry : Registry) (cls : TargetClass) : List Event :=
  .classRegistered cls.name ::
    match registry.find? cls.type with
    | some previous => [.classReplaced previous.name]
    | none => []

def load (registry : Registry) (registrations : List Registration) : Registry :=
  registrations.foldl (fun registry registration => registry.register registration.cls) registry

def loadEachEvents (registry : Registry) : List Registration → List Event
  | [] => []
  | registration :: rest =>
    .loadingClass registration.name :: registry.registerEvents registration.cls ++
      loadEachEvents (registry.register registration.cls) rest

def loadEvents (registry : Registry) (registrations : List Registration) : List Event :=
  .autoLoading registrations.length :: registry.loadEachEvents registrations

end Registry

end Weave
