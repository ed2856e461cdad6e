/-! Values that pass through a call. A value knows its type, and looking at it under another type
finds nothing: that is the whole of the dynamic typing of arguments and results. Which types there
are is left to the program whose calls they are. -/

namespace Weave

/-- The types of a program's values: any types that can be told apart, with the names by which
messages call them. As an instance they need not be named in what is said about calls. -/
class ValueTypes where
  Index : Type
  decEq : DecidableEq Index
  Carrier : Index → Type
  name : Index → String

abbrev ValueType [ValueTypes] : Type := ValueTypes.Index

variable [ValueTypes]

namespace ValueType

instance : DecidableEq ValueType := ValueTypes.decEq

abbrev Carrier (type : ValueType) : Type := ValueTypes.Carrier type

def name (type : ValueType) : String := ValueTypes.name type

end ValueType

structure Value where
  type : ValueType
  data : type.Carrier

namespace Value

def as? (value : Value) (type : ValueType) : Option type.Carrier :=
  if same : value.type = type then some (same ▸ value.data) else none

@[simp] theorem as?_mk (type : ValueType) (data : type.Carrier) :
    Value.as? ⟨type, data⟩ type = some data := by
  simp [as?]

theorem as?_eq_some {value : Value} {type : ValueType} {data : type.Carrier} :
    value.as? type = some data ↔ value = ⟨type, data⟩ := by
  constructor
  · intro found
    obtain ⟨own, content⟩ := value
    unfold as? at found
    split at found
    · rename_i same
      cases same
      simpa using found
    · contradiction
  · rintro rfl
    exact as?_mk type data

end Value

end Weave
