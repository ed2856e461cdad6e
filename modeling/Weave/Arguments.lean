import Weave.Value
import Weave.Method
import Weave.Fault

/-! The arguments of a call: values in the order of the parameters, each read and written under a
type that the caller names. -/

namespace Weave

variable [ValueTypes]

structure Arguments where
  values : List Value := []

namespace Arguments

def push (args : Arguments) (value : Value) : Arguments := ⟨args.values ++ [value]⟩

def size (args : Arguments) : Nat := args.values.length

def get? (args : Arguments) (type : ValueType) (index : Nat) : Option type.Carrier :=
  args.values[index]?.bind (·.as? type)

def set? (args : Arguments) (index : Nat) (value : Value) : Option Arguments :=
  if index < args.size then some ⟨args.values.set index value⟩ else none

def assign? (args : Arguments) (index : Nat) (value : Value) : Option Arguments :=
  match args.values[index]? with
  | some old => if old.type = value.type then some ⟨args.values.set index value⟩ else none
  | none => none

def fetch (args : Arguments) (method : Method) (type : ValueType) (index : Nat) :
    Except InvocationError type.Carrier :=
  match args.get? type index with
  | some content => .ok content
  | none => .error (.argumentMismatch method.signature index type.name)

def describe (args : Arguments) : String :=
  Text.record "Arguments" [("len", toString args.size)]

end Arguments

end Weave
