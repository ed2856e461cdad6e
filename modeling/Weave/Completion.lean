import Weave.Arguments

/-! The typed ends of a call. A forwarder erases what its method returns so that the engine can
carry it, and the caller's side completes the erased outcome to the declared types again. -/

namespace Weave

/-- The errors a method declares: those of one family, or any error at all. -/
inductive ErrorType where
  | any
  | family (name : String)
deriving DecidableEq, Repr

namespace ErrorType

abbrev Carrier : ErrorType → Type
  | any => Fault
  | family _ => FamilyError

def erase : (errors : ErrorType) → errors.Carrier → Fault
  | any, fault => fault
  | family name, error => .base (error.layer name)

def layer : (errors : ErrorType) → errors.Carrier → Layer
  | any, fault => .erased fault
  | family name, error => error.layer name

def ofLayer? : (errors : ErrorType) → Layer → Option errors.Carrier
  | any, .erased inner => some inner
  | any, _ => none
  | family name, layer => FamilyError.ofLayer? name layer

/-- The declared error that an error in flight is searched for. Where any error is declared, that is
not the error in flight itself, but one that is used as a single value in it. -/
def find? (errors : ErrorType) (fault : Fault) : Option errors.Carrier :=
  fault.layers.findSome? errors.ofLayer?

/-- Every family has a variant that stands for any other error. -/
def ofFault : (errors : ErrorType) → Fault → errors.Carrier
  | any, fault => fault
  | family _, fault => .other fault

/-- The declared error that an error in flight is taken for: one found in it, or else itself wrapped. -/
def restore (errors : ErrorType) (fault : Fault) : errors.Carrier :=
  (errors.find? fault).getD (errors.ofFault fault)

end ErrorType

variable [ValueTypes]

abbrev Outcome := Except Fault Value

def Outcome.erase (type : ValueType) (errors : ErrorType) :
    Except errors.Carrier type.Carrier → Outcome
  | .ok content => .ok ⟨type, content⟩
  | .error error => .error (errors.erase error)

def Outcome.complete (type : ValueType) (errors : ErrorType) (method : Method) :
    Outcome → Except errors.Carrier type.Carrier
  | .ok value =>
    match value.as? type with
    | some content => .ok content
    | none =>
      .error (errors.ofFault (.invocation (.returnTypeMismatch method.signature type.name)))
  | .error fault => .error (errors.restore fault)

end Weave
