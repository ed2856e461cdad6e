import Weave.Text.Quoted

/-! Methods as they are declared: nothing here runs, a method only says what can be called. -/

namespace Weave

/-- A declared method. All five fields count for equality; the signature shows three of them. -/
structure Method where
  module : String := ""
  declaringType : String
  name : String
  parameterTypes : List String
  returnType : String
deriving DecidableEq, Repr

namespace Method

def arity (method : Method) : Nat := method.parameterTypes.length

def signature (method : Method) : String :=
  method.declaringType ++ "::" ++ method.name ++ "(" ++
    ", ".intercalate method.parameterTypes ++ ")"

def describe (method : Method) : String :=
  Text.record "Method" [("module", Text.quoted method.module),
    ("declaring_type", Text.quoted method.declaringType), ("name", Text.quoted method.name),
    ("parameter_types", Text.quotedList method.parameterTypes),
    ("return_type", Text.quoted method.returnType)]

end Method

end Weave
