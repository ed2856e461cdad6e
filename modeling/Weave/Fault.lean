/-! Errors. Two families belong to the engine itself: mistakes in a configuration, and failures of
a call that no target raised. Every error that travels through a call is a `Fault`: a base error
under any number of contexts. Looking for an error of some family sees through contexts, the
outermost first, but not into what a transparent error stands for. -/

namespace Weave

inductive Strategy where
  | interfaceForwarding
  | subclassGeneration
deriving DecidableEq, Repr

namespace Strategy

def name : Strategy → String
  | interfaceForwarding => "interface-forwarding"
  | subclassGeneration => "subclass-generation"

def describe : Strategy → String
  | interfaceForwarding => "InterfaceForwarding"
  | subclassGeneration => "SubclassGeneration"

end Strategy

inductive ConfigError where
  | notSubclassable (typeName reason : String)
  | frozen (operation : String)
  | invalidPointcut (detail : String)
  | indexOutOfBounds (index length : Nat)
  | interfaceNotImplemented (typeName interface : String)
  | notAClassProxy (typeName : String) (strategy : Strategy)
  | targetTypeMismatch (expected : String)
  | invalidProperties (detail : String)
  | malformedProperties
deriving DecidableEq, Repr

def ConfigError.message : ConfigError → String
  | notSubclassable typeName reason =>
    "Cannot create subclass proxy for type '" ++ typeName ++ "': " ++ reason
  | frozen operation => "Cannot " ++ operation ++ ": proxy configuration is frozen"
  | invalidPointcut detail => "Invalid pointcut: " ++ detail
  | indexOutOfBounds index length =>
    "Advisor index " ++ toString index ++
      " out of bounds (advisor count: " ++ toString length ++ ")"
  | interfaceNotImplemented typeName interface =>
    "Type '" ++ typeName ++ "' does not implement proxied interface '" ++ interface ++ "'"
  | notAClassProxy typeName strategy =>
    "Proxy for '" ++ typeName ++ "' uses " ++ strategy.name ++
      " and cannot be viewed as a class proxy"
  | targetTypeMismatch expected => "Target object is not an instance of '" ++ expected ++ "'"
  | invalidProperties detail => "Invalid AOP properties: " ++ detail
  | malformedProperties => "Invalid AOP properties"

inductive InvocationError where
  | methodNotProxied (method : String) (strategy : Strategy)
  | unknownMethod (method typeName : String)
  | argumentMismatch (method : String) (index : Nat) (expected : String)
  | returnTypeMismatch (method expected : String)
  | targetTypeMismatch (expected : String)
  | poolExhausted (maxSize : Nat)
deriving DecidableEq, Repr

def InvocationError.message : InvocationError → String
  | methodNotProxied method strategy =>
    "Method " ++ method ++ " is not exposed by this " ++ strategy.name ++ " proxy"
  | unknownMethod method typeName =>
    "Type '" ++ typeName ++ "' has no dispatch entry for method " ++ method
  | argumentMismatch method index expected =>
    "Argument " ++ toString index ++ " of " ++ method ++ " is missing or not of type " ++ expected
  | returnTypeMismatch method expected =>
    "Return value of " ++ method ++ " is not of type " ++ expected
  | targetTypeMismatch expected => "Target object is not an instance of '" ++ expected ++ "'"
  | poolExhausted maxSize => "Target pool exhausted (max size: " ++ toString maxSize ++ ")"

/-- An error that a service declares: the family it belongs to, its variant there, its text and,
for some, the engine error that caused it. -/
structure ServiceError where
  family : String
  variant : String
  text : String
  source : Option InvocationError := none
deriving DecidableEq, Repr

/-- A single error value. -/
inductive Cause where
  | text (message : String)
  | invocation (error : InvocationError)
  | config (error : ConfigError)
  | service (error : ServiceError)
deriving DecidableEq, Repr

def Cause.message : Cause → String
  | text message => message
  | invocation error => error.message
  | config error => error.message
  | service error => error.text

def Cause.sources : Cause → List String
  | service error => (error.source.map InvocationError.message).toList
  | _ => []

mutual

/-- One of the errors that an error in flight is put together of. A `transparent` error is the
variant of a family that stands for any other error; an `erased` one is an error in flight that is
used as if it were a single value. -/
inductive Layer where
  | cause (cause : Cause)
  | transparent (family : String) (inner : Fault)
  | erased (inner : Fault)

/-- An error in flight: what was raised, under any number of contexts. -/
inductive Fault where
  | base (layer : Layer)
  | context (outer : Layer) (inner : Fault)

end

deriving instance DecidableEq, Repr for Layer, Fault

namespace Fault

def text (message : String) : Fault := base (.cause (.text message))
def invocation (error : InvocationError) : Fault := base (.cause (.invocation error))
def config (error : ConfigError) : Fault := base (.cause (.config error))
def service (error : ServiceError) : Fault := base (.cause (.service error))
def withContext (message : String) (fault : Fault) : Fault := context (.cause (.text message)) fault

/-- The contexts, the outermost first, and at last what they are around. -/
def layers : Fault → List Layer
  | base layer => [layer]
  | context outer inner => outer :: inner.layers

end Fault

mutual

def Layer.message : Layer → String
  | .cause own => own.message
  | .transparent _ inner | .erased inner => inner.message

def Fault.message : Fault → String
  | .base layer | .context layer _ => layer.message

end

mutual

def Layer.sources : Layer → List String
  | .cause own => own.sources
  | .transparent _ inner => inner.chain
  | .erased _ => []

/-- The texts of what caused the error, outermost first, without the error itself. -/
def Fault.chain : Fault → List String
  | .base layer => layer.sources
  | .context _ inner => inner.message :: inner.chain

end

def Fault.oneLine (fault : Fault) : String := ": ".intercalate (fault.message :: fault.chain)

namespace Layer

def invocation? : Layer → Option InvocationError
  | cause (.invocation error) => some error
  | _ => none

def config? : Layer → Option ConfigError
  | cause (.config error) => some error
  | _ => none

end Layer

namespace Fault

/-! Contexts are looked at before what they enclose. A transparent error hides what it stands for,
and so does an erased one. -/

def invocation? (fault : Fault) : Option InvocationError := fault.layers.findSome? Layer.invocation?

def config? (fault : Fault) : Option ConfigError := fault.layers.findSome? Layer.config?

end Fault

/-- An error of one declared family: a variant of its own, or the one that stands for others. -/
inductive FamilyError where
  | declared (variant text : String) (source : Option InvocationError)
  | other (fault : Fault)
deriving DecidableEq, Repr

namespace FamilyError

def layer (family : String) : FamilyError → Layer
  | declared variant text source => .cause (.service ⟨family, variant, text, source⟩)
  | other fault => .transparent family fault

def ofLayer? (family : String) : Layer → Option FamilyError
  | .cause (.service error) =>
    if error.family = family then some (.declared error.variant error.text error.source) else none
  | .transparent own inner => if own = family then some (.other inner) else none
  | _ => none

theorem ofLayer?_eq_some_iff {family : String} {layer : Layer} {error : FamilyError} :
    ofLayer? family layer = some error ↔ layer = error.layer family := by
  constructor
  · intro found
    cases layer with
    | erased => contradiction
    | transparent own inner =>
      obtain ⟨rfl, same⟩ := Option.ite_none_right_eq_some.1 found
      cases same
      rfl
    | cause own =>
      cases own with
      | text | invocation | config => contradiction
      | service own =>
        obtain ⟨rfl, same⟩ := Option.ite_none_right_eq_some.1 found
        cases same
        rfl
  · rintro rfl
    cases error <;> exact if_pos rfl

def find? (family : String) (fault : Fault) : Option FamilyError :=
  fault.layers.findSome? (ofLayer? family)

end FamilyError

structure ErrorInfo where
  message : String
  errorType : String
  sourceChain : List String
deriving DecidableEq, Repr

/-- Engine errors are named by their type, call failures before configuration mistakes. -/
def Fault.info (fault : Fault) : ErrorInfo where
  message := fault.message
  errorType :=
    if fault.invocation?.isSome then "chimera_aop::error::InvocationError"
    else if fault.config?.isSome then "chimera_aop::error::AopConfigError"
    else "anyhow::Error"
  sourceChain := fault.chain

def ErrorInfo.fullDescription (info : ErrorInfo) : String :=
  if info.sourceChain.isEmpty then info.message
  else info.message ++ "\nCaused by:\n  " ++ "\n  ".intercalate info.sourceChain

end Weave
