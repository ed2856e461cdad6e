import Weave.Declaration.Nesting
import Weave.Declaration.TypeName
import Weave.Text.Case

/-! Method signatures, and which of them can be proxied: a method must be plain, take `&self` and
owned arguments, and return a result. The checks have a fixed order, and the first that fails is
reported. -/

namespace Weave.Declaration

inductive Receiver where
  | absent
  | shared
  | other
deriving DecidableEq, Repr

/-- A parameter's pattern, of which only a plain name matters. -/
inductive Pattern where
  | name (identifier : String)
  | other
deriving DecidableEq, Repr

structure Signature where
  name : String
  isAsync : Bool := false
  isGeneric : Bool := false
  isVariadic : Bool := false
  receiver : Receiver
  parameters : List (Pattern × TypeExpr)
  output : Option TypeExpr
  docs : Nat := 0

inductive Refusal where
  | asyncMethod | genericMethod | variadicMethod | receiver | borrowedArgument | implTraitArgument
  | returnType | genericTrait | notAMethod | traitImpl | genericType | unnamedType
deriving DecidableEq, Repr

def Refusal.message : Refusal → String
  | asyncMethod => "async methods cannot be proxied"
  | genericMethod => "generic methods cannot be proxied"
  | variadicMethod => "variadic methods cannot be proxied"
  | receiver => "proxied methods must take `&self` as receiver"
  | borrowedArgument => "proxied methods must take owned arguments (use `String` instead of `&str`)"
  | implTraitArgument => "`impl Trait` arguments cannot be proxied"
  | returnType => "proxied methods must return `Result<T, E>`"
  | genericTrait => "generic traits cannot be proxied"
  | notAMethod => "#[proxy_interface] traits may only contain methods"
  | traitImpl => "#[aop_class] must be placed on an inherent impl block"
  | genericType => "generic types cannot be proxied"
  | unnamedType => "#[aop_class] requires a named type"

def plainName (name : String) : String :=
  match name.toList with
  | 'r' :: '#' :: rest => String.ofList rest
  | _ => name

/-- A method that passed all checks. A parameter without a plain name is called by its position. -/
structure ProxiedMethod where
  name : String
  parameters : List (String × TypeExpr)
  output : TypeExpr
  docs : Nat

namespace ProxiedMethod

def constant (method : ProxiedMethod) : String := Text.toUpper (plainName method.name)

end ProxiedMethod

namespace TypeExpr

/-- Only the outermost form of an argument's type is looked at. -/
def checkOwned : TypeExpr → Except Refusal Unit
  | reference _ _ _ => .error .borrowedArgument
  | implTrait _ _ => .error .implTraitArgument
  | _ => .ok ()

end TypeExpr

def Segment.name : Segment → String
  | plain name | generic name _ _ _ | callable name _ _ _ => name

def TypeExpr.lastName? : TypeExpr → Option String
  | .path _ segments | .projection _ _ _ segments => segments.getLast?.map Segment.name
  | _ => none

def TypeExpr.isResult (type : TypeExpr) : Bool :=
  type.lastName?.any fun name => "Result".toList.isSuffixOf name.toList

namespace Signature

def argumentName (index : Nat) : Pattern → String
  | .name identifier => identifier
  | .other => "__arg" ++ toString index

def ownedParameters : Nat → List (Pattern × TypeExpr) → Except Refusal (List (String × TypeExpr))
  | _, [] => .ok []
  | index, (pattern, type) :: rest => do
    type.checkOwned
    let others ← ownedParameters (index + 1) rest
    pure ((argumentName index pattern, type) :: others)

def proxied (signature : Signature) : Except Refusal ProxiedMethod := do
  if signature.isAsync then throw .asyncMethod
  if signature.isGeneric then throw .genericMethod
  if signature.isVariadic then throw .variadicMethod
  if signature.receiver ≠ .shared then throw .receiver
  let parameters ← ownedParameters 0 signature.parameters
  match signature.output with
  | none => throw .returnType
  | some output =>
    if output.isResult then pure ⟨signature.name, parameters, output, signature.docs⟩
    else throw .returnType

end Signature

/-! ### Reading signatures -/

structure SignatureText where
  name : String
  receiver : Option String := none
  parameters : List (String × String) := []
  output : Option String := none
  isAsync : Bool := false
  generics : String := ""
  conditions : Option String := none
  docs : Nat := 0

namespace Receiver

/-- Only a shared reference to the object itself, whatever its lifetime, is a shared receiver. -/
def ofTokens : List Token → Receiver
  | [.mark '&' _, .word "self"] | [.mark '&' _, .lifetime _, .word "self"] => shared
  | _ => other

def read? : Option String → Option Receiver
  | none => some absent
  | some text => (Token.readAll? text).map fun tokens => ofTokens (splitAttributes tokens).2

end Receiver

namespace Pattern

def reserved : List String := ["_", "true", "false", "const", "Self", "super", "crate"]

def ofName (identifier : String) : Pattern :=
  if reserved.contains identifier then other else name identifier

/-- A name may be marked as a reference or as mutable, and may be bound to a pattern. -/
def ofTokens : List Token → Pattern
  | [.word identifier] => ofName identifier
  | .word identifier :: .mark '@' _ :: _ => ofName identifier
  | .word "ref" :: .word "mut" :: .word identifier :: _ => name identifier
  | .word "ref" :: .word identifier :: _ | .word "mut" :: .word identifier :: _ => name identifier
  | _ => other

def read? (text : String) : Option Pattern :=
  (Token.readAll? text).map fun tokens => ofTokens (splitAttributes tokens).2

end Pattern

def startsGeneric : List Token → Bool
  | .mark '<' _ :: .mark '>' _ :: _ => false
  | .mark '<' _ :: _ => true
  | _ => false

def hasGenerics (text : String) : Option Bool := (Token.readAll? text).map startsGeneric

def readName? (text : String) : Option (String × Bool) := do
  match ← Token.readAll? text with
  | .word name :: rest => some (name, startsGeneric rest)
  | _ => none

namespace Signature

def isEllipsis (text : String) : Bool :=
  match Token.readAll? text with
  | some [.mark '.' _, .mark '.' _, .mark '.' _] => true
  | _ => false

def ofText? (text : SignatureText) : Option Signature := do
  let (name, isGeneric) ← readName? (text.name ++ text.generics)
  let receiver ← Receiver.read? text.receiver
  let fixed := text.parameters.filter (!isEllipsis ·.2)
  let parameters ← fixed.mapM fun (pattern, type) => do
    pure (← Pattern.read? pattern, ← TypeExpr.read? type)
  let output ← text.output.mapM TypeExpr.read?
  pure
    { name, isAsync := text.isAsync
      isGeneric := isGeneric || text.conditions.isSome
      isVariadic := fixed.length ≠ text.parameters.length
      receiver, parameters, output, docs := text.docs }

end Signature

end Weave.Declaration
