import Weave.Declaration.Signature

/-! The proxies that are declared along with an interface or a class: a constant and a forwarding
method for each proxied method. An interface must consist of methods that can be proxied; a class
leaves out what cannot be. -/

namespace Weave.Declaration

structure MethodConstant where
  constant : String
  declaringType : String
  name : String
  parameterTypes : List String
  returnType : String
deriving DecidableEq, Repr

structure Forwarder where
  name : String
  arguments : List String
  docs : Nat
  isPublic : Bool
deriving DecidableEq, Repr

structure ProxyDeclaration where
  name : String
  constants : List MethodConstant
  forwarders : List Forwarder
  isSealed : Option Bool := none
deriving DecidableEq, Repr

def ProxyDeclaration.order (proxy : ProxyDeclaration) : List String :=
  proxy.constants.map (·.constant)

namespace ProxiedMethod

def methodConstant (declaringType : String) (method : ProxiedMethod) : MethodConstant where
  constant := method.constant
  declaringType := declaringType
  name := plainName method.name
  parameterTypes := method.parameters.map (·.2.name)
  returnType := method.output.name

def forwarder (isPublic : Bool) (method : ProxiedMethod) : Forwarder where
  name := method.name
  arguments := method.parameters.map (·.1)
  docs := method.docs
  isPublic := isPublic

end ProxiedMethod

def ProxyDeclaration.ofMethods (typeName : String) (isPublic : Bool) (isSealed : Option Bool)
    (methods : List ProxiedMethod) : ProxyDeclaration where
  name := plainName typeName ++ "Proxy"
  constants := methods.map (·.methodConstant typeName)
  forwarders := methods.map (·.forwarder isPublic)
  isSealed := isSealed

/-- An item of an interface or a class; only methods matter. -/
inductive Item where
  | method (signature : Signature)
  | other

structure InterfaceDeclaration where
  name : String
  isGeneric : Bool := false
  items : List Item

namespace InterfaceDeclaration

def proxiedItem : Item → Except Refusal ProxiedMethod
  | .method signature => signature.proxied
  | .other => .error .notAMethod

def proxy (interface : InterfaceDeclaration) : Except Refusal ProxyDeclaration := do
  if interface.isGeneric then throw .genericTrait
  let methods ← interface.items.mapM proxiedItem
  pure (.ofMethods interface.name false none methods)

end InterfaceDeclaration

structure ClassDeclaration where
  self : TypeExpr
  ofTrait : Bool := false
  isGeneric : Bool := false
  isSealed : Bool := false
  items : List (Bool × Item)

namespace ClassDeclaration

def typeName : TypeExpr → Except Refusal String
  | .path _ segments =>
    match segments.getLast? with
    | some (.plain name) | some (.generic name _ [] _) => .ok name
    | _ => .error .genericType
  | _ => .error .unnamedType

def proxiedItem? : Bool × Item → Option ProxiedMethod
  | (true, .method signature) => signature.proxied.toOption
  | _ => none

def proxy (cls : ClassDeclaration) : Except Refusal ProxyDeclaration := do
  if cls.ofTrait then throw .traitImpl
  if cls.isGeneric then throw .genericType
  let name ← typeName cls.self
  pure (.ofMethods name true (some cls.isSealed) (cls.items.filterMap proxiedItem?))

end ClassDeclaration

/-! ### Reading declarations -/

/-- What stands in front of a method: attributes, how far it is visible, and further words. -/
structure Preface where
  docs : Nat := 0
  isPublic : Bool := false
  isAsync : Bool := false
deriving DecidableEq, Repr

namespace Preface

/-- Only a method that is visible everywhere is public. -/
def ofTokens (tokens : List Token) : Preface :=
  let (attributes, words) := splitAttributes tokens
  { docs := attributes.countP Token.isDoc
    isPublic :=
      match words with
      | .word "pub" :: .group .round _ :: _ => false
      | .word "pub" :: _ => true
      | _ => false
    isAsync := words.any (Reader.isWord "async") }

def apply (preface : Preface) (signature : Signature) : Signature :=
  { signature with
    docs := preface.docs + signature.docs, isAsync := preface.isAsync || signature.isAsync }

end Preface

inductive ItemText where
  | method (preface : String) (signature : SignatureText)
  | other

namespace ItemText

def read? : ItemText → Option (Bool × Item)
  | method preface signature => do
    let preface := Preface.ofTokens (← Token.readAll? preface)
    pure (preface.isPublic, .method (preface.apply (← Signature.ofText? signature)))
  | other => some (false, .other)

end ItemText

def InterfaceDeclaration.read? (name generics : String) (items : List ItemText) :
    Option InterfaceDeclaration := do
  let (name, isGeneric) ← readName? (name ++ generics)
  let items ← items.mapM ItemText.read?
  pure { name, isGeneric, items := items.map (·.2) }

def ClassDeclaration.read? (self : String) (ofTrait : Bool) (generics : String) (isSealed : Bool)
    (items : List ItemText) : Option ClassDeclaration := do
  let isGeneric ← hasGenerics generics
  let self ← TypeExpr.read? self
  let items ← items.mapM ItemText.read?
  pure { self, ofTrait, isGeneric, isSealed, items }

end Weave.Declaration
