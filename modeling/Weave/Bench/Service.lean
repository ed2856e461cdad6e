import Weave.BasicTypes
import Weave.Completion
import Weave.Registry

/-! Workbench: sample services. There are a greeter and an older interface of the same name, bank
accounts, a vault that may not be subclassed, and a catalogue whose method is called after a
reserved word. -/

namespace Weave.Bench

structure ServiceMethod where
  method : Method
  parameters : List ValueType
  result : ValueType
  errors : ErrorType

def sampleModule : String := "driver::fixtures"

def legacyModule : String := sampleModule ++ "::legacy"

namespace App

def family : String := "AppError"

def rejected (reason : String) : ServiceError := ⟨family, "Rejected", "rejected: " ++ reason, none⟩

def code (code : Int) : ServiceError := ⟨family, "Code", "code " ++ toString code, none⟩

def nested (maxSize : Nat) : ServiceError :=
  ⟨family, "Nested", "nested failure", some (.poolExhausted maxSize)⟩

end App

namespace Greeter

def family : String := "GreetError"

def empty : ServiceError := ⟨family, "Empty", "nobody to greet", none⟩

def rejected (reason : String) : ServiceError :=
  ⟨family, "Rejected", "greeting rejected: " ++ reason, none⟩

def greet : ServiceMethod :=
  ⟨⟨sampleModule, "Greeter", "greet", ["String"], "Result<String, GreetError>"⟩, [.string], .string,
    .family family⟩

def farewell : ServiceMethod :=
  ⟨⟨sampleModule, "Greeter", "farewell", ["String", "u32"], "Result<String, GreetError>"⟩,
    [.string, .u32], .string, .family family⟩

def interface : Interface := ⟨sampleModule, "Greeter", [greet.method, farewell.method]⟩

def farewellLimit : UInt32 := 9

def greeting (name : String) : Except ServiceError String :=
  if name.isEmpty then .error empty else .ok ("Hello, " ++ name ++ "!")

def goodbye (name : String) (times : UInt32) : Except ServiceError String :=
  if times > farewellLimit then .error (rejected (toString times ++ " times"))
  else .ok (" ".intercalate (List.replicate times.toNat "Bye") ++ ", " ++ name)

end Greeter

namespace LegacyGreeter

def greet : ServiceMethod :=
  { Greeter.greet with method := { Greeter.greet.method with module := legacyModule } }

def interface : Interface := ⟨legacyModule, "Greeter", [greet.method]⟩

end LegacyGreeter

namespace Bank

def family : String := "BankError"

def insufficientFunds (balance requested : UInt64) : ServiceError :=
  ⟨family, "InsufficientFunds",
    "insufficient funds: balance " ++ toString balance ++ ", requested " ++
      toString requested, none⟩

def auditId : ServiceMethod :=
  ⟨⟨sampleModule, "Auditable", "audit_id", [], "Result<String, BankError>"⟩, [], .string,
    .family family⟩

def auditable : Interface := ⟨sampleModule, "Auditable", [auditId.method]⟩

def withdraw : ServiceMethod :=
  ⟨⟨sampleModule, "AccountService", "withdraw", ["u64"], "Result<u64, BankError>"⟩, [.u64], .u64,
    .family family⟩

def balance : ServiceMethod :=
  ⟨⟨sampleModule, "AccountService", "balance", [], "Result<u64, BankError>"⟩, [], .u64,
    .family family⟩

def account : ClassDescriptor := ⟨"AccountService", [withdraw.method, balance.method], false⟩

def openVault : ServiceMethod :=
  ⟨⟨sampleModule, "VaultService", "open", [], "Result<bool, BankError>"⟩, [], .bool, .family family⟩

def vault : ClassDescriptor := ⟨"VaultService", [openVault.method], true⟩

def withdrawal (balance amount : UInt64) : Except ServiceError UInt64 :=
  if amount > balance then .error (insufficientFunds balance amount) else .ok (balance - amount)

end Bank

namespace Catalog

def tagsOfType : ServiceMethod :=
  ⟨⟨sampleModule, "Catalog", "type", ["Vec<String>", "u32"], "anyhow::Result<Vec<String>>"⟩,
    [.strings, .u32], .strings, .any⟩

def interface : Interface := ⟨sampleModule, "Catalog", [tagsOfType.method]⟩

def selection (tags : List String) (limit : UInt32) : Except Fault (List String) :=
  if tags.isEmpty then .error ((Fault.text "no tags").withContext "catalog lookup")
  else .ok (tags.take limit.toNat)

end Catalog

/-! ### Types and classes -/

def politeGreeterType : ObjectType := ⟨"driver::fixtures::PoliteGreeter"⟩

def accountType : ObjectType := ⟨"driver::fixtures::AccountService"⟩

def vaultType : ObjectType := ⟨"driver::fixtures::VaultService"⟩

def shelfType : ObjectType := ⟨"driver::fixtures::Shelf"⟩

def stringType : ObjectType := ⟨"alloc::string::String"⟩

def scriptedTypes : List ObjectType :=
  [⟨"Alpha"⟩, ⟨"Beta"⟩, ⟨"Gamma"⟩, ⟨"Holder<alloc::string::String>"⟩]

def alphaType : ObjectType := ⟨"Alpha"⟩

def objectTypes : List ObjectType :=
  scriptedTypes ++ [politeGreeterType, accountType, vaultType, shelfType, stringType]

def objectType? (name : String) : Option ObjectType := objectTypes.find? (·.shortName == name)

def politeGreeterClass : TargetClass :=
  (TargetClass.ofType politeGreeterType).implementing Greeter.interface

def accountClass : TargetClass :=
  (TargetClass.ofClass accountType Bank.account).implementing Bank.auditable

def vaultClass : TargetClass :=
  (TargetClass.ofClass vaultType Bank.vault).implementing Bank.auditable

def shelfClass : TargetClass := (TargetClass.ofType shelfType).implementing Catalog.interface

def sampleClass? (name : String) : Option TargetClass :=
  [politeGreeterClass, accountClass, vaultClass, shelfClass].find? (·.name == name)

def registrations : List Registration :=
  [⟨"vault-registration", vaultClass⟩, ⟨"PoliteGreeter", politeGreeterClass⟩]

/-! ### Views -/

inductive View where
  | interface (interface : Interface) (methods : List ServiceMethod)
  | cls (type : ObjectType) (descriptor : ClassDescriptor) (methods : List ServiceMethod)

namespace View

def methods : View → List ServiceMethod
  | interface _ methods | cls _ _ methods => methods

def named : List (String × View) :=
  [("Greeter", interface Greeter.interface [Greeter.greet, Greeter.farewell]),
    ("legacy.Greeter", interface LegacyGreeter.interface [LegacyGreeter.greet]),
    ("Auditable", interface Bank.auditable [Bank.auditId]),
    ("Catalog", interface Catalog.interface [Catalog.tagsOfType]),
    ("AccountService", cls accountType Bank.account [Bank.withdraw, Bank.balance]),
    ("VaultService", cls vaultType Bank.vault [Bank.openVault])]

def find? (name : String) : Option View := named.lookup name

def method? (view : View) (name : String) : Option ServiceMethod :=
  view.methods.find? (·.method.name == name)

end View

def sampleMethod? (view name : String) : Option ServiceMethod :=
  (View.find? view).bind (·.method? name)

end Weave.Bench
