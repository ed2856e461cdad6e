import Weave.Bench.Service
import Weave.Interceptors
import Weave.Bean

/-! Workbench: the memory of a scenario, which holds objects, how often their methods were called,
and a journal of what advice and targets did. Scripted objects react to calls as their script says
and write each call into the journal; the objects of sample services run their service. -/

namespace Weave.Bench

inductive Reaction where
  | give (value : Value)
  | fail (fault : Fault)
  | echo (type : ValueType) (index : Nat)
  | add (amount : Int32)
  | join
  | countCalls
  | number
  | flaky (failures : Nat) (fault : Fault) (value : Value)
  | unknown

inductive Body where
  | scripted (number : UInt64) (reactions : List (String × Reaction))
  | account (balance : UInt64)
  | text (content : String)
  | stateless

/-- What an object is made of, and at which attempts its making fails. -/
structure ObjectPlan where
  type : ObjectType
  body : Body
  failOn : List Nat := []

namespace ObjectPlan

def shifted (plan : ObjectPlan) (attempt : Nat) : Body :=
  match plan.body with
  | .scripted number reactions => .scripted (number + attempt.toUInt64) reactions
  | .account balance => .account (balance + attempt.toUInt64)
  | body => body

end ObjectPlan

inductive Description where
  | scripted (typeName : String) (number : UInt64)
  | account (balance : UInt64)
  | text (content : String)
  | proxied (view : ProxyView)
  | stateless (typeName : String)
deriving DecidableEq, Repr

inductive SourceCounts where
  | engine (counts : Counts) (current : Option Description)
  | releases (count : Nat)

structure JoinPointNote where
  point : JoinPoint
  target : Description

inductive Note where
  | text (text : String)
  | simple (kind : AdviceType) (signature : String) (args : Arguments) (outcome : Option Outcome)
      (detail : Option JoinPointNote)
  | arguments (args : Arguments)
  | argumentSet (success : Bool)
  | argumentAdded (success : Bool)
  | entered
  | exited (outcome : Outcome)
  | exposedProxy (view : Option ProxyView)
  | reentered (outcome : Outcome)
  | noProxy
  | swapped (old : Except ConfigError Description)
  | noSource (step name : String)
  | counted (counts : SourceCounts)
  | inspected (view : InvocationView) (target : Description)
  | joinPoint (shown : JoinPointNote)
  | processed (after : Bool) (bean : String) (shown : Description)

inductive Entry where
  | called (number : UInt64) (via : EntryPoint) (method : String)
  | note (label : String) (note : Note)

/-- Where a source of a script gets its objects: one object, or what a plan makes. -/
inductive Supply where
  | singleton (target : Target)
  | prototype (plan : ObjectPlan)
  | pooled (maxSize : Nat) (plan : ObjectPlan)
  | swappable (initial : Target)
  | broken (target : Target)

/-- A source as a script made it, from which it can be opened at any time. -/
structure SourceRecord where
  id : SourceId
  cls : TargetClass
  supply : Supply

/-- `sources` holds the sources under the names by which scripts know them. -/
structure Memory where
  objects : Table ObjectId Body := {}
  calls : Table (ObjectId × String) Nat := {}
  journal : Array Entry := #[]
  depth : Nat := 0
  attempts : Table SourceId Nat := {}
  releases : Table SourceId Nat := {}
  sources : Table String SourceRecord := {}

namespace Memory

def write (memory : Memory) (entry : Entry) : Memory :=
  { memory with journal := memory.journal.push entry }

def place (memory : Memory) (id : ObjectId) (body : Body) : Memory :=
  { memory with objects := memory.objects.insert id body }

def bodyOf (memory : Memory) (target : Target) : Body := memory.objects.getD target.id .stateless

def describe (memory : Memory) (target : Target) : Description :=
  match memory.bodyOf target with
  | .scripted number _ => .scripted target.type.shortName number
  | .account balance => .account balance
  | .text content => .text content
  | .stateless => .stateless target.type.shortName

def countCall (memory : Memory) (target : Target) (method : String) : Nat × Memory :=
  let count := memory.calls.getD (target.id, method) 0 + 1
  (count, { memory with calls := memory.calls.insert (target.id, method) count })

end Memory

/-- The families whose errors are told apart, in the order in which they are looked for. -/
def errorFamilies : List String :=
  [ContainerError.familyName, App.family, Greeter.family, Bank.family]

def unknownMethod (method : Method) (typeName : String) : Fault :=
  .invocation (.unknownMethod method.signature typeName)

namespace Reaction

def argument (method : Method) (args : Arguments) (type : ValueType) (index : Nat) :
    Except Fault type.Carrier :=
  match args.fetch method type index with
  | .ok content => .ok content
  | .error error => .error (.invocation error)

def outcome (number : UInt64) (count : Nat) (method : Method) (args : Arguments) :
    Reaction → Outcome
  | give value => .ok value
  | fail fault => .error fault
  | echo type index => (argument method args type index).map fun content => ⟨type, content⟩
  | add amount => (argument method args .i32 0).map fun (content : Int32) => ⟨.i32, content + amount⟩
  | join => do
    let first : String ← argument method args .string 0
    let second : String ← argument method args .string 1
    pure ⟨.string, first ++ second⟩
  | countCalls => .ok ⟨.u64, count.toUInt64⟩
  | Reaction.number => .ok ⟨.u64, number⟩
  | flaky failures fault value => if count ≤ failures then .error fault else .ok value
  | unknown => .error (unknownMethod method "ScriptedTarget")

end Reaction

def liftService {α : Type} : Except ServiceError α → Except Fault α
  | .ok result => .ok result
  | .error error => .error (.service error)

def runService (type : ObjectType) (entry : EntryPoint) (method : Method) (args : Arguments) :
    Outcome :=
  if type = politeGreeterType && method = Greeter.greet.method then do
    let name ← Reaction.argument method args .string 0
    liftService (Greeter.greeting name) |>.map (⟨.string, ·⟩)
  else if type = politeGreeterType && method = Greeter.farewell.method then do
    let name ← Reaction.argument method args .string 0
    let times ← Reaction.argument method args .u32 1
    liftService (Greeter.goodbye name times) |>.map (⟨.string, ·⟩)
  else if type = shelfType && method = Catalog.tagsOfType.method then do
    let tags ← Reaction.argument method args .strings 0
    let limit ← Reaction.argument method args .u32 1
    (Catalog.selection tags limit).map (⟨.strings, ·⟩)
  else if type = vaultType && entry = .classMethods && method = Bank.openVault.method then
    .ok ⟨.bool, true⟩
  else if type = vaultType && entry ≠ .classMethods && method = Bank.auditId.method then
    .ok ⟨.string, "vault"⟩
  else .error (unknownMethod method type.shortName)

def runAccount (balance : UInt64) (entry : EntryPoint) (method : Method) (args : Arguments) :
    Outcome × UInt64 :=
  if entry = .classMethods && method = Bank.withdraw.method then
    match Reaction.argument method args .u64 0 with
    | .error fault => (.error fault, balance)
    | .ok amount =>
      match Bank.withdrawal balance amount with
      | .ok left => (.ok ⟨.u64, left⟩, left)
      | .error error => (.error (.service error), balance)
  else if entry = .classMethods && method = Bank.balance.method then (.ok ⟨.u64, balance⟩, balance)
  else if entry ≠ .classMethods && method = Bank.auditId.method then
    (.ok ⟨.string, "account-1"⟩, balance)
  else (.error (unknownMethod method accountType.shortName), balance)

def defaultReaction (method : Method) : Reaction := .give ⟨.string, method.name⟩

def entryCode (entry : EntryPoint) (target : Target) (method : Method) (args : Arguments)
    (memory : Memory) : Outcome × Memory :=
  match memory.bodyOf target with
  | .scripted number reactions =>
    let (count, memory) :=
      (memory.write (.called number entry method.name)).countCall target method.name
    let reaction := (reactions.lookup method.name).getD (defaultReaction method)
    (reaction.outcome number count method args, memory)
  | .account balance =>
    let (outcome, balance) := runAccount balance entry method args
    (outcome, memory.place target.id (.account balance))
  | .text _ => (.error (unknownMethod method stringType.shortName), memory)
  | .stateless => (runService target.type entry method args, memory)

/-! ### Making objects -/

def maker (source : SourceId) (plan : ObjectPlan) : Maker Memory := fun id memory =>
  let attempt := memory.attempts.getD source 0
  let memory := { memory with attempts := memory.attempts.insert source (attempt + 1) }
  if plan.failOn.contains attempt then
    (.error (.text ("cannot build target " ++ toString attempt)), memory)
  else (.ok (), memory.place id (plan.shifted attempt))

def brokenSource (source : SourceId) (cls : TargetClass) (target : Target) : Source Memory :=
  ⟨source, cls, .custom false (fun memory => (.ok target, memory)) fun _ memory =>
    (.error ((Fault.text "pool is closed").withContext "release failed"),
      { memory with
        releases := memory.releases.insert source (memory.releases.getD source 0 + 1) })⟩

def SourceRecord.open (record : SourceRecord) : Except ConfigError (Source Memory) :=
  match record.supply with
  | .singleton target => Source.singleton record.id record.cls target
  | .prototype plan => Source.prototype record.id record.cls plan.type (maker record.id plan)
  | .pooled maxSize plan =>
    Source.pooled record.id record.cls plan.type maxSize (maker record.id plan)
  | .swappable initial => Source.swappable record.id record.cls initial
  | .broken target => .ok (brokenSource record.id record.cls target)

def Memory.source? (memory : Memory) (name : String) : Option (Source Memory) :=
  (memory.sources.find? name).bind (·.open.toOption)

def sourceCounts (source : Source Memory) (counts : Counts) (memory : Memory) : SourceCounts :=
  match source.kind, counts with
  | .custom _ _ _, _ => .releases (memory.releases.getD source.id 0)
  | _, .current target => .engine counts (some (memory.describe target))
  | _, _ => .engine counts none

end Weave.Bench
