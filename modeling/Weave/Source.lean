import Weave.Event
import Weave.Table

/-! Target sources: where a proxy gets the object that serves a call. A source itself never
changes. What a source remembers between calls is kept apart and starts out empty, so a source that
was never used needs no entry anywhere. `σ` is the memory of the objects outside the engine. -/

namespace Weave

abbrev Maker (σ : Type) := ObjectId → σ → Except Fault Unit × σ

inductive SourceKind (σ : Type) where
  | singleton (target : Target)
  | prototype (type : ObjectType) (make : Maker σ)
  | pooled (type : ObjectType) (maxSize : Nat) (make : Maker σ)
  | swappable (initial : Target)
  | custom (isStatic : Bool) (get : σ → Except Fault Target × σ)
      (release : Target → σ → Except Fault Unit × σ)

structure Source (σ : Type) where
  id : SourceId
  cls : TargetClass
  kind : SourceKind σ

namespace Source

variable {σ : Type}

/-- A static source always gives the same target, and nothing is ever given back to it. -/
def isStatic (source : Source σ) : Bool :=
  match source.kind with
  | .singleton _ => true
  | .custom isStatic _ _ => isStatic
  | _ => false

def checkType (cls : TargetClass) (type : ObjectType) : Except ConfigError Unit :=
  if cls.type = type then .ok () else .error (.targetTypeMismatch cls.name)

theorem checkType_ok {cls : TargetClass} {type : ObjectType} {passed : Unit}
    (checked : checkType cls type = .ok passed) : type = cls.type := by
  unfold checkType at checked
  split at checked
  · exact Eq.symm ‹_›
  · contradiction

def singleton (id : SourceId) (cls : TargetClass) (target : Target) :
    Except ConfigError (Source σ) :=
  (checkType cls target.type).map fun _ => ⟨id, cls, .singleton target⟩

def prototype (id : SourceId) (cls : TargetClass) (type : ObjectType) (make : Maker σ) :
    Except ConfigError (Source σ) :=
  (checkType cls type).map fun _ => ⟨id, cls, .prototype type make⟩

def pooled (id : SourceId) (cls : TargetClass) (type : ObjectType) (maxSize : Nat)
    (make : Maker σ) : Except ConfigError (Source σ) :=
  (checkType cls type).map fun _ => ⟨id, cls, .pooled type maxSize make⟩

def swappable (id : SourceId) (cls : TargetClass) (initial : Target) :
    Except ConfigError (Source σ) :=
  (checkType cls initial.type).map fun _ => ⟨id, cls, .swappable initial⟩

end Source

/-- A pool's idle targets, the last returned first, and the number of targets on loan. -/
structure Pool where
  idle : List Target := []
  active : Nat := 0
deriving DecidableEq, Repr

/-- What all sources remember: how many targets their makers have made, pools, and targets that
were swapped in. -/
structure Stock where
  created : Table SourceId Nat := {}
  pools : Table SourceId Pool := {}
  current : Table SourceId Target := {}

namespace Stock

def createdBy (stock : Stock) (id : SourceId) : Nat := stock.created.getD id 0

def pool (stock : Stock) (id : SourceId) : Pool := stock.pools.getD id {}

def currentOf (stock : Stock) (id : SourceId) (initial : Target) : Target :=
  stock.current.getD id initial

def countCreated (stock : Stock) (id : SourceId) : Stock :=
  { stock with created := stock.created.insert id (stock.createdBy id + 1) }

def setPool (stock : Stock) (id : SourceId) (pool : Pool) : Stock :=
  { stock with pools := stock.pools.insert id pool }

def setCurrent (stock : Stock) (id : SourceId) (target : Target) : Stock :=
  { stock with current := stock.current.insert id target }

section
variable (stock : Stock) (id other : SourceId)

@[simp] theorem pool_setPool (pool : Pool) :
    (stock.setPool id pool).pool other = if other = id then pool else stock.pool other :=
  Table.getD_insert _ _ _ _ _

@[simp] theorem pool_countCreated : (stock.countCreated id).pool other = stock.pool other := rfl

@[simp] theorem pool_setCurrent (target : Target) :
    (stock.setCurrent id target).pool other = stock.pool other := rfl

@[simp] theorem createdBy_setPool (pool : Pool) :
    (stock.setPool id pool).createdBy other = stock.createdBy other := rfl

@[simp] theorem createdBy_countCreated : (stock.countCreated id).createdBy other =
    if other = id then stock.createdBy id + 1 else stock.createdBy other :=
  Table.getD_insert _ _ _ _ _

@[simp] theorem createdBy_setCurrent (target : Target) :
    (stock.setCurrent id target).createdBy other = stock.createdBy other := rfl

@[simp] theorem currentOf_setCurrent (target initial : Target) :
    (stock.setCurrent id target).currentOf other initial =
      if other = id then target else stock.currentOf other initial :=
  Table.getD_insert _ _ _ _ _

end

end Stock

inductive Counts where
  | nothing
  | created (count : Nat)
  | pooled (active idle maxSize : Nat)
  | current (target : Target)
deriving DecidableEq, Repr

def Source.counts {σ : Type} (source : Source σ) (stock : Stock) : Counts :=
  match source.kind with
  | .prototype _ _ => .created (stock.createdBy source.id)
  | .pooled _ maxSize _ =>
    let pool := stock.pool source.id
    .pooled pool.active pool.idle.length maxSize
  | .swappable initial => .current (stock.currentOf source.id initial)
  | _ => .nothing

end Weave
