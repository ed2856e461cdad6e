import Weave.Advisor

/-! The state that calls change: the memory of the objects, what sources and snapshots remember,
and the events so far. A chain is remembered per snapshot and method; nothing is remembered at
first. -/

namespace Weave

variable [ValueTypes] {σ : Type}

/-- What never changes while calls run: the code behind entry points, and the snapshots. -/
structure Setup (σ : Type) where
  entryCode : EntryPoint → Target → Method → Arguments → σ → Outcome × σ
  snapshots : SnapshotId → Snapshot σ

structure State (σ : Type) where
  memory : σ
  clock : Nat := 0
  allocated : Nat := 0
  stock : Stock := {}
  chains : Table SnapshotId (Table Method (Chain σ)) := {}
  events : Array Event := #[]

namespace State

def emit (state : State σ) (event : Event) : State σ :=
  { state with events := state.events.push event }

def restock (state : State σ) (change : Stock → Stock) : State σ :=
  { state with stock := change state.stock }

def allocate (state : State σ) : ObjectId × State σ :=
  (state.allocated, { state with allocated := state.allocated + 1 })

def withMemory {α : Type} (state : State σ) (change : σ → α × σ) : α × State σ :=
  let (result, memory) := change state.memory
  (result, { state with memory })

def make (state : State σ) (type : ObjectType) (maker : Maker σ) : Except Fault Target × State σ :=
  let (id, state) := state.allocate
  let (made, state) := state.withMemory (maker id)
  (made.map fun _ => ⟨id, type⟩, state)

theorem make_type {state : State σ} {type : ObjectType} {maker : Maker σ} {target : Target}
    (made : (state.make type maker).1 = .ok target) : target.type = type := by
  change (maker state.allocated state.memory).1.map (fun _ => Target.mk state.allocated type) =
    .ok target at made
  cases outcome : (maker state.allocated state.memory).1 with
  | ok =>
    rw [outcome] at made
    exact (congrArg Target.type (Except.ok.inj made)).symm
  | error fault =>
    rw [outcome] at made
    contradiction

def cachedChains (state : State σ) (id : SnapshotId) : Table Method (Chain σ) :=
  state.chains.getD id {}

def cachedChain? (state : State σ) (id : SnapshotId) (method : Method) : Option (Chain σ) :=
  (state.cachedChains id).find? method

end State

/-- The chain of a method: the remembered one, or the resolved one, which is then remembered. -/
def Setup.chainFor (setup : Setup σ) (id : SnapshotId) (method : Method) (state : State σ) :
    Chain σ × State σ :=
  match state.cachedChain? id method with
  | some chain => (chain, state)
  | none =>
    let snapshot := setup.snapshots id
    let chain := snapshot.resolve method
    let state := state.emit (.chainResolved chain.length method snapshot.cls.name)
    let known := (state.cachedChains id).insert method chain
    (chain, { state with chains := state.chains.insert id known })

theorem Setup.chainFor_frame (setup : Setup σ) (id : SnapshotId) (method : Method)
    (state : State σ) :
    ∃ chains events, (setup.chainFor id method state).2 = { state with chains, events } := by
  unfold chainFor
  split
  · exact ⟨_, _, rfl⟩
  · exact ⟨_, _, rfl⟩

namespace Source

/-- Creates a target for a pool: its place is taken before the maker runs and given back if the
maker fails. -/
def createPooled (source : Source σ) (type : ObjectType) (maker : Maker σ) (pool : Pool)
    (state : State σ) : Except Fault Target × State σ :=
  let reserved := state.restock (·.setPool source.id ⟨pool.idle, pool.active + 1⟩)
  match reserved.make type maker with
  | (.ok target, state) =>
    (.ok target, (state.restock (·.countCreated source.id)).emit (.pooledCreated source.cls.name))
  | (.error fault, state) =>
    let pool := state.stock.pool source.id
    (.error fault, state.restock (·.setPool source.id ⟨pool.idle, pool.active - 1⟩))

/-- The target for one call. A pool lends an idle target, the last returned first, before it
creates another, and refuses when its limit is on loan. -/
def take (source : Source σ) (state : State σ) : Except Fault Target × State σ :=
  match source.kind with
  | .singleton target => (.ok target, state)
  | .prototype type maker =>
    match state.make type maker with
    | (.ok target, state) =>
      (.ok target,
        (state.restock (·.countCreated source.id)).emit (.prototypeCreated source.cls.name))
    | (.error fault, state) => (.error fault, state)
  | .pooled type maxSize maker =>
    let pool := state.stock.pool source.id
    match pool.idle with
    | target :: idle => (.ok target, state.restock (·.setPool source.id ⟨idle, pool.active + 1⟩))
    | [] =>
      if maxSize ≤ pool.active then (.error (.invocation (.poolExhausted maxSize)), state)
      else source.createPooled type maker pool state
  | .swappable initial => (.ok (state.stock.currentOf source.id initial), state)
  | .custom _ get _ => state.withMemory get

/-- Fetching a target leaves alone which targets are swapped in, what is remembered of chains, and the
clock. -/
theorem take_frame (source : Source σ) (state : State σ) :
    ∃ memory allocated created pools events, (source.take state).2 =
      { state with memory, allocated, events, stock := { state.stock with created, pools } } := by
  obtain ⟨id, cls, kind⟩ := source
  have made {type : ObjectType} {maker : Maker σ} {before after : State σ}
      {outcome : Except Fault Target} (making : before.make type maker = (outcome, after)) :
      ∃ memory allocated, after = { before with memory, allocated } :=
    ⟨_, _, (congrArg Prod.snd making).symm⟩
  cases kind with
  | singleton | swappable | custom => exact ⟨_, _, _, _, _, rfl⟩
  | prototype type maker =>
    simp only [take]
    split
    all_goals
      rename_i making
      obtain ⟨memory, allocated, rfl⟩ := made making
      exact ⟨_, _, _, _, _, rfl⟩
  | pooled type limit maker =>
    simp only [take, createPooled]
    split
    · exact ⟨_, _, _, _, _, rfl⟩
    · split
      · exact ⟨_, _, _, _, _, rfl⟩
      · split
        all_goals
          rename_i making
          obtain ⟨memory, allocated, rfl⟩ := made making
          exact ⟨_, _, _, _, _, rfl⟩

/-- Gives a target back. Only a pool and custom sources take notice. -/
def putBack (source : Source σ) (target : Target) (state : State σ) :
    Except Fault Unit × State σ :=
  match source.kind with
  | .pooled _ _ _ =>
    let pool := state.stock.pool source.id
    (.ok (), state.restock (·.setPool source.id ⟨target :: pool.idle, pool.active - 1⟩))
  | .custom _ _ release => state.withMemory (release target)
  | _ => (.ok (), state)

/-- Replaces the target of later calls and gives the one before. Objects of another type are
refused, and only a swappable source takes any. -/
def swap (source : Source σ) (target : Target) (state : State σ) :
    Except ConfigError Target × State σ :=
  match source.kind with
  | .swappable initial =>
    match checkType source.cls target.type with
    | .error error => (.error error, state)
    | .ok _ =>
      (.ok (state.stock.currentOf source.id initial),
        (state.restock (·.setCurrent source.id target)).emit (.swapped source.cls.name))
  | _ => (.error (.targetTypeMismatch source.cls.name), state)

end Source

end Weave
