import Weave.Engine

/-! The log is only written. Whatever is performed on a state, the answer and everything else in the
state do not depend on what the log says by then, and the log grows at its end. -/

namespace Weave

variable [ValueTypes] {σ α : Type}

def State.relog (state : State σ) (events : Array Event) : State σ := { state with events }

/-- A change that does to any log what it does to an empty one, behind what is there. -/
def LogBlind (change : State σ → α × State σ) : Prop :=
  ∀ (state : State σ) (events : Array Event), change (state.relog events) =
    ((change (state.relog #[])).1, (change (state.relog #[])).2.relog
      (events ++ (change (state.relog #[])).2.events))

/-- A change that neither looks at the log nor writes to it is of this kind. -/
theorem logBlind_of_silent {change : State σ → α × State σ}
    (silent : ∀ state events, change (State.relog state events) =
      ((change state).1, (change state).2.relog events)) : LogBlind change := by
  intro state events
  rw [silent state events, silent state #[]]
  change _ = ((change state).1, (change state).2.relog (events ++ #[]))
  rw [Array.append_empty]

theorem logBlind_withMemory (change : σ → α × σ) :
    LogBlind fun state => State.withMemory state change := logBlind_of_silent fun _ _ => rfl

namespace Source

variable (source : Source σ)

theorem logBlind_createPooled (type : ObjectType) (maker : Maker σ) (pool : Pool) :
    LogBlind (source.createPooled type maker pool) := by
  intro state events
  let reserved := state.restock (·.setPool source.id ⟨pool.idle, pool.active + 1⟩)
  have made (log : Array Event) :
      ((state.relog log).restock (·.setPool source.id ⟨pool.idle, pool.active + 1⟩)).make type maker =
        ((reserved.make type maker).1, (reserved.make type maker).2.relog log) := rfl
  simp only [createPooled, made]
  cases reserved.make type maker with
  | mk outcome after =>
    cases outcome with
    | ok target => rfl
    | error fault =>
      simp [State.relog, State.restock]

theorem logBlind_take : LogBlind source.take := by
  obtain ⟨id, cls, kind⟩ := source
  cases kind with
  | singleton target => exact logBlind_of_silent fun _ _ => rfl
  | prototype type maker =>
    intro state events
    have made (log : Array Event) : (state.relog log).make type maker =
        ((state.make type maker).1, (state.make type maker).2.relog log) := rfl
    simp only [take, made]
    cases state.make type maker with
    | mk outcome after =>
      cases outcome with
      | ok target => rfl
      | error fault => simp [State.relog]
  | pooled type limit maker =>
    intro state events
    have same (log : Array Event) : (state.relog log).stock = state.stock := rfl
    simp only [take, same]
    cases (state.stock.pool id).idle with
    | cons target idle => simp [State.relog, State.restock]
    | nil =>
      by_cases full : limit ≤ (state.stock.pool id).active
      · simp [full, State.relog]
      · simp only [full, if_false]
        exact logBlind_createPooled _ type maker _ state events
  | swappable initial => exact logBlind_of_silent fun _ _ => rfl
  | custom static get release => exact logBlind_withMemory get

theorem logBlind_putBack (target : Target) : LogBlind (source.putBack target) := by
  obtain ⟨id, cls, kind⟩ := source
  cases kind with
  | custom static get release => exact logBlind_withMemory (release target)
  | singleton | prototype | pooled | swappable => exact logBlind_of_silent fun _ _ => rfl

theorem logBlind_swap (target : Target) : LogBlind (source.swap target) := by
  obtain ⟨id, cls, kind⟩ := source
  cases kind with
  | swappable initial =>
    intro state events
    simp only [swap]
    cases checkType cls target.type with
    | error error => simp [State.relog]
    | ok => rfl
  | singleton | prototype | pooled | custom => exact logBlind_of_silent fun _ _ => rfl

end Source

namespace Setup

variable (setup : Setup σ)

theorem logBlind_chainFor (id : SnapshotId) (method : Method) :
    LogBlind (setup.chainFor id method) := by
  intro state events
  have same (log : Array Event) : (state.relog log).cachedChain? id method =
    state.cachedChain? id method := rfl
  simp only [chainFor, same]
  cases state.cachedChain? id method with
  | some chain => simp [State.relog]
  | none => rfl

theorem logBlind_dispatch (cls : TargetClass) (target : Target) (method : Method)
    (args : Arguments) : LogBlind (cls.dispatch setup target method args) := by
  intro state events
  simp only [TargetClass.dispatch]
  cases cls.route? method with
  | none => simp [State.relog]
  | some route =>
    by_cases same : target.type = cls.type
    · simp only [same, if_true]
      exact logBlind_withMemory _ state events
    · simp [same, State.relog]

theorem logBlind_answer (query : Query σ) : LogBlind (setup.answer query) := by
  cases query with
  | swap source target => exact source.logBlind_swap target
  | emit event => exact fun _ _ => rfl
  | update | allocate | view | counts | readClock => exact logBlind_of_silent fun _ _ => rfl

theorem logBlind_perform (operation : Operation σ) : LogBlind (setup.perform operation) := by
  cases operation with
  | fetch source => exact source.logBlind_take
  | giveBack source target => exact source.logBlind_putBack target
  | findChain snapshot method => exact setup.logBlind_chainFor snapshot method
  | advise => exact logBlind_of_silent fun _ _ => rfl
  | dispatch cls target method args => exact setup.logBlind_dispatch cls target method args
  | query query => exact setup.logBlind_answer query

end Setup

/-! ### Lines left out -/

def State.showing (shown : Event → Bool) (state : State σ) : State σ :=
  state.relog (state.events.filter shown)

theorem LogBlind.showing {change : State σ → α × State σ} (blind : LogBlind change)
    {shown : Event → Bool} {first second : State σ}
    (alike : first.showing shown = second.showing shown) :
    (change first).1 = (change second).1 ∧
      (change first).2.showing shown = (change second).2.showing shown := by
  have bare : (first.showing shown).relog #[] = (second.showing shown).relog #[] := by rw [alike]
  change first.relog #[] = second.relog #[] at bare
  have lines : first.events.filter shown = second.events.filter shown :=
    congrArg State.events alike
  have onFirst := blind first first.events
  have onSecond := blind second second.events
  change change first = _ at onFirst
  change change second = _ at onSecond
  rw [onFirst, onSecond, bare]
  let after := (change (second.relog #[])).2
  refine ⟨rfl, ?_⟩
  change after.relog ((first.events ++ after.events).filter shown) =
    after.relog ((second.events ++ after.events).filter shown)
  rw [Array.filter_append Array.size_append, Array.filter_append Array.size_append, lines]

end Weave
