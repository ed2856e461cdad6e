import Weave.Proofs.PoolLoans

/-! Targets of the right type. A source of any of the usual kinds is checked once, when it is made,
and once more when a target is swapped in. That is enough: whatever is lent, given back or swapped
in the meantime, every target that the source supplies is of the type of its class. -/

namespace Weave

variable {σ : Type}

/-- Sources of the usual kinds, as they are made. -/
inductive Source.BuiltIn : Source σ → Prop
  | singleton {id : SourceId} {cls : TargetClass} {target : Target} {source : Source σ}
      (made : Source.singleton id cls target = .ok source) : BuiltIn source
  | prototype {id : SourceId} {cls : TargetClass} {type : ObjectType} {maker : Maker σ}
      {source : Source σ} (made : Source.prototype id cls type maker = .ok source) : BuiltIn source
  | pooled {id : SourceId} {cls : TargetClass} {type : ObjectType} {limit : Nat} {maker : Maker σ}
      {source : Source σ} (made : Source.pooled id cls type limit maker = .ok source) :
      BuiltIn source
  | swappable {id : SourceId} {cls : TargetClass} {initial : Target} {source : Source σ}
      (made : Source.swappable id cls initial = .ok source) : BuiltIn source

/-- What a source was made to supply is of the type of its class. -/
def Source.Fits (source : Source σ) : Prop :=
  match source.kind with
  | .singleton target | .swappable target => target.type = source.cls.type
  | .prototype type _ | .pooled type _ _ => type = source.cls.type
  | .custom _ _ _ => False

theorem made_fits {cls : TargetClass} {type : ObjectType} {make : Unit → Source σ}
    {source : Source σ} (made : (Source.checkType cls type).map make = .ok source) :
    type = cls.type ∧ make () = source := by
  cases checked : Source.checkType cls type with
  | error error =>
    rw [checked] at made
    contradiction
  | ok =>
    rw [checked] at made
    exact ⟨Source.checkType_ok checked, Except.ok.inj made⟩

theorem Source.BuiltIn.fits {source : Source σ} (builtIn : source.BuiltIn) : source.Fits := by
  cases builtIn with
  | singleton made | prototype made | pooled made | swappable made =>
    obtain ⟨fits, rfl⟩ := made_fits made
    exact fits

theorem Source.Fits.static {source : Source σ} (fits : source.Fits)
    (static : source.isStatic = true) :
    ∃ target, source.kind = .singleton target ∧ target.type = source.cls.type := by
  cases kind : source.kind with
  | singleton target =>
    rw [Source.Fits, kind] at fits
    exact ⟨target, rfl, fits⟩
  | custom =>
    rw [Source.Fits, kind] at fits
    exact fits.elim
  | prototype | pooled | swappable =>
    rw [Source.isStatic, kind] at static
    contradiction

variable [ValueTypes]

/-- All that a source has at hand or on loan is of the type of its class. -/
structure Source.Keeps (source : Source σ) (loans : List Target) (stock : Stock) : Prop where
  lent : ∀ target ∈ loans, target.type = source.cls.type
  idle : ∀ target ∈ (stock.pool source.id).idle, target.type = source.cls.type
  current : ∀ target, stock.current.find? source.id = some target → target.type = source.cls.type

/-! ### Swapped targets -/

theorem take_current (source : Source σ) (state : State σ) :
    (source.take state).2.stock.current = state.stock.current := by
  obtain ⟨_, _, _, _, _, fetched⟩ := source.take_frame state
  exact congrArg (·.stock.current) fetched

theorem putBack_current (source : Source σ) (target : Target) (state : State σ) :
    (source.putBack target state).2.stock.current = state.stock.current := by
  obtain ⟨id, cls, kind⟩ := source
  cases kind <;> rfl

theorem perform_current (setup : Setup σ) (operation : Operation σ) (state : State σ)
    (other : ∀ source target, operation ≠ .query (.swap source target)) :
    (setup.perform operation state).2.stock.current = state.stock.current := by
  cases operation with
  | fetch source => exact take_current source state
  | giveBack source target => exact putBack_current source target state
  | findChain snapshot method =>
    obtain ⟨_, _, found⟩ := setup.chainFor_frame snapshot method state
    exact congrArg (·.stock.current) found
  | advise => rfl
  | dispatch cls target method args =>
    obtain ⟨_, dispatched⟩ := dispatch_frame setup cls target method args state
    exact congrArg (·.stock.current) dispatched
  | query query =>
    cases query with
    | swap source target => exact absurd rfl (other source target)
    | update | allocate | view | counts | readClock | emit => rfl

theorem swap_elsewhere {source : Source σ} {id : SourceId} (other : id ≠ source.id)
    (target : Target) (state : State σ) :
    (source.swap target state).2.stock.current.find? id = state.stock.current.find? id := by
  unfold Source.swap
  split
  · split
    · rfl
    · change (state.stock.current.insert source.id target).find? id = _
      rw [Table.find?_insert, if_neg other]
  · rfl

/-! ### One operation -/

section
variable {source : Source σ} {loans : List Target} {state : State σ}
  (keeps : source.Keeps loans state.stock)
include keeps

theorem take_fits (fits : source.Fits) {target : Target}
    (taken : (source.take state).1 = .ok target) : target.type = source.cls.type := by
  cases kind : source.kind with
  | custom =>
    rw [Source.Fits, kind] at fits
    exact fits.elim
  | singleton own =>
    rw [Source.Fits, kind] at fits
    simp only [Source.take, kind, Except.ok.injEq] at taken
    rw [← taken, fits]
  | swappable initial =>
    rw [Source.Fits, kind] at fits
    simp only [Source.take, kind, Except.ok.injEq, Stock.currentOf, Table.getD] at taken
    cases found : state.stock.current.find? source.id with
    | none =>
      rw [found, Option.getD_none] at taken
      rw [← taken, fits]
    | some swapped =>
      rw [found, Option.getD_some] at taken
      rw [← taken, keeps.current swapped found]
  | prototype type maker =>
    rw [Source.Fits, kind] at fits
    have made : (state.make type maker).1 = .ok target := by
      simp only [Source.take, kind] at taken
      split at taken <;> rename_i made <;> rw [made] <;> exact taken
    rw [State.make_type made, fits]
  | pooled type limit maker =>
    rw [Source.Fits, kind] at fits
    have lends := take_lends kind state
    rw [taken] at lends
    generalize (source.take state).2.poolRecord source.id = after at lends
    cases lends with
    | @reused _ rest waiting =>
      have member : target ∈ (state.stock.pool source.id).idle := by
        change (state.stock.pool source.id).idle = target :: rest at waiting
        rw [waiting]
        exact List.mem_cons_self
      exact keeps.idle target member
    | made => exact fits

/-- Fetching from a source leaves no target idle that was not idle before. -/
theorem take_idle (target : Target)
    (waiting : target ∈ ((source.take state).2.stock.pool source.id).idle) :
    target.type = source.cls.type := by
  refine keeps.idle target ?_
  cases kind : source.kind with
  | singleton | swappable | custom =>
    simp only [Source.take, kind] at waiting
    exact waiting
  | prototype type maker =>
    have unpooled : (source.take state).2.stock.pool source.id = state.stock.pool source.id := by
      simp only [Source.take, kind]
      split <;> rename_i made <;>
        exact congrArg (fun made => made.2.stock.pool source.id) made.symm
    rwa [unpooled] at waiting
  | pooled type limit maker =>
    have lends := take_lends kind state
    change target ∈ ((source.take state).2.poolRecord source.id).idle at waiting
    generalize (source.take state).2.poolRecord source.id = after at lends waiting
    generalize (source.take state).1 = answer at lends
    cases lends with
    | @reused first rest before =>
      change (state.stock.pool source.id).idle = first :: rest at before
      rw [before]
      exact List.mem_cons_of_mem _ waiting
    | exhausted | made | failed => exact waiting

theorem take_keeps (fits : source.Fits) :
    source.Keeps (source.account loans ⟨.fetch source, (source.take state).1⟩)
      (source.take state).2.stock := by
  refine ⟨?_, take_idle keeps, ?_⟩
  · cases taken : (source.take state).1 with
    | error fault => exact keeps.lent
    | ok target =>
      rw [Source.account, if_pos rfl]
      exact List.forall_mem_cons.2 ⟨take_fits keeps fits taken, keeps.lent⟩
  · rw [take_current]
    exact keeps.current

theorem putBack_keeps {target : Target} (member : target ∈ loans) :
    source.Keeps (loans.erase target) (source.putBack target state).2.stock := by
  refine ⟨fun other left => keeps.lent other (List.mem_of_mem_erase left), ?_, ?_⟩
  · cases kind : source.kind with
    | singleton | prototype | swappable | custom =>
      simp only [Source.putBack, kind]
      exact keeps.idle
    | pooled type limit maker =>
      have waiting : ((source.putBack target state).2.stock.pool source.id).idle =
          target :: (state.stock.pool source.id).idle :=
        congrArg PoolRecord.idle (putBack_pooled kind target state)
      rw [waiting]
      exact List.forall_mem_cons.2 ⟨keeps.lent target member, keeps.idle⟩
  · rw [putBack_current]
    exact keeps.current

theorem swap_keeps (target : Target) :
    source.Keeps loans (source.swap target state).2.stock := by
  unfold Source.swap
  split
  · split
    · exact keeps
    · rename_i checked
      refine ⟨keeps.lent, keeps.idle, fun other found => ?_⟩
      have swapped : (state.stock.current.insert source.id target).find? source.id = some other :=
        found
      rw [Table.find?_insert, if_pos rfl] at swapped
      rw [← Option.some.inj swapped]
      exact Source.checkType_ok checked
  · exact keeps

theorem Source.Keeps.elsewhere {after : Stock}
    (idle : (after.pool source.id).idle = (state.stock.pool source.id).idle)
    (current : after.current.find? source.id = state.stock.current.find? source.id) :
    source.Keeps loans after := by
  refine ⟨keeps.lent, ?_, ?_⟩
  · rw [idle]
    exact keeps.idle
  · rw [current]
    exact keeps.current

/-- What is permitted keeps the types. -/
theorem perform_keeps (setup : Setup σ) (fits : source.Fits) (operation : Operation σ)
    (permitted : source.Permits loans ⟨operation, (setup.perform operation state).1⟩)
    (alone : source.Alone operation) :
    source.Keeps (source.account loans ⟨operation, (setup.perform operation state).1⟩)
      (setup.perform operation state).2.stock := by
  have unmoved (still : operation.movesTarget = false)
      (other : ∀ source target, operation ≠ .query (.swap source target)) :
      source.Keeps (source.account loans ⟨operation, (setup.perform operation state).1⟩)
        (setup.perform operation state).2.stock := by
    rw [account_unmoved still]
    refine keeps.elsewhere (perform_spares setup operation still state).idle ?_
    rw [perform_current setup operation state other]
  cases operation with
  | findChain | advise | dispatch => exact unmoved rfl (by rintro _ _ ⟨⟩)
  | fetch other =>
    by_cases same : other.id = source.id
    · obtain rfl := permitted same
      exact take_keeps keeps fits
    · have unlent (answer : Except Fault Target) :
          source.account loans ⟨.fetch other, answer⟩ = loans := by
        cases answer with
        | ok target => exact if_neg same
        | error fault => rfl
      rw [unlent]
      exact keeps.elsewhere (take_spares (Ne.symm same) state).idle
        (congrArg (·.find? source.id) (take_current other state))
  | giveBack other target =>
    by_cases same : other.id = source.id
    · obtain ⟨rfl, member⟩ := permitted same
      change other.Keeps (if other.id = other.id then loans.erase target else loans) _
      rw [if_pos rfl]
      exact putBack_keeps keeps member
    · have unmoved (answer : Except Fault Unit) :
        source.account loans ⟨.giveBack other target, answer⟩ = loans := if_neg same
      rw [unmoved]
      exact keeps.elsewhere (putBack_spares (Ne.symm same) target state).idle
        (congrArg (·.find? source.id) (putBack_current other target state))
  | query query =>
    cases query with
    | update | allocate | view | counts | readClock | emit => exact unmoved rfl (by rintro _ _ ⟨⟩)
    | swap other target =>
      by_cases same : other.id = source.id
      · obtain rfl := alone same
        exact swap_keeps keeps target
      · rw [account_unmoved rfl]
        exact keeps.elsewhere (perform_spares setup (.query (.swap other target)) rfl state).idle
          (swap_elsewhere (Ne.symm same) target state)

end

/-! ### Runs -/

/-- In any run of calls of a client, a source that was not used before supplies targets of the type
of its class, and only those. -/
theorem supplies_fitting {α : Type} {setup : Setup σ} {depth : Nat} {client : Action σ α}
    {source : Source σ} (fits : source.Fits)
    {start now : State σ} (unlent : start.stock.pool source.id = {})
    (unswapped : start.stock.current.find? source.id = none)
    (alone : ∀ exchange ∈ (client.course (setup.call depth)).transcript setup.perform start,
      source.Alone exchange.1)
    {past : List (Exchange σ)}
    (moment : Dialogue.Reaches setup.perform (client.course (setup.call depth)) start past now)
    {target : Target} (taken : (source.take now).1 = .ok target) : target.type = source.cls.type := by
  have fresh : source.Keeps [] start.stock := by
    constructor <;> simp [unlent, unswapped]
  cases static : source.isStatic with
  | true =>
    obtain ⟨own, kind, fitting⟩ := fits.static static
    simp only [Source.take, kind, Except.ok.injEq] at taken
    rw [← taken, fitting]
  | false =>
    have nested : setup.Nested ((client.course (setup.call depth)).transcript setup.perform start) :=
      (amid_action setup (call_nested setup depth) client start).nested fun _ nested => nested
    have lending := (nested.conforms_alone static (fun exchange member _ => alone exchange member) []).1
    have conforms := Dialogue.conforms_and _ _ _ [] lending alone
    have keeps := moment.invariant _ _ (fun loans state => source.Keeps loans state.stock)
      (fun loans operation state permitted keeps =>
        perform_keeps keeps setup fits operation permitted.1 permitted.2) [] conforms fresh
    exact take_fits keeps fits taken

end Weave
