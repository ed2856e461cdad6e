import Weave.Proofs.ChainMemory
import Weave.Proofs.ChainPosition
import Weave.Proofs.ErrorLayers
import Weave.Proofs.PassingAdvice

/-! Transparent proxies. Where all advice passes calls through, a proxy cannot be noticed: a call goes
to its target exactly once, with the arguments it was made with, and comes back with the very result or
the very error that the target's method returned. Its caller gets these in their declared types just if
completing keeps them. -/

namespace Weave

variable [ValueTypes] {σ : Type}

/-! ### Typed methods -/

abbrev Inputs : List ValueType → Type
  | [] => Unit
  | type :: rest => type.Carrier × Inputs rest

namespace Inputs

def values : {types : List ValueType} → Inputs types → List Value
  | [], _ => []
  | type :: _, inputs => ⟨type, inputs.1⟩ :: values inputs.2

def pack {types : List ValueType} (inputs : Inputs types) : Arguments := ⟨inputs.values⟩

def read (args : Arguments) (method : Method) :
    (types : List ValueType) → (place : Nat) → Except InvocationError (Inputs types)
  | [], _ => .ok ()
  | type :: rest, place => do
    let first ← args.fetch method type place
    let others ← read args method rest (place + 1)
    return (first, others)

theorem read_behind (method : Method) (ahead : List Value) {types : List ValueType}
    (inputs : Inputs types) :
    read ⟨ahead ++ inputs.values⟩ method types ahead.length = .ok inputs := by
  induction types generalizing ahead with
  | nil => rfl
  | cons type rest ih =>
    obtain ⟨first, others⟩ := inputs
    change read ⟨ahead ++ ⟨type, first⟩ :: others.values⟩ method (type :: rest) ahead.length = _
    have here : Arguments.fetch ⟨ahead ++ ⟨type, first⟩ :: others.values⟩ method type ahead.length =
        .ok first := by
      simp [Arguments.fetch, Arguments.get?]
    have onwards := ih (ahead ++ [⟨type, first⟩]) others
    rw [List.append_assoc, List.length_append, List.singleton_append, List.length_singleton] at onwards
    rw [read, here]
    change Except.bind (read _ method rest (ahead.length + 1)) (fun others => .ok (first, others)) = _
    rw [onwards]
    rfl

theorem read_pack (method : Method) {types : List ValueType} (inputs : Inputs types) :
    read inputs.pack method types 0 = .ok inputs := read_behind method [] inputs

end Inputs

/-- A method of a target as it is written: what it takes, what it returns and what it does. -/
structure TypedMethod (σ : Type) where
  parameters : List ValueType
  result : ValueType
  errors : ErrorType
  body : Target → Inputs parameters → σ → Except errors.Carrier result.Carrier × σ

namespace TypedMethod

/-- The code of a binding: it reads the declared arguments, runs the method and forgets the types of
what it returns. -/
def forward (own : TypedMethod σ) (target : Target) (method : Method) (args : Arguments)
    (memory : σ) : Outcome × σ :=
  match Inputs.read args method own.parameters 0 with
  | .error error => (.error (.invocation error), memory)
  | .ok inputs =>
    let ended := own.body target inputs memory
    (Outcome.erase own.result own.errors ended.1, ended.2)

theorem forward_pack (own : TypedMethod σ) (target : Target) (method : Method)
    (inputs : Inputs own.parameters) (memory : σ) :
    own.forward target method inputs.pack memory =
      (Outcome.erase own.result own.errors (own.body target inputs memory).1,
        (own.body target inputs memory).2) := by
  rw [forward, Inputs.read_pack]

def CanEnd (own : TypedMethod σ) (outcome : Outcome) : Prop :=
  ∃ result, outcome = Outcome.erase own.result own.errors result

end TypedMethod

/-! ### One operation -/

/-- Nothing is dispatched but in whole calls made in between. -/
abbrev Aside (whole : List (Exchange σ) → Prop) : List (Exchange σ) → Prop :=
  Interleaved (fun operation => operation.isDispatch = false) whole

/-- A course that ends as an operation was answered. If it has not been asked for yet, the course
asks for it, once, and dispatches nothing besides. -/
def Setup.Delivers {α : Type} (setup : Setup σ) (whole : List (Exchange σ) → Prop)
    (operation : Operation σ) (ended : operation.Answer → α) :
    Option operation.Answer → Course σ α → State σ → Prop
  | none, course, state => ∃ ahead now behind,
    Dialogue.Reaches setup.perform course state ahead now ∧
      course.transcript setup.perform state =
        ahead ++ ⟨operation, (setup.perform operation now).1⟩ :: behind ∧
      Aside whole ahead ∧ Aside whole behind ∧
      (course.run setup.perform state).1 = ended (setup.perform operation now).1
  | some answer, course, state =>
    Aside whole (course.transcript setup.perform state) ∧
      (course.run setup.perform state).1 = ended answer

section
variable {α β : Type} {setup : Setup σ} {whole : List (Exchange σ) → Prop}
  {operation : Operation σ} {ended : operation.Answer → α}

theorem delivers_perform (state : State σ) :
    setup.Delivers whole operation id none (Course.perform operation) state :=
  ⟨[], state, [], .now _ _, rfl, .nil, .nil, rfl⟩

theorem delivers_behind {got : Option operation.Answer} (first : Course σ β)
    {next : β → Course σ α} {state : State σ}
    (aside : Aside whole (first.transcript setup.perform state))
    (onwards : setup.Delivers whole operation ended got (next (first.run setup.perform state).1)
      (first.run setup.perform state).2) :
    setup.Delivers whole operation ended got (first >>= next) state := by
  cases got with
  | some answer =>
    obtain ⟨after, came⟩ := onwards
    refine ⟨?_, ?_⟩
    · rw [Dialogue.transcript_bind]
      exact aside.append after
    · rw [Dialogue.run_bind]
      exact came
  | none =>
    obtain ⟨ahead, now, behind, moment, exchanges, before, after, came⟩ := onwards
    refine ⟨_, now, behind, moment.behind _ first state, ?_, aside.append before, after, ?_⟩
    · rw [Dialogue.transcript_bind, exchanges, List.append_assoc]
    · rw [Dialogue.run_bind]
      exact came

theorem delivers_performed {got : Option operation.Answer} {other : Operation σ}
    {answer : other.Answer} {next : other.Answer → Course σ α} {state after : State σ}
    (aside : other.isDispatch = false) (performed : setup.perform other state = (answer, after))
    (onwards : setup.Delivers whole operation ended got (next answer) after) :
    setup.Delivers whole operation ended got (Course.perform other >>= next) state := by
  refine delivers_behind _ (.own aside .nil) ?_
  change setup.Delivers whole operation ended got (next (setup.perform other state).1)
    (setup.perform other state).2
  rw [performed]
  exact onwards

theorem delivers_bind (possible : operation.Answer → Prop)
    (answers : ∀ now, possible (setup.perform operation now).1) {came : operation.Answer → β}
    {course : Course σ α} {next : α → Course σ β} {state : State σ}
    (once : setup.Delivers whole operation ended none course state)
    (onwards : ∀ answer after, possible answer →
      setup.Delivers whole operation came (some answer) (next (ended answer)) after) :
    setup.Delivers whole operation came none (course >>= next) state := by
  obtain ⟨ahead, now, behind, moment, exchanges, before, after, result⟩ := once
  have further := onwards _ (course.run setup.perform state).2 (answers now)
  rw [← result] at further
  refine ⟨ahead, now, behind ++ _, moment.bind next, ?_, before, after.append further.1, ?_⟩
  · rw [Dialogue.transcript_bind, exchanges, List.append_assoc, List.cons_append]
  · rw [Dialogue.run_bind]
    exact further.2

theorem delivers_map {came : operation.Answer → β} {next : α → β} {course : Course σ α}
    {state : State σ} (once : setup.Delivers whole operation ended none course state)
    (same : ∀ answer, next (ended answer) = came answer) :
    setup.Delivers whole operation came none (course >>= fun result => pure (next result)) state :=
  delivers_bind (fun _ => True) (fun _ => trivial) once fun answer _ _ => ⟨.nil, same answer⟩

end

/-! ### The way to the target -/

section
variable {setup : Setup σ} {depth : Nat} (frame : CallFrame) (args : Arguments)
  {possible : Outcome → Prop}

abbrev CallFrame.dispatching : Operation σ := .dispatch frame.cls frame.target frame.method args

abbrev CallFrame.point : JoinPoint := ⟨frame.method, args, frame.target, frame.cls⟩

/-- A course that goes to the target with these arguments and comes back to its place. -/
abbrev CallFrame.Reached (setup : Setup σ) (depth : Nat) (place : Nat) :
    Option Outcome → Course σ (Outcome × Progress) → State σ → Prop :=
  setup.Delivers (setup.WholeCall depth) (frame.dispatching args) fun outcome =>
    (outcome, ⟨args, place⟩)

theorem aside_request (request : Request σ) (state : State σ) :
    Aside (setup.WholeCall depth) ((request.course (setup.call depth)).transcript setup.perform state) :=
  interleaved_request setup (fun proxy method args state => ⟨proxy, method, args, state, rfl⟩)
    (fun _ => rfl) request state

/-- What holds of a course that goes on with the call, and then of what hands the outcome on, holds of
advice that hands calls on, if other things may be done before. -/
theorem handsOn_holds {place : Nat} {proceed : Progress → Course σ (Outcome × Progress)}
    (holds : Option Outcome → Course σ (Outcome × Progress) → State σ → Prop)
    (finished : ∀ outcome state, holds (some outcome) (pure (outcome, ⟨args, place⟩)) state)
    (behind : ∀ {α : Type} {got : Option Outcome} (first : Course σ α)
      {next : α → Course σ (Outcome × Progress)} {state : State σ},
      Aside (setup.WholeCall depth) (first.transcript setup.perform state) →
        holds got (next (first.run setup.perform state).1) (first.run setup.perform state).2 →
          holds got (first >>= next) state)
    (goesOn : ∀ {next : Outcome × Progress → Course σ (Outcome × Progress)} (state : State σ),
      (∀ outcome after, possible outcome →
        holds (some outcome) (next (outcome, ⟨args, place⟩)) after) →
          holds none (proceed ⟨args, place⟩ >>= next) state)
    {got : Option Outcome} {interceptor : Interceptor σ} {state : State σ}
    (handsOn : HandsOn setup depth (frame.point args) possible got interceptor state) :
    holds got
      (interceptor.translate (AroundRequest.course frame (setup.call depth) proceed) ⟨args, place⟩)
      state := by
  induction handsOn with
  | finished outcome state => exact finished outcome state
  | @asking got request next state onwards ih =>
    rw [Dialogue.translate_ask, AroundRequest.course, bind_assoc]
    exact behind _ (aside_request request state) ih
  | @looking got next state onwards ih => exact ih _ rfl
  | @proceeding next state onwards ih =>
    rw [Dialogue.translate_ask]
    exact goesOn state ih

variable (answers : ∀ now, possible (setup.perform (frame.dispatching args) now).1)
include answers

theorem handsOn_reached {place : Nat} {proceed : Progress → Course σ (Outcome × Progress)}
    (goesOn : ∀ state, frame.Reached args setup depth place none (proceed ⟨args, place⟩) state)
    {got : Option Outcome} {interceptor : Interceptor σ} {state : State σ}
    (handsOn : HandsOn setup depth (frame.point args) possible got interceptor state) :
    frame.Reached args setup depth place got
      (interceptor.translate (AroundRequest.course frame (setup.call depth) proceed) ⟨args, place⟩)
      state :=
  handsOn_holds frame args (frame.Reached args setup depth place) (fun _ _ => ⟨.nil, rfl⟩)
    delivers_behind (fun state onwards => delivers_bind possible answers (goesOn state) onwards)
    handsOn

theorem advice_reached {place : Nat} {proceed : Progress → Course σ (Outcome × Progress)}
    (goesOn : ∀ state, frame.Reached args setup depth place none (proceed ⟨args, place⟩) state)
    {interceptor : Interceptor σ}
    (handsOn : ∀ state, HandsOn setup depth (frame.point args) possible none interceptor state)
    (state : State σ) :
    frame.Reached args setup depth place none
      (Interceptor.course frame (setup.call depth) proceed interceptor ⟨args, place⟩) state :=
  delivers_behind _ (.own rfl .nil) (handsOn_reached frame args answers goesOn (handsOn _))

omit answers in
theorem returning_reached {place back : Nat} {goOn : Progress → Course σ (Outcome × Progress)}
    {state : State σ} (once : frame.Reached args setup depth place none (goOn ⟨args, back⟩) state) :
    frame.Reached args setup depth back none (Progress.returning goOn ⟨args, back⟩) state :=
  delivers_map once fun _ => rfl

/-- A chain of advice that hands on reaches the target from every place. -/
theorem proceed_reached (chain : Chain σ)
    (handsOn : ∀ entry ∈ chain, ∀ state,
      HandsOn setup depth (frame.point args) possible none entry.interceptor state)
    (place : Nat) (state : State σ) :
    frame.Reached args setup depth place none
      (Chain.proceed frame (setup.call depth) chain ⟨args, place⟩) state := by
  -- The induction is on the entries still ahead; the arguments are the same in every place.
  induction left : chain.length - place generalizing place state with
  | zero =>
    have found : chain[place]? = none := List.getElem?_eq_none (by omega)
    have atTarget : frame.Reached args setup depth place none (frame.reachTarget ⟨args, place⟩) state :=
      delivers_behind _ (.own rfl .nil) (delivers_map (delivers_perform _) fun _ => rfl)
    rw [proceed_ended frame _ found]
    exact returning_reached frame args atTarget
  | succ left ih =>
    have onwards (state : State σ) := ih (place + 1) state (by omega)
    have advised (entry : ChainEntry σ) (member : entry ∈ chain) (state : State σ) :=
      advice_reached frame args answers onwards (handsOn entry member) state
    have within : place < chain.length := by omega
    obtain ⟨entry, found⟩ : ∃ entry, chain[place]? = some entry :=
      ⟨_, List.getElem?_eq_getElem within⟩
    have member := List.mem_of_getElem? found
    cases entry with
    | fixed interceptor =>
      rw [proceed_fixed frame _ found]
      exact returning_reached frame args (advised _ member state)
    | dynamic interceptor advisor =>
      rw [proceed_dynamic frame _ found]
      apply returning_reached
      split
      · exact advised _ member state
      · exact delivers_behind _ (.own rfl .nil) (onwards _)

end

/-! ### A whole call -/

section
variable {setup : Setup σ} {depth : Nat} {snapshot : Snapshot σ} {proxy : Proxy} {target : Target}
  {method : Method} {args : Arguments} {possible : Outcome → Prop}
  (answers : ∀ now, possible (snapshot.cls.dispatch setup target method args now).1)
  (handsOn : ∀ advisor ∈ snapshot.advisors, ∀ state,
    HandsOn setup depth ⟨method, args, target, snapshot.cls⟩ possible none
      advisor.advice.interceptor state)
include answers handsOn

theorem callAlong_delivers (state : State σ) :
    setup.Delivers (setup.WholeCall depth) (.dispatch snapshot.cls target method args) id none
      (snapshot.callAlong (setup.call depth) proxy target method args (snapshot.resolve method))
      state := by
  unfold Snapshot.callAlong
  split
  · exact delivers_behind _ (.own rfl .nil) (delivers_perform _)
  · have entries : ∀ entry ∈ snapshot.resolve method, ∀ state, HandsOn setup depth
        ⟨method, args, target, snapshot.cls⟩ possible none entry.interceptor state := by
      intro entry member
      obtain ⟨advisor, listed, contributed⟩ := List.mem_filterMap.1 member
      rw [Chain.contribution_interceptor contributed]
      exact handsOn advisor listed
    have reached := proceed_reached (snapshot.frame proxy target method (snapshot.resolve method))
      args answers _ entries 0 state
    exact delivers_map reached fun _ => rfl

theorem call_delivers {before after : State σ}
    (snapshotOf : setup.snapshots proxy.snapshot = snapshot)
    (exposed : snapshot.exposes proxy.strategy method = true)
    (supplied : snapshot.source.take before = (.ok target, after))
    (resolved : (setup.chainFor proxy.snapshot method after).1 = snapshot.resolve method) :
    setup.Delivers (setup.WholeCall depth) (.dispatch snapshot.cls target method args) id none
      (setup.call (depth + 1) proxy method args) before := by
  subst snapshotOf
  have fetched : setup.perform (.fetch (setup.snapshots proxy.snapshot).source) before =
    (.ok target, after) := supplied
  simp only [Setup.call, exposed, if_true]
  have inside : setup.Delivers (setup.WholeCall depth)
      (.dispatch (setup.snapshots proxy.snapshot).cls target method args) id none
      ((setup.snapshots proxy.snapshot).callOn (setup.call depth) proxy target method args) after := by
    rw [callOn_eq]
    refine delivers_performed rfl (Prod.ext resolved rfl) ?_
    exact callAlong_delivers answers handsOn _
  refine delivers_performed rfl fetched (delivers_bind possible answers inside fun outcome state _ => ?_)
  cases static : (setup.snapshots proxy.snapshot).source.isStatic with
  | true => exact ⟨.nil, rfl⟩
  | false =>
    have givingBack : Aside (setup.WholeCall depth)
        (((setup.snapshots proxy.snapshot).source.release target).transcript setup.perform state) := by
      rw [transcript_release]
      refine .own rfl ?_
      cases ((setup.snapshots proxy.snapshot).source.putBack target state).1 with
      | ok => exact .nil
      | error => exact .own rfl .nil
    exact delivers_behind _ givingBack ⟨.nil, rfl⟩

end

theorem dispatch_forward {setup : Setup σ} {cls : TargetClass} {target : Target} {method : Method}
    {own : TypedMethod σ} (declared : (cls.route? method).isSome = true)
    (fits : target.type = cls.type)
    (forwards : ∀ entry expected, cls.route? method = some (entry, expected) → ∀ args memory,
      setup.entryCode entry target method args memory = own.forward target method args memory)
    (inputs : Inputs own.parameters) (state : State σ) :
    cls.dispatch setup target method inputs.pack state =
      (Outcome.erase own.result own.errors (own.body target inputs state.memory).1,
        { state with memory := (own.body target inputs state.memory).2 }) := by
  obtain ⟨⟨entry, expected⟩, route⟩ := Option.isSome_iff_exists.1 declared
  have code := (forwards entry expected route inputs.pack state.memory).trans
    (own.forward_pack target method inputs state.memory)
  rw [TargetClass.dispatch, route]
  simp only [if_pos fits]
  change ((setup.entryCode entry target method inputs.pack state.memory).1,
    { state with memory := (setup.entryCode entry target method inputs.pack state.memory).2 }) = _
  rw [code]

/-- A call through a proxy whose advice all passes it through ends exactly as the target's method ends
for its arguments, and the method runs once, with these arguments. Whatever else is dispatched belongs
to calls that advice makes. In the declared types, the caller gets the method's own result just if
completing keeps that. The chain may have been resolved earlier, in a run that started with none known. -/
theorem passing_call_transparent {α : Type} (setup : Setup σ) (depth : Nat) (proxy : Proxy)
    (method : Method) (own : TypedMethod σ) (inputs : Inputs own.parameters) (target : Target)
    (earlier : Course σ α) (start before after : State σ) (past : List (Exchange σ))
    (unknown : start.cachedChains proxy.snapshot = {})
    (moment : Dialogue.Reaches setup.perform earlier start past before)
    (exposed : (setup.snapshots proxy.snapshot).exposes proxy.strategy method = true)
    (supplied : (setup.snapshots proxy.snapshot).source.take before = (.ok target, after))
    (fits : target.type = (setup.snapshots proxy.snapshot).cls.type)
    (forwards : ∀ entry expected,
      (setup.snapshots proxy.snapshot).cls.route? method = some (entry, expected) →
        ∀ args memory,
          setup.entryCode entry target method args memory = own.forward target method args memory)
    (passing : ∀ advisor ∈ (setup.snapshots proxy.snapshot).advisors,
      advisor.advice.PassesThrough setup depth
        ⟨method, inputs.pack, target, (setup.snapshots proxy.snapshot).cls⟩ own.CanEnd) :
    let call := setup.call (depth + 1) proxy method inputs.pack
    let dispatch : Operation σ := .dispatch (setup.snapshots proxy.snapshot).cls target method inputs.pack
    ∃ ahead now behind,
      let ended := own.body target inputs now.memory
      let erased := Outcome.erase own.result own.errors ended.1
      Dialogue.Reaches setup.perform call before ahead now ∧
        call.transcript setup.perform before = ahead ++ ⟨dispatch, erased⟩ :: behind ∧
        Aside (setup.WholeCall depth) ahead ∧ Aside (setup.WholeCall depth) behind ∧
        setup.perform dispatch now = (erased, { now with memory := ended.2 }) ∧
        (setup.invoke (depth + 1) proxy method inputs.pack before).1 = erased ∧
        (Outcome.complete own.result own.errors method
            (setup.invoke (depth + 1) proxy method inputs.pack before).1 = ended.1 ↔
          Outcome.Kept ended.1) := by
  intro call dispatch
  have dispatched := dispatch_forward (Snapshot.exposes_declared exposed) fits forwards inputs
  have answers (now : State σ) : own.CanEnd
      ((setup.snapshots proxy.snapshot).cls.dispatch setup target method inputs.pack now).1 :=
    ⟨_, congrArg Prod.fst (dispatched now)⟩
  have resolved : (setup.chainFor proxy.snapshot method after).1 =
      (setup.snapshots proxy.snapshot).resolve method := by
    have remembers := reaches_recalls setup unknown moment
    obtain ⟨_, _, _, _, _, fetched⟩ := (setup.snapshots proxy.snapshot).source.take_frame before
    rw [supplied] at fetched
    have same : after.cachedChains proxy.snapshot = before.cachedChains proxy.snapshot :=
      congrArg (·.cachedChains proxy.snapshot) fetched
    rw [← same] at remembers
    exact (chainFor_remembers setup remembers method).1
  obtain ⟨ahead, now, behind, reached, exchanges, aside, asideToo, came⟩ := call_delivers answers
    (fun advisor listed => (passing advisor listed).handsOn) rfl exposed supplied resolved
  have performed : setup.perform dispatch now = _ := dispatched now
  have arrived : (setup.invoke (depth + 1) proxy method inputs.pack before).1 =
      Outcome.erase own.result own.errors (own.body target inputs now.memory).1 := by
    unfold Setup.invoke
    rw [came, performed]
    rfl
  refine ⟨ahead, now, behind, reached, ?_, aside, asideToo, performed, arrived, ?_⟩
  · rw [exchanges, performed]
  · rw [arrived]
    exact Outcome.complete_erase_iff method _

end Weave

namespace Weave.Purse

def method : Method := ⟨"", "Purse", "spend", ["u64"], "Result<u64, PurseError>"⟩

def type : ObjectType := ⟨"Purse"⟩

def cls : TargetClass := .ofClass type ⟨"Purse", [method], false⟩

def insufficient : FamilyError := .declared "Insufficient" "not enough" none

def spend : TypedMethod UInt64 where
  parameters := [.u64]
  result := .u64
  errors := .family "PurseError"
  body _ inputs held :=
    let amount : UInt64 := inputs.1
    if amount > held then (.error insufficient, held) else (.ok (held - amount), held - amount)

def large (amount : UInt64) : Bool := amount > 100

def advisors : List (Advisor UInt64) :=
  [.everywhere (.around (traceAdvice true)), .everywhere (.before fun _ => pure (.ok ())),
    .ofPointcut ⟨fun _ => true, .dynamic fun _ _ args => (args.get? .u64 0).any large⟩
      (.afterThrowing exceptionLogging),
    .everywhere (.after fun _ => pure ()), .everywhere (.afterReturning fun _ _ => pure (.ok ())),
    .everywhere (.around (performanceAdvice 0))]

def target : Target := ⟨0, type⟩

def setup : Setup UInt64 where
  entryCode _ target method args memory := spend.forward target method args memory
  snapshots _ := { source := ⟨0, cls, .singleton target⟩, advisors }

def proxy : Proxy := ⟨.subclassGeneration, 0⟩

def holding : State UInt64 := { memory := 30 }

def amount : Inputs spend.parameters := ((50 : UInt64), ())

/-- The refusal arrives as it was raised. -/
theorem refusal_passes :
    let call := setup.call 1 proxy method amount.pack
    (∃ (ahead : List (Exchange UInt64)) (now : State UInt64) (behind : List (Exchange UInt64)),
      let erased := Outcome.erase spend.result spend.errors (spend.body target amount now.memory).1
      call.transcript setup.perform holding =
        ahead ++ ⟨.dispatch cls target method amount.pack, erased⟩ :: behind ∧
        Aside (setup.WholeCall 0) ahead ∧ Aside (setup.WholeCall 0) behind) ∧
      Outcome.complete spend.result spend.errors method
        (setup.invoke 1 proxy method amount.pack holding).1 = .error insufficient := by
  have passing : ∀ advisor ∈ advisors, advisor.advice.PassesThrough setup 0
      ⟨method, amount.pack, target, cls⟩ spend.CanEnd := by
    simp only [advisors, List.forall_mem_cons]
    exact ⟨.trace true, .before fun _ => rfl, .exceptionLogging, .after _,
      .afterReturning fun _ _ _ => rfl, .performance 0, List.forall_mem_nil _⟩
  obtain ⟨ahead, now, behind, -, exchanges, before, after, -⟩ :=
    passing_call_transparent setup 0 proxy method spend amount target
      (pure () : Course UInt64 Unit) holding holding holding [] rfl (.now _ _) (by decide) rfl rfl
      (fun _ _ _ _ _ => rfl) passing
  exact ⟨⟨ahead, now, behind, exchanges, before, after⟩, by rfl⟩

end Weave.Purse

namespace Weave.Till

def close : Method := ⟨"", "Till", "close", [], "Result<u64>"⟩

def type : ObjectType := ⟨"Till"⟩

def cls : TargetClass := .ofClass type ⟨"Till", [close], false⟩

def target : Target := ⟨0, type⟩

def refused : Fault := .context (.erased (.text "closing refused")) (.text "money is left")

def closing : TypedMethod UInt64 where
  parameters := []
  result := .u64
  errors := .any
  body _ _ held := (.error refused, held)

def setup : Setup UInt64 where
  entryCode _ target method args memory := closing.forward target method args memory
  snapshots _ := { source := ⟨0, cls, .singleton target⟩, advisors := [] }

/-- Without any advice the error of the method arrives as it is. Completing it takes the outer error out
of it, and the caller never hears of the other one. -/
theorem refusal_loses_reason :
    let arrived := (setup.invoke 1 ⟨.subclassGeneration, 0⟩ close ⟨[]⟩ { memory := 30 }).1
    let result := (closing.body target () 30).1
    (setup.snapshots 0).exposes .subclassGeneration close = true ∧
      arrived = Outcome.erase closing.result closing.errors result ∧
      Outcome.complete closing.result closing.errors close arrived = .error (.text "closing refused") ∧
      Outcome.complete closing.result closing.errors close arrived ≠ result := by
  intro arrived result
  have lost : Outcome.complete closing.result closing.errors close arrived =
      .error (.text "closing refused") := rfl
  refine ⟨by decide, rfl, lost, fun same => ?_⟩
  exact Fault.noConfusion (Except.error.inj (lost.symm.trans same))

end Weave.Till
