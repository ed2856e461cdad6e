import Weave.Proofs.ChainPosition
import Weave.Proofs.LogIndependence
import Weave.Proofs.PointcutAlgebra
import Weave.Proofs.Transcript

/-! A call read off its advisors. A chain is resolved once, with entries that are decided again when
the call comes to them, and advice runs at a position that is counted forth and back. What is meant
is simpler: each advisor in turn either takes the call as it is then, and the advisors behind it are
its `proceed`, or is passed over. Both go the same course, but for the notes that a chain writes
about entries it skips. -/

namespace Weave

variable [ValueTypes] {σ : Type}

/-! ### The direct reading -/

section
variable (frame : CallFrame) (call : Proxy → Method → Arguments → Course σ Outcome)

def Advisor.entries (advisors : List (Advisor σ)) : Nat :=
  advisors.countP fun advisor => advisor.pointcut.matchesMethod frame.method frame.cls

/-- A call read off the advisors that are left, behind those it has passed. -/
def Advisor.proceed (passed : List (Advisor σ)) :
    List (Advisor σ) → Arguments → Course σ (Outcome × Arguments)
  | [], args => do
    Course.emit (.chainEnded frame.method)
    return (← Course.perform (.dispatch frame.cls frame.target frame.method args), args)
  | advisor :: rest, args =>
    if advisor.pointcut.matchesCall frame.method frame.cls args then
      Interceptor.inPlace frame call (Advisor.entries frame (passed ++ [advisor]))
        (Advisor.proceed (passed ++ [advisor]) rest) advisor.advice.interceptor args
    else Advisor.proceed (passed ++ [advisor]) rest args

end

def Event.isSkip : Event → Bool
  | .advisorSkipped _ _ => true
  | _ => false

def Operation.isSkip : Operation σ → Bool
  | .query (.emit event) => event.isSkip
  | _ => false

theorem showing_skip (setup : Setup σ) {operation : Operation σ} (skip : operation.isSkip = true)
    (state : State σ) :
    (setup.perform operation state).2.showing (fun event => !event.isSkip) =
      state.showing (fun event => !event.isSkip) := by
  cases operation with
  | query query =>
    cases query with
    | emit event =>
      change event.isSkip = true at skip
      change state.relog ((state.events.push event).filter fun event => !event.isSkip) = _
      rw [Array.filter_push, skip]
      rfl
    | update | allocate | view | swap | counts | readClock => contradiction
  | fetch | giveBack | findChain | advise | dispatch => contradiction

/-! ### The chain and the advisors -/

section
variable (frame : CallFrame)

theorem isSome_contribution (advisor : Advisor σ) :
    (Chain.contribution? frame.method frame.cls advisor).isSome =
      advisor.pointcut.matchesMethod frame.method frame.cls := by
  unfold Chain.contribution?
  cases advisor.pointcut.matchesMethod frame.method frame.cls <;>
    cases advisor.pointcut.methodMatcher.isRuntime <;> rfl

theorem length_resolve (advisors : List (Advisor σ)) :
    (Chain.resolve advisors frame.method frame.cls).length = Advisor.entries frame advisors := by
  rw [Chain.resolve, List.length_filterMap_eq_countP]
  simp only [isSome_contribution]
  rfl

/-- The chain without its entries for the advisors passed is the chain of the others. -/
theorem getElem?_resolve (passed rest : List (Advisor σ)) :
    (Chain.resolve (passed ++ rest) frame.method frame.cls)[Advisor.entries frame passed]? =
      (Chain.resolve rest frame.method frame.cls).head? := by
  rw [← length_resolve, Chain.resolve, List.filterMap_append, ← Chain.resolve, ← Chain.resolve,
    List.getElem?_append_right (Nat.le_refl _), Nat.sub_self, List.head?_eq_getElem?]

theorem entries_pass (passed : List (Advisor σ)) (advisor : Advisor σ) :
    Advisor.entries frame (passed ++ [advisor]) = Advisor.entries frame passed +
      if advisor.pointcut.matchesMethod frame.method frame.cls then 1 else 0 := by
  rw [Advisor.entries, List.countP_append, List.countP_singleton]
  rfl

end

/-! ### The same course -/

section
variable (frame : CallFrame) (call : Proxy → Method → Arguments → Course σ Outcome)

def InPlace (place : Nat) (left : Progress) (right : Arguments) : Prop := left = ⟨right, place⟩

def SameEnd {α : Type} (place : Nat) (left : α × Progress) (right : α × Arguments) : Prop :=
  left.1 = right.1 ∧ InPlace place left.2 right.2

theorem padded_returning (place elsewhere : Nat)
    {goOn : Progress → Course σ (Outcome × Progress)} {right : Course σ (Outcome × Arguments)}
    {args : Arguments}
    (same : Dialogue.Padded Operation.isSkip (SameEnd elsewhere) (goOn ⟨args, place⟩) right) :
    Dialogue.Padded Operation.isSkip (SameEnd place) (Progress.returning goOn ⟨args, place⟩)
      right := by
  rw [← bind_pure right]
  refine same.bind ?_
  intro ended other atEnd
  exact .done ⟨atEnd.1, congrArg (Progress.mk · place) (congrArg Progress.arguments atEnd.2)⟩

theorem padded_advice (place : Nat) {further : Progress → Course σ (Outcome × Progress)}
    {proceed : Arguments → Course σ (Outcome × Arguments)}
    (same : ∀ args,
      Dialogue.Padded Operation.isSkip (SameEnd place) (further ⟨args, place⟩) (proceed args))
    (interceptor : Interceptor σ) (args : Arguments) :
    Dialogue.Padded Operation.isSkip (SameEnd place)
      (Interceptor.course frame call further interceptor ⟨args, place⟩)
      (Interceptor.inPlace frame call place proceed interceptor args) := by
  have moved : Dialogue.Padded Operation.isSkip (SameEnd place)
      (interceptor.translate (AroundRequest.course frame call further) ⟨args, place⟩)
      (interceptor.translate (AroundRequest.inPlace frame call place proceed) args) := by
    refine Dialogue.Padded.translate (InPlace place) ?_ interceptor _ _ rfl
    rintro request _ args rfl
    cases request with
    | engine request =>
      refine (Dialogue.Padded.refl (request.course call)).bind ?_
      rintro answer _ rfl
      exact .done ⟨rfl, rfl⟩
    | view | setArguments => exact .done ⟨rfl, rfl⟩
    | proceed => exact same args
  exact .ask (Operation.advise interceptor args) fun _ => moved

/-- From the place behind the advisors passed, a chain goes the course read off the others. -/
theorem padded_proceed (rest passed : List (Advisor σ)) (args : Arguments) :
    Dialogue.Padded Operation.isSkip (SameEnd (Advisor.entries frame passed))
      (Chain.proceed frame call (Chain.resolve (passed ++ rest) frame.method frame.cls)
        ⟨args, Advisor.entries frame passed⟩)
      (Advisor.proceed frame call passed rest args) := by
  induction rest generalizing passed args with
  | nil =>
    have reached : Dialogue.Padded Operation.isSkip (SameEnd (Advisor.entries frame passed))
        (frame.reachTarget ⟨args, Advisor.entries frame passed⟩)
        (Advisor.proceed frame call passed [] args) :=
      .ask (Operation.query (.emit (.chainEnded frame.method))) fun _ =>
        .ask (Operation.dispatch frame.cls frame.target frame.method args) fun _ => .done ⟨rfl, rfl⟩
    rw [proceed_ended frame call (getElem?_resolve frame passed [])]
    exact padded_returning _ _ reached
  | cons advisor rest ih =>
    -- The chain stays the chain of all advisors; it is the place in it that moves on.
    generalize resolved : Chain.resolve (passed ++ advisor :: rest) frame.method frame.cls = chain
    have next := getElem?_resolve frame passed (advisor :: rest)
    have place := entries_pass frame passed advisor
    have onwards (args : Arguments) := ih (passed ++ [advisor]) args
    rw [← List.append_cons, resolved] at onwards
    rw [resolved] at next
    rw [Advisor.proceed]
    cases eligible : advisor.pointcut.matchesMethod frame.method frame.cls with
    | false =>
      have refused : ¬ advisor.pointcut.matchesCall frame.method frame.cls args = true := by
        intro matched
        rw [Pointcut.matchesMethod_of_matchesCall matched] at eligible
        contradiction
      rw [eligible, if_neg Bool.false_ne_true, Nat.add_zero] at place
      rw [if_neg refused, ← place]
      exact onwards args
    | true =>
      rw [eligible, if_pos rfl] at place
      have passing : Progress.passing ⟨args, Advisor.entries frame passed⟩ =
          ⟨args, Advisor.entries frame (passed ++ [advisor])⟩ := by
        rw [place]
        rfl
      have taken := padded_advice frame call _ onwards advisor.advice.interceptor args
      have passedOver : Dialogue.Padded Operation.isSkip _ (do
          Course.emit (.advisorSkipped advisor.name frame.method)
          Chain.proceed frame call chain ⟨args, Advisor.entries frame (passed ++ [advisor])⟩) _ :=
        .pad (Operation.query (.emit (.advisorSkipped advisor.name frame.method))) rfl
          fun _ => onwards args
      rw [← passing] at taken passedOver
      cases runtime : advisor.pointcut.methodMatcher.isRuntime with
      | false =>
        have entry : (Chain.resolve (advisor :: rest) frame.method frame.cls).head? =
            some (.fixed advisor.advice.interceptor) := by
          simp [Chain.resolve, Chain.contribution?, eligible, runtime]
        rw [proceed_fixed frame call (next.trans entry),
          Pointcut.matchesCall_of_static runtime, eligible, if_pos rfl]
        exact padded_returning _ _ taken
      | true =>
        have entry : (Chain.resolve (advisor :: rest) frame.method frame.cls).head? =
            some (.dynamic advisor.advice.interceptor advisor) := by
          simp [Chain.resolve, Chain.contribution?, eligible, runtime]
        rw [proceed_dynamic frame call (next.trans entry),
          Pointcut.matchesCall_of_runtime runtime, eligible, Bool.true_and]
        refine padded_returning _ (Advisor.entries frame (passed ++ [advisor])) ?_
        split
        · exact taken
        · exact passedOver

/-- Proceeding along the resolved chain, from behind the entries of the advisors passed, is the
reading of the other advisors: the same outcome with the same arguments, the same state, and the
same exchanges in the same order, but for the notes about skipped entries. Wherever the chain is
entered, it comes back to that position; the `proceed` of advice is the chain entered one place
further on, so that each time it runs the same course behind that place. -/
theorem proceed_reads_advisors (setup : Setup σ) (passed rest : List (Advisor σ))
    (args : Arguments) (state : State σ) :
    let chain := Chain.resolve (passed ++ rest) frame.method frame.cls
    let start : Progress := ⟨args, Advisor.entries frame passed⟩
    let proceeded := Chain.proceed frame call chain start
    let read := Advisor.proceed frame call passed rest args
    (proceeded.run setup.perform state).1 =
        ((read.run setup.perform state).1.1, ⟨(read.run setup.perform state).1.2, start.position⟩) ∧
      (proceeded.run setup.perform state).2.showing (fun event => !event.isSkip) =
        (read.run setup.perform state).2.showing (fun event => !event.isSkip) ∧
      (proceeded.transcript setup.perform state).filter (fun exchange => !exchange.1.isSkip) =
        (read.transcript setup.perform state).filter (fun exchange => !exchange.1.isSkip) ∧
      ∀ progress now, ((Chain.proceed frame call chain progress).run setup.perform now).1.2.position =
        progress.position := by
  intro chain start proceeded read
  have answered (operation : Operation σ) (first second : State σ)
      (alike : first.showing (fun event => !event.isSkip) =
        second.showing (fun event => !event.isSkip)) :=
    (setup.logBlind_perform operation).showing alike
  have skipped (operation : Operation σ) (first second : State σ) (skip : operation.isSkip = true)
      (alike : first.showing (fun event => !event.isSkip) =
        second.showing (fun event => !event.isSkip)) :=
    (showing_skip setup skip first).trans alike
  obtain ⟨⟨outcome, place⟩, states, exchanges⟩ :=
    (padded_proceed frame call rest passed args).run setup.perform answered skipped state state rfl
  refine ⟨Prod.ext outcome place, states, exchanges, fun progress now => ?_⟩
  rw [Chain.proceed, Progress.returning, Dialogue.run_bind]
  rfl

end

end Weave
