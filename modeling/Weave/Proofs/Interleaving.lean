import Weave.Engine
import Weave.Proofs.Transcript

/-! Calls within calls. A call itself does little: it looks for its chain, begins pieces of advice,
asks what they ask, and goes to its target. All else that happens while it is under way belongs to
the calls that advice makes, and each of these is there as a whole. -/

namespace Weave

variable [ValueTypes] {σ : Type}

def Operation.isDispatch : Operation σ → Bool
  | dispatch _ _ _ _ => true
  | _ => false

abbrev Exchange (σ : Type) : Type := Dialogue.Exchange (Operation σ) Operation.Answer

/-- Every operation is one of these `own` ones, but for whole calls made in between. -/
inductive Interleaved (own : Operation σ → Prop) (whole : List (Exchange σ) → Prop) :
    List (Exchange σ) → Prop
  | nil : Interleaved own whole []
  | own {exchange : Exchange σ} {rest : List (Exchange σ)} (mine : own exchange.1)
      (onwards : Interleaved own whole rest) : Interleaved own whole (exchange :: rest)
  | call {nested rest : List (Exchange σ)} (entire : whole nested)
      (onwards : Interleaved own whole rest) : Interleaved own whole (nested ++ rest)

theorem Interleaved.append {own : Operation σ → Prop} {whole : List (Exchange σ) → Prop}
    {first second : List (Exchange σ)} (before : Interleaved own whole first)
    (behind : Interleaved own whole second) : Interleaved own whole (first ++ second) := by
  induction before with
  | nil => exact behind
  | own mine onwards ih => exact .own mine ih
  | call entire onwards ih =>
    rw [List.append_assoc]
    exact .call entire ih

/-! ### Inside a call -/

section
variable (setup : Setup σ) {call : Proxy → Method → Arguments → Course σ Outcome}
  {own : Operation σ → Prop} {whole : List (Exchange σ) → Prop}
  (calls : ∀ proxy method args state, whole ((call proxy method args).transcript setup.perform state))
  (queries : ∀ query, own (.query query))
include calls queries

theorem interleaved_request (request : Request σ) (state : State σ) :
    Interleaved own whole ((request.course call).transcript setup.perform state) := by
  cases request with
  | query query => exact .own (queries query) .nil
  | call proxy method args =>
    rw [← List.append_nil (Dialogue.transcript _ _ _)]
    exact .call (calls proxy method args state) .nil

theorem interleaved_action {α : Type} (action : Action σ α) (state : State σ) :
    Interleaved own whole ((action.course call).transcript setup.perform state) := by
  unfold Action.course
  rw [Dialogue.transcript_bind_pure]
  refine Dialogue.transcript_translate _ _ _ .nil (fun _ _ => .append) ?_ action () state
  intro request world state
  rw [Dialogue.transcript_bind_pure]
  exact interleaved_request setup calls queries request state

variable (advice : ∀ interceptor args, own (.advise interceptor args))
include advice

theorem interleaved_advice (frame : CallFrame) {proceed : Progress → Course σ (Outcome × Progress)}
    (behind : ∀ progress state,
      Interleaved own whole ((proceed progress).transcript setup.perform state))
    (interceptor : Interceptor σ) (progress : Progress) (state : State σ) :
    Interleaved own whole ((Interceptor.course frame call proceed interceptor progress).transcript
      setup.perform state) := by
  refine .own (advice _ _) ?_
  refine Dialogue.transcript_translate _ _ _ .nil (fun _ _ => .append) ?_ interceptor progress _
  intro request progress state
  cases request with
  | engine request =>
    simp only [AroundRequest.course]
    rw [Dialogue.transcript_bind_pure]
    exact interleaved_request setup calls queries request state
  | view | setArguments => exact .nil
  | proceed => exact behind progress state

omit calls queries advice in
theorem interleaved_returning {goOn : Progress → Course σ (Outcome × Progress)}
    (ahead : ∀ progress state, Interleaved own whole ((goOn progress).transcript setup.perform state))
    (progress : Progress) (state : State σ) :
    Interleaved own whole ((Progress.returning goOn progress).transcript setup.perform state) := by
  unfold Progress.returning
  rw [Dialogue.transcript_bind_pure]
  exact ahead progress state

theorem interleaved_advance (frame : CallFrame)
    (dispatch : ∀ args, own (.dispatch frame.cls frame.target frame.method args)) (chain : Chain σ)
    (ahead : Nat) (progress : Progress) (state : State σ) :
    Interleaved own whole
      ((Chain.advance frame call chain ahead progress).transcript setup.perform state) := by
  have atTarget (progress : Progress) (state : State σ) :
      Interleaved own whole ((frame.reachTarget (σ := σ) progress).transcript setup.perform state) :=
    .own (queries _) (.own (dispatch _) .nil)
  induction ahead generalizing progress state with
  | zero => exact atTarget progress state
  | succ ahead ih =>
    have advised (interceptor : Interceptor σ) :=
      interleaved_advice setup calls queries advice frame (interleaved_returning setup ih)
        interceptor progress.passing state
    unfold Chain.advance
    split
    · exact atTarget progress state
    · exact advised _
    · split
      · exact advised _
      · exact .own (queries _) (ih _ _)

theorem interleaved_callOn (snapshot : Snapshot σ) (proxy : Proxy) (target : Target)
    (method : Method) (args : Arguments) (chains : own (.findChain proxy.snapshot method))
    (dispatch : ∀ args, own (.dispatch snapshot.cls target method args)) (state : State σ) :
    Interleaved own whole
      ((snapshot.callOn call proxy target method args).transcript setup.perform state) := by
  refine .own chains ?_
  generalize (setup.perform (.findChain proxy.snapshot method) state).1 = chain
  generalize (setup.perform (.findChain proxy.snapshot method) state).2 = state
  change Interleaved own whole (Dialogue.transcript setup.perform (if chain.isEmpty then _ else _) state)
  split
  · exact .own (queries _) (.own (dispatch _) .nil)
  · rw [Dialogue.transcript_bind_pure]
    refine interleaved_returning setup ?_ _ _
    exact interleaved_advance setup calls queries advice _ dispatch _ _

end

end Weave
