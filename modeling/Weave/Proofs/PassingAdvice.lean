import Weave.Interceptors
import Weave.Engine

/-! Advice that passes a call through. It lets the call proceed once, with the arguments it found, and
hands on what came of it. Simple advice does so when it refuses nothing, and the ready-made advice
that only watches calls always does. -/

namespace Weave

variable [ValueTypes] {σ : Type}

def Setup.act {α : Type} (setup : Setup σ) (depth : Nat) (action : Action σ α) (state : State σ) :
    α × State σ :=
  (action.course (setup.call depth)).run setup.perform state

theorem course_ask {α : Type} (call : Proxy → Method → Arguments → Course σ Outcome)
    (request : Request σ) (next : request.Answer → Action σ α) :
    Action.course call (.ask request next) =
      request.course call >>= fun answer => (next answer).course call := by
  unfold Action.course
  rw [Dialogue.translate_ask]
  simp only [bind_assoc, pure_bind]

theorem act_ask {α : Type} (setup : Setup σ) (depth : Nat) (request : Request σ)
    (next : request.Answer → Action σ α) (state : State σ) :
    setup.act depth (.ask request next) state =
      setup.act depth (next ((request.course (setup.call depth)).run setup.perform state).1)
        ((request.course (setup.call depth)).run setup.perform state).2 := by
  unfold Setup.act
  rw [course_ask, Dialogue.run_bind]

/-- Advice around a call at a join point that proceeds once, if it has not yet got an outcome, leaves
the arguments alone and returns the outcome it got. Calls end in one of the `possible` ways. -/
inductive HandsOn (setup : Setup σ) (depth : Nat) (point : JoinPoint) (possible : Outcome → Prop) :
    Option Outcome → Around σ Outcome → State σ → Prop
  | finished (outcome : Outcome) (state : State σ) :
      HandsOn setup depth point possible (some outcome) (.done outcome) state
  | asking {got : Option Outcome} (request : Request σ) {next : request.Answer → Around σ Outcome}
      {state : State σ}
      (onwards : HandsOn setup depth point possible got
        (next ((request.course (setup.call depth)).run setup.perform state).1)
        ((request.course (setup.call depth)).run setup.perform state).2) :
      HandsOn setup depth point possible got (.ask (.engine request) next) state
  | looking {got : Option Outcome} {next : InvocationView → Around σ Outcome} {state : State σ}
      (onwards : ∀ view : InvocationView, view.point = point →
        HandsOn setup depth point possible got (next view) state) :
      HandsOn setup depth point possible got (.ask .view next) state
  | proceeding {next : Outcome → Around σ Outcome} {state : State σ}
      (onwards : ∀ outcome after, possible outcome →
        HandsOn setup depth point possible (some outcome) (next outcome) after) :
      HandsOn setup depth point possible none (.ask .proceed next) state

/-- Advice that lets a call at a join point through: it refuses nothing, and what is around the call
hands its outcome on. -/
inductive Advice.PassesThrough (setup : Setup σ) (depth : Nat) (point : JoinPoint)
    (possible : Outcome → Prop) : Advice σ → Prop
  | before {advice : JoinPoint → Action σ (Except Fault Unit)}
      (accepts : ∀ state, (setup.act depth (advice point) state).1 = .ok ()) :
      PassesThrough setup depth point possible (.before advice)
  | after (advice : JoinPoint → Action σ Unit) :
      PassesThrough setup depth point possible (.after advice)
  | afterReturning {advice : JoinPoint → Value → Action σ (Except Fault Unit)}
      (accepts : ∀ value, possible (.ok value) → ∀ state,
        (setup.act depth (advice point value) state).1 = .ok ()) :
      PassesThrough setup depth point possible (.afterReturning advice)
  | afterThrowing {advice : JoinPoint → Fault → Action σ (Except Fault Unit)}
      (accepts : ∀ fault, possible (.error fault) → ∀ state,
        (setup.act depth (advice point fault) state).1 = .ok ()) :
      PassesThrough setup depth point possible (.afterThrowing advice)
  | trace (withArguments : Bool) :
      PassesThrough setup depth point possible (.around (traceAdvice withArguments))
  | performance (threshold : Nat) :
      PassesThrough setup depth point possible (.around (performanceAdvice threshold))
  | exceptionLogging : PassesThrough setup depth point possible (.afterThrowing exceptionLogging)
  | around {interceptor : Interceptor σ}
      (handsOn : ∀ state, HandsOn setup depth point possible none interceptor state) :
      PassesThrough setup depth point possible (.around interceptor)

section
variable {setup : Setup σ} {depth : Nat} {point : JoinPoint} {possible : Outcome → Prop}

theorem HandsOn.act {α : Type} {got : Option Outcome} (action : Action σ α)
    {next : α → Around σ Outcome} {state : State σ}
    (onwards : HandsOn setup depth point possible got (next (setup.act depth action state).1)
      (setup.act depth action state).2) :
    HandsOn setup depth point possible got (Around.act action >>= next) state := by
  induction action generalizing state with
  | done result => exact onwards
  | ask request rest ih =>
    rw [act_ask] at onwards
    exact .asking request (ih _ onwards)

theorem HandsOn.emit {got : Option Outcome} (event : Event) {next : Unit → Around σ Outcome}
    {state : State σ}
    (onwards : ∀ after, HandsOn setup depth point possible got (next ()) after) :
    HandsOn setup depth point possible got (Around.act (Action.emit event) >>= next) state :=
  .act (Action.emit event) (onwards _)

theorem handsOn_afterThrowing {advice : JoinPoint → Fault → Action σ (Except Fault Unit)}
    (accepts : ∀ fault, possible (.error fault) → ∀ state,
      (setup.act depth (advice point fault) state).1 = .ok ()) (state : State σ) :
    HandsOn setup depth point possible none (Advice.afterThrowing advice).interceptor state := by
  refine .proceeding fun outcome after ends => ?_
  cases outcome with
  | ok value => exact .finished _ _
  | error fault =>
    refine .looking fun view same => .act _ ?_
    rw [same, accepts fault ends]
    exact .finished _ _

theorem Advice.PassesThrough.handsOn {advice : Advice σ}
    (passes : advice.PassesThrough setup depth point possible) (state : State σ) :
    HandsOn setup depth point possible none advice.interceptor state := by
  cases passes with
  | before accepts =>
    refine .looking fun view same => .act _ ?_
    rw [same, accepts]
    exact .proceeding fun outcome after _ => .finished outcome after
  | after advice =>
    exact .proceeding fun outcome _ _ => .looking fun _ _ => .act _ (.finished outcome _)
  | afterReturning accepts =>
    refine .proceeding fun outcome after ends => ?_
    cases outcome with
    | error fault => exact .finished _ _
    | ok value =>
      refine .looking fun view same => .act _ ?_
      rw [same, accepts value ends]
      exact .finished _ _
  | afterThrowing accepts => exact handsOn_afterThrowing accepts state
  | trace withArguments =>
    exact .looking fun _ _ => .emit _ fun _ => .proceeding fun outcome _ _ =>
      .emit _ fun after => .finished outcome after
  | performance threshold =>
    exact .act _ <| .proceeding fun outcome _ _ => .act _ <| .looking fun _ _ =>
      .emit _ fun after => .finished outcome after
  | exceptionLogging => exact handsOn_afterThrowing (fun _ _ _ => rfl) state
  | around handsOn => exact handsOn state

end

end Weave
