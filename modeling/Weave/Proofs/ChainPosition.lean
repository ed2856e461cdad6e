import Weave.Engine

/-! The position along a chain. It is counted forth before advice runs and set back when the chain
returns, so each piece of advice runs in a place of its own, and what its `proceed` does is what the
whole chain does one place further on. -/

namespace Weave

variable [ValueTypes] {σ : Type}

section
variable (frame : CallFrame) (call : Proxy → Method → Arguments → Course σ Outcome)

def AroundRequest.inPlace (place : Nat) (proceed : Arguments → Course σ (Outcome × Arguments)) :
    (request : AroundRequest σ) → Arguments → Course σ (request.Answer × Arguments)
  | .engine request, args => do return (← request.course call, args)
  | .view, args => return (frame.view ⟨args, place⟩, args)
  | .setArguments args, _ => return ((), args)
  | .proceed, args => proceed args

def Interceptor.inPlace (place : Nat) (proceed : Arguments → Course σ (Outcome × Arguments))
    (interceptor : Interceptor σ) (args : Arguments) : Course σ (Outcome × Arguments) := do
  Course.perform (.advise interceptor args)
  interceptor.translate (AroundRequest.inPlace frame call place proceed) args

def Progress.onFrom (place : Nat) (goOn : Progress → Course σ (Outcome × Progress))
    (args : Arguments) : Course σ (Outcome × Arguments) := do
  let ended ← goOn ⟨args, place⟩
  return (ended.1, ended.2.arguments)

theorem advice_inPlace (place : Nat) (goOn : Progress → Course σ (Outcome × Progress))
    (interceptor : Interceptor σ) (args : Arguments) :
    Interceptor.course frame call (Progress.returning goOn) interceptor ⟨args, place⟩ =
      (do
        let ended ← Interceptor.inPlace frame call place (Progress.onFrom place goOn) interceptor args
        return (ended.1, ⟨ended.2, place⟩)) := by
  unfold Interceptor.course Interceptor.inPlace
  rw [bind_assoc]
  refine bind_congr fun _ => Dialogue.translate_embedded (Progress.mk · place) ?_ interceptor args
  intro request args
  cases request with
  | engine request => simp only [AroundRequest.course, AroundRequest.inPlace, bind_assoc, pure_bind]
  | view | setArguments => rfl
  | proceed =>
    simp only [AroundRequest.course, AroundRequest.inPlace, Progress.returning, Progress.onFrom,
      bind_assoc, pure_bind]

theorem advice_congr (place : Nat) {first second : Progress → Course σ (Outcome × Progress)}
    (same : ∀ args, first ⟨args, place⟩ = second ⟨args, place⟩) (interceptor : Interceptor σ)
    (args : Arguments) :
    Interceptor.course frame call (Progress.returning first) interceptor ⟨args, place⟩ =
      Interceptor.course frame call (Progress.returning second) interceptor ⟨args, place⟩ := by
  have alike : Progress.onFrom place first = Progress.onFrom place second := by
    funext args
    rw [Progress.onFrom, Progress.onFrom, same]
  rw [advice_inPlace, advice_inPlace, alike]

/-- It makes no difference if more entries are allowed for than there are. -/
theorem advance_enough (chain : Chain σ) (fewer more : Nat) (progress : Progress)
    (enough : chain.length ≤ progress.position + fewer) (above : fewer ≤ more) :
    Chain.advance frame call chain fewer progress = Chain.advance frame call chain more progress := by
  induction fewer generalizing more progress with
  | zero =>
    have ended : chain[progress.position]? = none := List.getElem?_eq_none enough
    cases more with
    | zero => rfl
    | succ more => simp only [Chain.advance, ended]
  | succ fewer ih =>
    obtain ⟨more, rfl⟩ : ∃ least, more = least + 1 := ⟨more - 1, by omega⟩
    have further (args : Arguments) :
        Chain.advance frame call chain fewer ⟨args, progress.position + 1⟩ =
          Chain.advance frame call chain more ⟨args, progress.position + 1⟩ := by
      apply ih
      · change chain.length ≤ progress.position + 1 + fewer
        omega
      · omega
    have advised (interceptor : Interceptor σ) :=
      advice_congr frame call (progress.position + 1) further interceptor progress.arguments
    unfold Chain.advance
    split
    · rfl
    · exact advised _
    · split
      · exact advised _
      · exact bind_congr fun _ => further progress.arguments

/-! ### One entry at a time -/

section
variable {chain : Chain σ} {progress : Progress}

theorem proceed_ended (found : chain[progress.position]? = none) :
    Chain.proceed frame call chain progress = Progress.returning frame.reachTarget progress := by
  unfold Chain.proceed Progress.returning
  rw [← advance_enough frame call chain 0 chain.length progress (List.getElem?_eq_none_iff.1 found)
    (Nat.zero_le _), Chain.advance]

theorem advance_behind (entry : ChainEntry σ) (found : chain[progress.position]? = some entry) :
    ∃ least, chain.length = least + 1 ∧ ∀ args,
      Chain.advance frame call chain least ⟨args, progress.position + 1⟩ =
        Chain.advance frame call chain chain.length ⟨args, progress.position + 1⟩ := by
  obtain ⟨within, -⟩ := List.getElem?_eq_some_iff.1 found
  refine ⟨chain.length - 1, by omega, fun args => ?_⟩
  apply advance_enough
  · change chain.length ≤ progress.position + 1 + (chain.length - 1)
    omega
  · omega

/-- The `proceed` of advice is that of its chain, one place further on. -/
theorem proceed_fixed {interceptor : Interceptor σ}
    (found : chain[progress.position]? = some (.fixed interceptor)) :
    Chain.proceed frame call chain progress =
      Progress.returning (fun progress =>
        Interceptor.course frame call (Chain.proceed frame call chain) interceptor progress.passing)
        progress := by
  obtain ⟨least, length, behind⟩ := advance_behind frame call _ found
  have advised := advice_congr frame call _ behind interceptor progress.arguments
  unfold Progress.returning
  change (Chain.advance frame call chain chain.length progress >>= _) = _
  rw [length, Chain.advance, found]
  exact congrArg (· >>= _) advised

theorem proceed_dynamic {interceptor : Interceptor σ} {advisor : Advisor σ}
    (found : chain[progress.position]? = some (.dynamic interceptor advisor)) :
    Chain.proceed frame call chain progress =
      Progress.returning (fun progress =>
        if advisor.pointcut.methodMatcher.matchesCall frame.method frame.cls progress.arguments then
          Interceptor.course frame call (Chain.proceed frame call chain) interceptor progress.passing
        else do
          Course.emit (.advisorSkipped advisor.name frame.method)
          Chain.proceed frame call chain progress.passing) progress := by
  obtain ⟨least, length, behind⟩ := advance_behind frame call _ found
  have advised := advice_congr frame call _ behind interceptor progress.arguments
  unfold Progress.returning
  change (Chain.advance frame call chain chain.length progress >>= _) = _
  rw [length, Chain.advance, found]
  by_cases taken :
    advisor.pointcut.methodMatcher.matchesCall frame.method frame.cls progress.arguments = true
  · simp only [taken, if_true]
    exact congrArg (· >>= _) advised
  · simp only [taken, Bool.false_eq_true, if_false, bind_assoc]
    refine bind_congr fun _ => ?_
    change (Chain.advance frame call chain least ⟨progress.arguments, progress.position + 1⟩ >>= _) =
      (Progress.returning (Chain.advance frame call chain chain.length)
        ⟨progress.arguments, progress.position + 1⟩ >>= _)
    rw [behind, Progress.returning, bind_assoc]
    rfl

end

end

end Weave
