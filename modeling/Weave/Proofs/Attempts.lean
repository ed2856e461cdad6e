import Mathlib.Algebra.BigOperators.Group.List.Basic
import Mathlib.Order.Bounds.Basic
import Weave.Engine
import Weave.Interceptors
import Weave.Proofs.Transcript

/-! Trying again. Advice that retries lets its call go on until an attempt settles it: one that
succeeds, the last one allowed, or one whose failure the condition is against. Nothing is asked that
cannot matter: a condition is asked once about each failure after which another attempt is allowed. -/

namespace Weave

variable [ValueTypes] {σ : Type}

/-! ### A row of attempts -/

def AroundRequest.isProceed : AroundRequest σ → Bool
  | proceed => true
  | _ => false

namespace Retry

def note (retry : Retry σ) (number : Nat) (fault : Fault) : Around σ Unit := do
  let point ← Around.joinPoint
  Around.act (Action.emit (.retrying point.method number retry.maxAttempts fault))

def resume (retry : Retry σ) (further number : Nat) : Outcome → Around σ Outcome
  | .ok value => return .ok value
  | .error fault => do
    if ← Around.act (retry.shouldRetry fault) then
      retry.note number fault
      retry.attempts further (number + 1)
    else return .error fault

theorem attempts_succ (retry : Retry σ) (further number : Nat) :
    retry.attempts (further + 1) number = Around.proceed >>= retry.resume further number := by
  refine congrArg (Dialogue.ask _) (funext fun outcome => ?_)
  cases outcome <;> rfl

section
variable {ω : Type} (reply : (request : AroundRequest σ) → ω → request.Answer × ω)
  (retry : Retry σ)

def judge (fault : Fault) (world : ω) : Bool × ω :=
  (Around.act (retry.shouldRetry fault)).run reply world

/-- The condition is against another attempt after the one that starts in this world. -/
def Rejects (world : ω) : Prop :=
  ∃ fault, (reply .proceed world).1 = .error fault ∧
    (retry.judge reply fault (reply .proceed world).2).1 = false

/-- No other attempt follows the one of this number, which starts in this world. -/
def Settles (number : Nat) (world : ω) : Prop :=
  (∃ value, (reply .proceed world).1 = .ok value) ∨ number = retry.maxAttempts ∨
    retry.Rejects reply world

def left (number : Nat) (world : ω) : ω :=
  match reply .proceed world with
  | (.ok _, after) => after
  | (.error fault, after) =>
    ((retry.note number fault).run reply (retry.judge reply fault after).2).2

/-- The world in which an attempt starts, if there were so many earlier ones, one after another. -/
def worldAfter (start : ω) : (earlier : Nat) → ω
  | 0 => start
  | earlier + 1 => retry.left reply (earlier + 1) (worldAfter start earlier)

/-- What is asked in the attempt of a number, which starts in this world. The call goes on; about a
failure the condition is asked if another attempt is allowed, and a note is written if one follows. -/
def exchanges (follows : Bool) (number : Nat) (world : ω) :
    List (Dialogue.Exchange (AroundRequest σ) AroundRequest.Answer) :=
  ⟨.proceed, (reply .proceed world).1⟩ ::
    match reply .proceed world with
    | (.ok _, _) => []
    | (.error fault, after) =>
      (if number < retry.maxAttempts then
        (Around.act (retry.shouldRetry fault)).transcript reply after else []) ++
      if follows then (retry.note number fault).transcript reply (retry.judge reply fault after).2
      else []

variable {reply retry}

theorem repeats_of_not_settles {number : Nat} {world : ω}
    (unsettled : ¬ retry.Settles reply number world) :
    ∃ fault after judged, reply .proceed world = (.error fault, after) ∧
      retry.judge reply fault after = (true, judged) := by
  rw [Settles, not_or, not_or, Rejects] at unsettled
  obtain ⟨failed, -, accepted⟩ := unsettled
  cases came : reply .proceed world with
  | mk outcome after =>
    rw [came] at failed accepted
    cases outcome with
    | ok value => exact absurd ⟨value, rfl⟩ failed
    | error fault =>
      cases verdict : retry.judge reply fault after with
      | mk again judged =>
        cases again with
        | true => exact ⟨fault, after, judged, rfl, verdict⟩
        | false => exact absurd ⟨fault, rfl, congrArg Prod.fst verdict⟩ accepted

section
variable {number : Nat} {world after : ω}

theorem exchanges_ok {value : Value} (came : reply .proceed world = (.ok value, after))
    (follows : Bool) : retry.exchanges reply follows number world = [⟨.proceed, .ok value⟩] := by
  rw [exchanges, came]

theorem exchanges_error {fault : Fault} (came : reply .proceed world = (.error fault, after))
    (below : number < retry.maxAttempts) (follows : Bool) :
    retry.exchanges reply follows number world =
      ⟨.proceed, .error fault⟩ :: ((Around.act (retry.shouldRetry fault)).transcript reply after ++
        if follows then (retry.note number fault).transcript reply (retry.judge reply fault after).2
        else []) := by
  rw [exchanges, came]
  simp only [below, if_true]

theorem run_attempts_succ (further : Nat) :
    (retry.attempts (further + 1) number).run reply world =
      (retry.resume further number (reply .proceed world).1).run reply (reply .proceed world).2 := by
  rw [attempts_succ]
  rfl

theorem transcript_attempts_succ (further : Nat) :
    (retry.attempts (further + 1) number).transcript reply world =
      ⟨.proceed, (reply .proceed world).1⟩ ::
        (retry.resume further number (reply .proceed world).1).transcript reply
          (reply .proceed world).2 := by
  rw [attempts_succ]
  rfl

end

/-- An attempt that settles the call is the last one. -/
theorem attempt_settling {further number : Nat} {world : ω}
    (allowed : number + further = retry.maxAttempts) (settles : retry.Settles reply number world) :
    ((retry.attempts further number).run reply world).1 = (reply .proceed world).1 ∧
      (retry.attempts further number).transcript reply world =
        retry.exchanges reply false number world := by
  cases further with
  | zero =>
    have last : ¬ number < retry.maxAttempts := by omega
    have asked : (retry.attempts 0 number).transcript reply world =
      [⟨.proceed, (reply .proceed world).1⟩] := rfl
    refine ⟨rfl, ?_⟩
    rw [asked, exchanges]
    simp only [last, if_false]
    cases reply .proceed world with
    | mk outcome after => cases outcome <;> rfl
  | succ further =>
    rw [run_attempts_succ, transcript_attempts_succ]
    cases came : reply .proceed world with
    | mk outcome after =>
      cases outcome with
      | ok value =>
        rw [exchanges_ok came]
        exact ⟨rfl, rfl⟩
      | error fault =>
        have rejected : (retry.judge reply fault after).1 = false := by
          rcases settles with ⟨value, succeeded⟩ | last | ⟨other, failed, against⟩
          · rw [came] at succeeded
            contradiction
          · omega
          · rw [came] at failed against
            exact Except.error.inj failed ▸ against
        rw [judge] at rejected
        rw [exchanges_error came (by omega)]
        simp only [resume, Dialogue.run_bind, Dialogue.transcript_bind, rejected]
        exact ⟨rfl, rfl⟩

theorem attempt_followed {further number : Nat} {world : ω}
    (allowed : number + (further + 1) = retry.maxAttempts)
    (unsettled : ¬ retry.Settles reply number world) :
    (retry.attempts (further + 1) number).run reply world =
        (retry.attempts further (number + 1)).run reply (retry.left reply number world) ∧
      (retry.attempts (further + 1) number).transcript reply world =
        retry.exchanges reply true number world ++
          (retry.attempts further (number + 1)).transcript reply
            (retry.left reply number world) := by
  obtain ⟨fault, after, judged, came, verdict⟩ := repeats_of_not_settles unsettled
  rw [run_attempts_succ, transcript_attempts_succ, exchanges_error came (by omega), left, came]
  rw [judge] at verdict
  simp only [resume, judge, Dialogue.run_bind, Dialogue.transcript_bind, verdict, if_true,
    List.cons_append, List.append_assoc, and_self]

/-- From any attempt on, attempts are made until one settles the call. -/
theorem attempts_settle (start : ω) (further earlier : Nat)
    (allowed : earlier + 1 + further = retry.maxAttempts) :
    let world := retry.worldAfter reply start
    let trying := retry.attempts further (earlier + 1)
    ∃ more ≤ further,
      retry.Settles reply (earlier + more + 1) (world (earlier + more)) ∧
      (∀ other < more, ¬ retry.Settles reply (earlier + other + 1) (world (earlier + other))) ∧
      (trying.run reply (world earlier)).1 = (reply .proceed (world (earlier + more))).1 ∧
      trying.transcript reply (world earlier) =
        ((List.range' earlier more).flatMap fun other =>
          retry.exchanges reply true (other + 1) (world other)) ++
          retry.exchanges reply false (earlier + more + 1) (world (earlier + more)) := by
  intro world trying
  induction further generalizing earlier with
  | zero =>
    have settles : retry.Settles reply (earlier + 1) (world earlier) := .inr (.inl allowed)
    obtain ⟨came, asked⟩ := attempt_settling allowed settles
    exact ⟨0, le_rfl, settles, fun other less => absurd less (Nat.not_lt_zero _), came, asked⟩
  | succ further ih =>
    by_cases settles : retry.Settles reply (earlier + 1) (world earlier)
    · obtain ⟨came, asked⟩ := attempt_settling allowed settles
      exact ⟨0, Nat.zero_le _, settles, fun other less => absurd less (Nat.not_lt_zero _), came,
        asked⟩
    · obtain ⟨ran, asked⟩ := attempt_followed (by omega) settles
      obtain ⟨more, within, last, before, came, onwards⟩ := ih (earlier + 1) (by omega)
      have place (count : Nat) : earlier + 1 + count = earlier + (count + 1) := by omega
      simp only [place] at last before came onwards
      refine ⟨more + 1, by omega, last, ?_, (congrArg Prod.fst ran).trans came, ?_⟩
      · rintro (_ | other) less
        · exact settles
        · exact before other (by omega)
      · rw [List.range'_succ, List.flatMap_cons, List.append_assoc]
        exact asked.trans (congrArg _ onwards)

theorem countP_act {α : Type} (action : Action σ α) (world : ω) :
    ((Around.act action).transcript reply world).countP (·.1.isProceed) = 0 := by
  induction action generalizing world with
  | done result => rfl
  | ask request next ih =>
    change List.countP _ (⟨.engine request, _⟩ :: (Around.act (next _)).transcript reply _) = 0
    rw [List.countP_cons_of_neg Bool.false_ne_true]
    exact ih _ _

theorem countP_note (number : Nat) (fault : Fault) (world : ω) :
    ((retry.note number fault).transcript reply world).countP (·.1.isProceed) = 0 := rfl

theorem countP_exchanges (follows : Bool) (number : Nat) (world : ω) :
    (retry.exchanges reply follows number world).countP (·.1.isProceed) = 1 := by
  rw [exchanges, List.countP_cons_of_pos rfl, Nat.add_eq_right]
  cases reply .proceed world with
  | mk outcome after =>
    cases outcome with
    | ok value => rfl
    | error fault =>
      simp only [List.countP_append, apply_ite (List.countP _), countP_act, countP_note,
        List.countP_nil, ite_self, Nat.add_zero]

end

end Retry

/-! ### Retrying in a chain -/

/-- How the engine answers advice around a call: by running what the request comes to, from how far
the call has come and the state at that point. -/
def CallFrame.serve (frame : CallFrame) (setup : Setup σ)
    (call : Proxy → Method → Arguments → Course σ Outcome)
    (proceed : Progress → Course σ (Outcome × Progress)) (request : AroundRequest σ)
    (now : Progress × State σ) : request.Answer × (Progress × State σ) :=
  let ended := (request.course frame call proceed now.1).run setup.perform now.2
  (ended.1.1, (ended.1.2, ended.2))

theorem run_advice (frame : CallFrame) (setup : Setup σ)
    (call : Proxy → Method → Arguments → Course σ Outcome)
    (proceed : Progress → Course σ (Outcome × Progress)) (interceptor : Interceptor σ)
    (progress : Progress) (state : State σ) :
    (Interceptor.course frame call proceed interceptor progress).run setup.perform state =
      let ended := interceptor.run (frame.serve setup call proceed) (progress, state)
      ((ended.1, ended.2.1), ended.2.2) := by
  change (interceptor.translate _ progress).run setup.perform state = _
  induction interceptor generalizing progress state with
  | done outcome => rfl
  | ask request next ih =>
    rw [Dialogue.translate_ask, Dialogue.run_bind]
    exact ih _ _ _

/-- Advice that retries goes on with its call up to the first attempt that succeeds, or is the last one
allowed, or fails in a way that its condition is against, and returns what came of that attempt. At
least one attempt is allowed. Each attempt enters the rest of the chain once, and the condition is
asked once about each failure, but not about that of the last attempt allowed. Where there is room
for the limit, there is room for the number of every attempt. -/
theorem retry_proceeds_until_settled (setup : Setup σ) (frame : CallFrame)
    (call : Proxy → Method → Arguments → Course σ Outcome)
    (proceed : Progress → Course σ (Outcome × Progress)) (limit : Nat)
    (condition : Option (Fault → Action σ Bool)) (progress : Progress) (state : State σ) :
    let retry := Retry.ofLimit limit condition
    let serve := frame.serve setup call proceed
    let world number := retry.worldAfter serve (progress, state) (number - 1)
    let came number : Outcome := (serve .proceed (world number)).1
    let asked := retry.interceptor.transcript serve (progress, state)
    let course := Interceptor.course frame call proceed retry.interceptor progress
    ∃ count,
      IsLeast {number | 1 ≤ number ∧ ((∃ value, came number = .ok value) ∨ number = max limit 1 ∨
        retry.Rejects serve (world number))} count ∧
      (course.run setup.perform state).1.1 = came count ∧
      asked.countP (·.1.isProceed) = count ∧
      asked = ((List.range' 1 (count - 1)).flatMap fun number =>
          retry.exchanges serve true number (world number)) ++
        retry.exchanges serve false count (world count) ∧
      ∀ width, max limit 1 < 2 ^ width → ∀ number < count,
        (BitVec.ofNat width number + 1).toNat = number + 1 := by
  intro retry serve world came asked course
  have allowed : 0 + 1 + (retry.maxAttempts - 1) = retry.maxAttempts := by
    have := retry.atLeastOne
    omega
  obtain ⟨more, within, settles, before, outcome, exchanged⟩ :=
    @Retry.attempts_settle _ _ _ serve retry (progress, state) _ 0 allowed
  simp only [Nat.zero_add] at settles before outcome exchanged
  change asked = _ at exchanged
  refine ⟨more + 1, ⟨⟨Nat.le_add_left 1 more, settles⟩, ?_⟩, ?_, ?_, ?_, ?_⟩
  · rintro number ⟨first, settled⟩
    by_contra earlier
    refine before (number - 1) (by omega) ?_
    rw [Nat.sub_add_cancel first]
    exact settled
  · rw [run_advice]
    exact outcome
  · rw [exchanged, List.countP_append, List.countP_flatMap]
    simp [Function.comp_def, Retry.countP_exchanges]
  · rw [exchanged, Nat.add_sub_cancel, List.range'_eq_map_range, List.range'_eq_map_range,
      List.flatMap_map, List.flatMap_map]
    simp [world, Nat.add_comm]
  · intro width room number below
    have bound : number + 1 < 2 ^ width := by
      change _ = max limit 1 at allowed
      omega
    simp [BitVec.toNat_add, Nat.mod_eq_of_lt bound]

/-- Where no attempt is allowed, one is made. -/
example : (Retry.ofLimit 0 : Retry σ).interceptor = Around.proceed := rfl

end Weave
