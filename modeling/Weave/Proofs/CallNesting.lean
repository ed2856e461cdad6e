import Weave.BasicTypes
import Weave.Proofs.Interleaving

/-! Calls hold their targets like brackets. A call fetches its target before anything else happens
and, unless the source is static, gives that target back when everything else is over. Whatever
advice does in between, the calls it makes lie wholly inside, so that fetching and giving back are
nested like the calls themselves. -/

namespace Weave

variable [ValueTypes] {σ : Type}

def Operation.movesTarget : Operation σ → Bool
  | fetch _ | giveBack _ _ => true
  | _ => false

def Setup.Proxied (setup : Setup σ) (source : Source σ) : Prop :=
  ∃ id, (setup.snapshots id).source = source

/-- What happens in calls, one after another. A call that gets no target does nothing else; a
target of a static source is never given back; any other is given back behind what happens in
between, where calls are nested in turn. -/
inductive Setup.Nested (setup : Setup σ) : List (Exchange σ) → Prop
  | nil : setup.Nested []
  | plain {exchange : Exchange σ} {rest : List (Exchange σ)}
      (unmoved : exchange.1.movesTarget = false) (onwards : setup.Nested rest) :
      setup.Nested (exchange :: rest)
  | refused {source : Source σ} {fault : Fault} {rest : List (Exchange σ)}
      (proxied : setup.Proxied source) (onwards : setup.Nested rest) :
      setup.Nested (⟨.fetch source, .error fault⟩ :: rest)
  | lent {source : Source σ} {target : Target} {rest : List (Exchange σ)}
      (proxied : setup.Proxied source) (static : source.isStatic = true)
      (onwards : setup.Nested rest) : setup.Nested (⟨.fetch source, .ok target⟩ :: rest)
  | returned {source : Source σ} {target : Target} {answer : Except Fault Unit}
      {during rest : List (Exchange σ)} (proxied : setup.Proxied source)
      (moving : source.isStatic = false) (inside : setup.Nested during)
      (onwards : setup.Nested rest) :
      setup.Nested (⟨.fetch source, .ok target⟩ :: during ++
        ⟨.giveBack source target, answer⟩ :: rest)

theorem Setup.Nested.append {setup : Setup σ} {first second : List (Exchange σ)}
    (before : setup.Nested first) (behind : setup.Nested second) :
    setup.Nested (first ++ second) := by
  induction before with
  | nil => exact behind
  | plain unmoved onwards ih => exact .plain unmoved ih
  | refused proxied onwards ih => exact .refused proxied ih
  | lent proxied static onwards ih => exact .lent proxied static ih
  | returned proxied moving inside onwards ihInside ih =>
    rw [List.append_assoc]
    exact .returned proxied moving inside ih

/-- Nothing moves a target but whole calls. -/
inductive Amid (whole : List (Exchange σ) → Prop) : List (Exchange σ) → Prop
  | nil : Amid whole []
  | plain {exchange : Exchange σ} {rest : List (Exchange σ)}
      (unmoved : exchange.1.movesTarget = false) (onwards : Amid whole rest) :
      Amid whole (exchange :: rest)
  | call {nested rest : List (Exchange σ)} (entire : whole nested) (onwards : Amid whole rest) :
      Amid whole (nested ++ rest)

namespace Amid

variable {whole : List (Exchange σ) → Prop}

theorem nested {setup : Setup σ} (calls : ∀ nested, whole nested → setup.Nested nested)
    {exchanges : List (Exchange σ)} (amid : Amid whole exchanges) : setup.Nested exchanges := by
  induction amid with
  | nil => exact .nil
  | plain unmoved onwards ih => exact .plain unmoved ih
  | call entire onwards ih => exact (calls _ entire).append ih

theorem unmoved (calls : ∀ nested, whole nested → ∀ exchange ∈ nested, exchange.1.movesTarget = false)
    {exchanges : List (Exchange σ)} (amid : Amid whole exchanges) :
    ∀ exchange ∈ exchanges, exchange.1.movesTarget = false := by
  induction amid with
  | nil => exact List.forall_mem_nil _
  | plain unmoved onwards ih => exact List.forall_mem_cons.2 ⟨unmoved, ih⟩
  | call entire onwards ih => exact List.forall_mem_append.2 ⟨calls _ entire, ih⟩

end Amid

theorem Interleaved.amid {whole : List (Exchange σ) → Prop} {exchanges : List (Exchange σ)}
    (unmoved : Interleaved (fun operation => operation.movesTarget = false) whole exchanges) :
    Amid whole exchanges := by
  induction unmoved with
  | nil => exact .nil
  | own mine onwards ih => exact .plain mine ih
  | call entire onwards ih => exact .call entire ih

/-- A course that moves no target. -/
def Setup.Still {α : Type} (setup : Setup σ) (course : Course σ α) : Prop :=
  ∀ state, ∀ exchange ∈ course.transcript setup.perform state, exchange.1.movesTarget = false

/-! ### Inside a call -/

section
variable (setup : Setup σ) {call : Proxy → Method → Arguments → Course σ Outcome}
  {whole : List (Exchange σ) → Prop}
  (calls : ∀ proxy method args state, whole ((call proxy method args).transcript setup.perform state))
include calls

theorem amid_action {α : Type} (action : Action σ α) (state : State σ) :
    Amid whole ((action.course call).transcript setup.perform state) := by
  apply Interleaved.amid
  exact interleaved_action setup calls (fun _ => rfl) action state

theorem amid_callOn (snapshot : Snapshot σ) (proxy : Proxy) (target : Target) (method : Method)
    (args : Arguments) (state : State σ) :
    Amid whole ((snapshot.callOn call proxy target method args).transcript setup.perform state) := by
  apply Interleaved.amid
  refine interleaved_callOn setup calls ?_ ?_ snapshot proxy target method args ?_ ?_ state
  all_goals intros; rfl

end

theorem callOn_still (setup : Setup σ) {call : Proxy → Method → Arguments → Course σ Outcome}
    (calls : ∀ proxy method args, setup.Still (call proxy method args)) (snapshot : Snapshot σ)
    (proxy : Proxy) (target : Target) (method : Method) (args : Arguments) :
    setup.Still (snapshot.callOn call proxy target method args) := by
  intro state
  have amid : Amid (fun nested => ∀ exchange ∈ nested, exchange.1.movesTarget = false)
      ((snapshot.callOn call proxy target method args).transcript setup.perform state) := by
    apply amid_callOn
    exact calls
  exact amid.unmoved fun _ whole => whole

/-! ### A whole call -/

def Source.complaint (source : Source σ) : Except Fault Unit → List (Exchange σ)
  | .ok _ => []
  | .error fault => [⟨.query (.emit (.releaseFailed source.cls.name fault)), ()⟩]

theorem transcript_perform {α : Type} (setup : Setup σ) (operation : Operation σ)
    (next : operation.Answer → Course σ α) (state : State σ) :
    (Course.perform operation >>= next).transcript setup.perform state =
      ⟨operation, (setup.perform operation state).1⟩ ::
        (next (setup.perform operation state).1).transcript setup.perform
          (setup.perform operation state).2 := rfl

theorem run_perform {α : Type} (setup : Setup σ) (operation : Operation σ)
    (next : operation.Answer → Course σ α) (state : State σ) :
    (Course.perform operation >>= next).run setup.perform state =
      (next (setup.perform operation state).1).run setup.perform
        (setup.perform operation state).2 := rfl

theorem transcript_release (setup : Setup σ) (source : Source σ) (target : Target)
    (state : State σ) :
    (source.release target).transcript setup.perform state =
      ⟨.giveBack source target, (source.putBack target state).1⟩ ::
        source.complaint (source.putBack target state).1 := by
  unfold Source.release
  rw [transcript_perform]
  simp only [Setup.perform]
  cases (source.putBack target state).1 <;> rfl

section
variable (setup : Setup σ) (depth : Nat) (proxy : Proxy) (method : Method) (args : Arguments)

/-- The exchanges of some call, from its beginning to its end. -/
def Setup.WholeCall (exchanges : List (Exchange σ)) : Prop :=
  ∃ proxy method args state,
    exchanges = (setup.call depth proxy method args).transcript setup.perform state

theorem wholeCall_call (state : State σ) :
    setup.WholeCall depth ((setup.call depth proxy method args).transcript setup.perform state) :=
  ⟨proxy, method, args, state, rfl⟩

theorem call_hidden (hidden : (setup.snapshots proxy.snapshot).exposes proxy.strategy method = false) :
    setup.call (depth + 1) proxy method args =
      return .error (.invocation (.methodNotProxied method.signature proxy.strategy)) := by
  simp only [Setup.call, hidden, Bool.false_eq_true, if_false]

variable {proxy method} (exposed : (setup.snapshots proxy.snapshot).exposes proxy.strategy method = true)
include exposed

theorem call_refused {before after : State σ} {fault : Fault}
    (refused : (setup.snapshots proxy.snapshot).source.take before = (.error fault, after)) :
    (setup.call (depth + 1) proxy method args).transcript setup.perform before =
        [⟨.fetch (setup.snapshots proxy.snapshot).source, .error fault⟩] ∧
      (setup.call (depth + 1) proxy method args).run setup.perform before = (.error fault, after) := by
  have fetched : setup.perform (.fetch (setup.snapshots proxy.snapshot).source) before =
    (.error fault, after) := refused
  simp only [Setup.call, exposed, if_true]
  rw [transcript_perform, run_perform, fetched]
  exact ⟨rfl, rfl⟩

variable {before after : State σ} {target : Target}
  (lent : (setup.snapshots proxy.snapshot).source.take before = (.ok target, after))
include lent

theorem call_static (static : (setup.snapshots proxy.snapshot).source.isStatic = true) :
    let body := (setup.snapshots proxy.snapshot).callOn (setup.call depth) proxy target method args
    (setup.call (depth + 1) proxy method args).transcript setup.perform before =
        ⟨.fetch (setup.snapshots proxy.snapshot).source, .ok target⟩ ::
          body.transcript setup.perform after ∧
      (setup.call (depth + 1) proxy method args).run setup.perform before =
        body.run setup.perform after := by
  intro body
  have fetched : setup.perform (.fetch (setup.snapshots proxy.snapshot).source) before =
    (.ok target, after) := lent
  simp only [Setup.call, exposed, static, if_true]
  rw [transcript_perform, run_perform, fetched]
  change _ :: Dialogue.transcript _ (body >>= pure) _ = _ ∧ Dialogue.run _ (body >>= pure) _ = _
  rw [bind_pure]
  exact ⟨rfl, rfl⟩

theorem call_returned (moving : (setup.snapshots proxy.snapshot).source.isStatic = false) :
    let source := (setup.snapshots proxy.snapshot).source
    let body := (setup.snapshots proxy.snapshot).callOn (setup.call depth) proxy target method args
    let ended := body.run setup.perform after
    let answer := (source.putBack target ended.2).1
    (setup.call (depth + 1) proxy method args).transcript setup.perform before =
        ⟨.fetch source, .ok target⟩ :: body.transcript setup.perform after ++
          ⟨.giveBack source target, answer⟩ :: source.complaint answer ∧
      (setup.call (depth + 1) proxy method args).run setup.perform before =
        (ended.1, ((source.release target).run setup.perform ended.2).2) := by
  intro source body ended answer
  have fetched : setup.perform (.fetch source) before = (.ok target, after) := lent
  simp only [Setup.call, exposed, moving, if_true, Bool.false_eq_true, if_false]
  rw [transcript_perform, run_perform, fetched]
  change _ :: Dialogue.transcript _ (body >>= fun outcome => source.release target >>= fun _ =>
      pure outcome) after = _ ∧
    Dialogue.run _ (body >>= fun outcome => source.release target >>= fun _ => pure outcome) after = _
  rw [Dialogue.transcript_bind, Dialogue.transcript_bind_pure, transcript_release,
    Dialogue.run_bind, Dialogue.run_bind]
  exact ⟨rfl, rfl⟩

end

/-- What a call does besides calls of advice: its own operations, and dispatching to a target that its
source supplied. -/
theorem interleaved_call (setup : Setup σ) {own : Operation σ → Prop} (depth : Nat) {proxy : Proxy}
    {method : Method} (args : Arguments) (now : State σ)
    (exposed : (setup.snapshots proxy.snapshot).exposes proxy.strategy method = true)
    (aside : ∀ operation, operation.isDispatch = false → own operation)
    (dispatch : ∀ target, ((setup.snapshots proxy.snapshot).source.take now).1 = .ok target →
      ∀ args, own (.dispatch (setup.snapshots proxy.snapshot).cls target method args)) :
    Interleaved own (setup.WholeCall depth)
      ((setup.call (depth + 1) proxy method args).transcript setup.perform now) := by
  cases taken : (setup.snapshots proxy.snapshot).source.take now with
  | mk outcome after =>
    cases outcome with
    | error fault =>
      rw [(call_refused setup depth args exposed taken).1]
      exact .own (aside _ rfl) .nil
    | ok target =>
      have inside : Interleaved own (setup.WholeCall depth)
          (((setup.snapshots proxy.snapshot).callOn (setup.call depth) proxy target method
            args).transcript setup.perform after) :=
        interleaved_callOn setup (wholeCall_call setup depth) (fun _ => aside _ rfl)
          (fun _ _ => aside _ rfl) _ _ _ _ _ (aside _ rfl)
          (dispatch target (congrArg Prod.fst taken)) _
      cases static : (setup.snapshots proxy.snapshot).source.isStatic with
      | true =>
        rw [(call_static setup depth args exposed taken static).1]
        exact .own (aside _ rfl) inside
      | false =>
        rw [(call_returned setup depth args exposed taken static).1]
        refine (Interleaved.own (aside _ rfl) inside).append (.own (aside _ rfl) ?_)
        generalize ((setup.snapshots proxy.snapshot).source.putBack _ _).1 = answer
        cases answer with
        | ok => exact .nil
        | error fault => exact .own (aside _ rfl) .nil

theorem nested_complaint (setup : Setup σ) (source : Source σ) (answer : Except Fault Unit) :
    setup.Nested (source.complaint answer) := by
  cases answer with
  | ok => exact .nil
  | error fault => exact .plain rfl .nil

/-- Everything that happens in a call is properly nested. -/
theorem call_nested (setup : Setup σ) (depth : Nat) (proxy : Proxy) (method : Method)
    (args : Arguments) (before : State σ) :
    setup.Nested ((setup.call depth proxy method args).transcript setup.perform before) := by
  induction depth generalizing proxy method args before with
  | zero => exact .nil
  | succ depth ih =>
    cases exposed : (setup.snapshots proxy.snapshot).exposes proxy.strategy method with
    | false =>
      rw [call_hidden setup depth proxy method args exposed]
      exact .nil
    | true =>
      have inside (target : Target) (state : State σ) : setup.Nested
          (((setup.snapshots proxy.snapshot).callOn (setup.call depth) proxy target method
            args).transcript setup.perform state) :=
        (amid_callOn setup ih _ _ _ _ _ _).nested fun _ nested => nested
      have proxied : setup.Proxied (setup.snapshots proxy.snapshot).source := ⟨_, rfl⟩
      cases taken : (setup.snapshots proxy.snapshot).source.take before with
      | mk outcome after =>
        cases outcome with
        | error fault =>
          rw [(call_refused setup depth args exposed taken).1]
          exact .refused proxied .nil
        | ok target =>
          cases static : (setup.snapshots proxy.snapshot).source.isStatic with
          | true =>
            rw [(call_static setup depth args exposed taken static).1]
            exact .lent proxied static (inside target after)
          | false =>
            rw [(call_returned setup depth args exposed taken static).1]
            exact .returned proxied static (inside target after) (nested_complaint setup _ _)

/-- A call of an exposed method fetches from the source before anything else. If there is no target,
nothing else happens and the error is returned. Otherwise nothing but calls of advice, whole ones,
moves targets while the call is under way, so that it would move none if they did not; then the very
target fetched is given back, once, and nothing follows but a line of the log if that fails; to a
static source nothing is given back. The outcome is that of the chain, or of the target where there
is none, and calls are properly nested. -/
theorem call_lends_target (setup : Setup σ) (depth : Nat) (proxy : Proxy) (method : Method)
    (args : Arguments) (before : State σ)
    (exposed : (setup.snapshots proxy.snapshot).exposes proxy.strategy method = true) :
    let snapshot := setup.snapshots proxy.snapshot
    let source := snapshot.source
    let happened := (setup.call (depth + 1) proxy method args).transcript setup.perform before
    let came := setup.invoke (depth + 1) proxy method args before
    setup.Nested happened ∧
      match source.take before with
      | (.error fault, after) =>
        happened = [⟨.fetch source, .error fault⟩] ∧ came = (.error fault, after)
      | (.ok target, after) =>
        let body := snapshot.callOn (setup.call depth) proxy target method args
        let during := body.transcript setup.perform after
        let ended := body.run setup.perform after
        let answer := (source.putBack target ended.2).1
        Amid (setup.WholeCall depth) during ∧ setup.Nested during ∧
          (∀ call, (∀ proxy method args, setup.Still (call proxy method args)) →
            setup.Still (snapshot.callOn call proxy target method args)) ∧
          came.1 = ended.1 ∧
          if source.isStatic then
            happened = ⟨.fetch source, .ok target⟩ :: during ∧ came.2 = ended.2
          else
            happened = ⟨.fetch source, .ok target⟩ :: during ++
                ⟨.giveBack source target, answer⟩ :: source.complaint answer ∧
              came.2 = ((source.release target).run setup.perform ended.2).2 := by
  intro snapshot source happened came
  refine ⟨call_nested setup (depth + 1) proxy method args before, ?_⟩
  cases taken : source.take before with
  | mk outcome after =>
    cases outcome with
    | error fault => exact call_refused setup depth args exposed taken
    | ok target =>
      dsimp -zeta only
      intro body during ended answer
      have amid : Amid (setup.WholeCall depth) during :=
        amid_callOn setup (fun proxy method args state => ⟨proxy, method, args, state, rfl⟩) _ _ _ _ _ _
      have nested : setup.Nested during := amid.nested fun exchanges whole => by
        obtain ⟨proxy, method, args, state, rfl⟩ := whole
        exact call_nested setup depth proxy method args state
      cases static : source.isStatic with
      | true =>
        obtain ⟨exchanges, run⟩ := call_static setup depth args exposed taken static
        change came = _ at run
        rw [if_pos rfl, run]
        exact ⟨amid, nested, fun _ calls => callOn_still setup calls _ _ _ _ _, rfl, exchanges, rfl⟩
      | false =>
        obtain ⟨exchanges, run⟩ := call_returned setup depth args exposed taken static
        change came = _ at run
        rw [if_neg Bool.false_ne_true, run]
        exact ⟨amid, nested, fun _ calls => callOn_still setup calls _ _ _ _ _, rfl, exchanges, rfl⟩

/-! ### A source that takes nothing back -/

end Weave

namespace Weave.Echo

def method : Method := ⟨"", "Echo", "echo", [], "()"⟩

def elsewhere : Method := { method with module := "elsewhere" }

def type : ObjectType := ⟨"Echo"⟩

def cls : TargetClass where
  name := "Echo"
  type := type
  interfaces := [⟨⟨"", "Echo", [method]⟩, .interfaceMethods 0, "Echo"⟩]

def again : Around Nat Outcome := do
  match (← Around.view).exposed with
  | some proxy =>
    let _ ← Around.act (Action.call proxy method {})
    Around.proceed
  | none => Around.proceed

def setup (source : Source Nat) : Setup Nat where
  entryCode _ _ _ _ memory := (.ok ⟨.unit, ()⟩, memory)
  snapshots _ := { source, advisors := [.everywhere (.around again)], flags := { exposeProxy := true } }

def proxy : Proxy := ⟨.interfaceForwarding, 0⟩

def fresh : State Nat := { memory := 0 }

def hoarding : Source Nat :=
  ⟨0, cls, .custom false (fun memory => (.ok ⟨memory, type⟩, memory + 1))
    fun _ memory => (.error (.text "not taken back"), memory)⟩

/-- The call that advice makes has a target of its own, between those of the call it is made in. -/
theorem hoarding_nested :
    let happened := ((setup hoarding).call 2 proxy method {}).transcript (setup hoarding).perform fresh
    ((setup hoarding).snapshots 0).exposes proxy.strategy method = true ∧
      (setup hoarding).Nested happened ∧
      happened.filter (·.1.movesTarget) =
        [⟨.fetch hoarding, .ok ⟨0, type⟩⟩, ⟨.fetch hoarding, .ok ⟨1, type⟩⟩,
          ⟨.giveBack hoarding ⟨1, type⟩, .error (.text "not taken back")⟩,
          ⟨.giveBack hoarding ⟨0, type⟩, .error (.text "not taken back")⟩] := by
  have exposed : ((setup hoarding).snapshots 0).exposes proxy.strategy method = true := by decide
  exact ⟨exposed, (call_lends_target (setup hoarding) 1 proxy method {} fresh exposed).1, rfl⟩

end Weave.Echo
