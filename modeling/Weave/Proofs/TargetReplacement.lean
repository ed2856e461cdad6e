import Weave.Proofs.Dispatching

/-! Replacing the target of a proxy while calls are under way. The source is asked once in a call,
right at its beginning, so that a replacement shows between calls and never within one: all that a
call dispatches itself goes to the target that was in place when it began, and each call that begins
later, also within it, goes to the one that is in place by then. -/

namespace Weave

variable [ValueTypes] {σ : Type}

/-! ### Replacements -/

structure Replacement where
  installed : Target
  former : Target
deriving DecidableEq, Repr

/-- What is in place after these replacements, the last one first. -/
def Target.after (first : Target) : List Replacement → Target
  | [] => first
  | last :: _ => last.installed

def Source.replaced (source : Source σ) (earlier : List Replacement) :
    Exchange σ → List Replacement
  | ⟨.query (.swap other installed), .ok former⟩ =>
    if other.id = source.id then ⟨installed, former⟩ :: earlier else earlier
  | _ => earlier

def Source.replacements (source : Source σ) (past : List (Exchange σ)) : List Replacement :=
  past.foldl source.replaced []

/-- What a source answers while this target is in place. It is not mistaken for another. -/
def Source.Answers (source : Source σ) (current : Target) : Exchange σ → Prop
  | ⟨.fetch other, answer⟩ => other.id = source.id → other = source ∧ answer = .ok current
  | ⟨.query (.swap other target), answer⟩ => other.id = source.id → other = source ∧
    answer = if target.type = source.cls.type then .ok current
      else .error (.targetTypeMismatch source.cls.name)
  | _ => True

abbrev Source.Replaceable (source : Source σ) (first : Target) (earlier : List Replacement)
    (exchanges : List (Exchange σ)) : Prop :=
  Dialogue.Conforms (fun replaced => source.Answers (first.after replaced)) source.replaced earlier
    exchanges

/-- Each replacement gave away what the one before had put in place; nothing is lost, and nothing is
given away twice. -/
theorem replaced_linked {source : Source σ} {first : Target} {earlier : List Replacement}
    {exchange : Exchange σ} (answers : source.Answers (first.after earlier) exchange)
    (linked : first.after earlier :: earlier.map (·.former) = earlier.map (·.installed) ++ [first]) :
    first.after (source.replaced earlier exchange) ::
        (source.replaced earlier exchange).map (·.former) =
      (source.replaced earlier exchange).map (·.installed) ++ [first] := by
  unfold Source.replaced
  split
  · rename_i other installed former
    split
    · rename_i same
      obtain ⟨_, answer⟩ := answers same
      have given : former = first.after earlier := by
        split at answer
        · exact Except.ok.inj answer
        · contradiction
      rw [Target.after, List.map_cons, List.map_cons, List.cons_append, given, linked]
    · exact linked
  · exact linked

section
variable {source : Source σ} {initial : Target} (kind : source.kind = .swappable initial)
include kind

theorem take_swappable (state : State σ) :
    source.take state = (.ok (state.stock.currentOf source.id initial), state) := by
  simp only [Source.take, kind]

theorem swap_swappable (target : Target) (state : State σ) :
    source.swap target state =
      if target.type = source.cls.type then
        (.ok (state.stock.currentOf source.id initial),
          (state.restock (·.setCurrent source.id target)).emit (.swapped source.cls.name))
      else (.error (.targetTypeMismatch source.cls.name), state) := by
  simp only [Source.swap, kind, Source.checkType]
  by_cases same : source.cls.type = target.type
  · rw [if_pos same, if_pos same.symm]
  · rw [if_neg same, if_neg (Ne.symm same)]

/-- Whatever is done, the source answers with what is in place, and only a replacement changes it. -/
theorem perform_answers (setup : Setup σ) (operation : Operation σ) (alone : source.Alone operation)
    {first : Target} {earlier : List Replacement} {state : State σ}
    (inPlace : state.stock.currentOf source.id initial = first.after earlier) :
    source.Answers (first.after earlier) ⟨operation, (setup.perform operation state).1⟩ ∧
      (setup.perform operation state).2.stock.currentOf source.id initial =
        first.after (source.replaced earlier ⟨operation, (setup.perform operation state).1⟩) := by
  have kept (other : ∀ source target, operation ≠ .query (.swap source target)) :
      (setup.perform operation state).2.stock.currentOf source.id initial = first.after earlier := by
    rw [← inPlace, Stock.currentOf, perform_current setup operation state other]
    rfl
  cases operation with
  | giveBack | findChain | advise | dispatch => exact ⟨trivial, kept (by rintro _ _ ⟨⟩)⟩
  | fetch other =>
    refine ⟨fun same => ?_, kept (by rintro _ _ ⟨⟩)⟩
    obtain rfl := alone same
    refine ⟨rfl, ?_⟩
    rw [← inPlace]
    exact congrArg Prod.fst (take_swappable kind state)
  | query query =>
    cases query with
    | update | allocate | view | counts | readClock | emit =>
      exact ⟨trivial, kept (by rintro _ _ ⟨⟩)⟩
    | swap other target =>
      simp only [Setup.perform, Setup.answer]
      by_cases same : other.id = source.id
      · obtain rfl := alone same
        rw [swap_swappable kind, inPlace]
        by_cases fits : target.type = other.cls.type
        · rw [if_pos fits]
          refine ⟨fun _ => ⟨rfl, (if_pos fits).symm⟩, ?_⟩
          change (state.stock.setCurrent other.id target).currentOf other.id initial = _
          rw [Stock.currentOf_setCurrent, Source.replaced, if_pos rfl, if_pos rfl]
          rfl
        · rw [if_neg fits]
          exact ⟨fun _ => ⟨rfl, (if_neg fits).symm⟩, inPlace⟩
      · have elsewhere : (other.swap target state).2.stock.currentOf source.id initial =
            state.stock.currentOf source.id initial := by
          rw [Stock.currentOf, Table.getD, swap_elsewhere (Ne.symm same)]
          rfl
        refine ⟨fun again => absurd again same, ?_⟩
        rw [elsewhere, inPlace]
        cases (other.swap target state).1 with
        | ok former => rw [Source.replaced, if_neg same]
        | error error => rfl

end

/-! ### Calls -/

/-- What a call does itself while it has this target. Outside of calls nothing is dispatched. -/
def Operation.Heeds (own : Option Target) : Operation σ → Prop
  | fetch _ | giveBack _ _ => False
  | dispatch _ target _ _ => own = some target
  | findChain _ _ | advise _ _ | query _ => True

inductive Source.Ending (source : Source σ) (target : Target) : List (Exchange σ) → Prop
  | kept (static : source.isStatic = true) : source.Ending target []
  | returned (moving : source.isStatic = false) (answer : Except Fault Unit) :
      source.Ending target (⟨.giveBack source target, answer⟩ :: source.complaint answer)

/-- What happens with this target at hand, calls included, after these replacements at a source. A
call of a proxy of that source gets what is in place when it begins. Every call dispatches to its own
target, and the calls within it are as these. -/
inductive Setup.Serves (setup : Setup σ) (source : Source σ) (first : Target) :
    Option Target → List Replacement → List (Exchange σ) → Prop
  | nil {own : Option Target} {earlier : List Replacement} :
      setup.Serves source first own earlier []
  | own {own : Option Target} {earlier : List Replacement} {exchange : Exchange σ}
      {rest : List (Exchange σ)} (mine : exchange.1.Heeds own)
      (onwards : setup.Serves source first own (source.replaced earlier exchange) rest) :
      setup.Serves source first own earlier (exchange :: rest)
  | refused {own : Option Target} {earlier : List Replacement} {other : Source σ} {fault : Fault}
      {rest : List (Exchange σ)} (elsewhere : other.id ≠ source.id)
      (onwards : setup.Serves source first own earlier rest) :
      setup.Serves source first own earlier (⟨.fetch other, .error fault⟩ :: rest)
  | call {own : Option Target} {earlier : List Replacement} {other : Source σ} {target : Target}
      {depth : Nat} {during ending rest : List (Exchange σ)}
      (inPlace : other.id = source.id → target = first.after earlier)
      (inside : setup.Serves source first (some target) earlier during)
      (ended : other.Ending target ending)
      (entire : setup.WholeCall depth (⟨.fetch other, .ok target⟩ :: during ++ ending))
      (onwards : setup.Serves source first own
        ((⟨.fetch other, .ok target⟩ :: during ++ ending).foldl source.replaced earlier) rest) :
      setup.Serves source first own earlier
        ((⟨.fetch other, .ok target⟩ :: during ++ ending) ++ rest)

theorem Setup.Serves.append {setup : Setup σ} {source : Source σ} {first : Target}
    {own : Option Target} {earlier : List Replacement} {before behind : List (Exchange σ)}
    (serves : setup.Serves source first own earlier before)
    (onwards : setup.Serves source first own (before.foldl source.replaced earlier) behind) :
    setup.Serves source first own earlier (before ++ behind) := by
  induction serves with
  | nil => exact onwards
  | own mine _ ih => exact .own mine (ih onwards)
  | refused elsewhere _ ih => exact .refused elsewhere (ih onwards)
  | call inPlace inside ended entire _ _ ih =>
    rw [List.foldl_append] at onwards
    rw [List.append_assoc]
    exact .call inPlace inside ended entire (ih onwards)

theorem Interleaved.serves {setup : Setup σ} {source : Source σ} {first : Target}
    {own : Option Target} {whole : List (Exchange σ) → Prop}
    (calls : ∀ nested earlier, whole nested → source.Replaceable first earlier nested →
      setup.Serves source first own earlier nested)
    {exchanges : List (Exchange σ)} (interleaved : Interleaved (·.Heeds own) whole exchanges)
    {earlier : List Replacement} (replaceable : source.Replaceable first earlier exchanges) :
    setup.Serves source first own earlier exchanges := by
  induction interleaved generalizing earlier with
  | nil => exact .nil
  | own mine onwards ih => exact .own mine (ih replaceable.2)
  | call entire onwards ih =>
    obtain ⟨within, behind⟩ := (Dialogue.conforms_append _ _ _ _ _).1 replaceable
    exact (calls _ _ entire within).append (ih behind)

theorem call_ending (setup : Setup σ) (depth : Nat) {proxy : Proxy} {method : Method}
    (args : Arguments) (exposed : (setup.snapshots proxy.snapshot).exposes proxy.strategy method = true)
    {before after : State σ} {target : Target}
    (lent : (setup.snapshots proxy.snapshot).source.take before = (.ok target, after)) :
    ∃ ending, (setup.snapshots proxy.snapshot).source.Ending target ending ∧
      (setup.call (depth + 1) proxy method args).transcript setup.perform before =
        ⟨.fetch (setup.snapshots proxy.snapshot).source, .ok target⟩ ::
          ((setup.snapshots proxy.snapshot).callOn (setup.call depth) proxy target method
            args).transcript setup.perform after ++ ending := by
  cases static : (setup.snapshots proxy.snapshot).source.isStatic with
  | true =>
    refine ⟨[], .kept static, ?_⟩
    rw [(call_static setup depth args exposed lent static).1, List.append_nil]
  | false => exact ⟨_, .returned static _, (call_returned setup depth args exposed lent static).1⟩

theorem call_serves (setup : Setup σ) (source : Source σ) (first : Target) (depth : Nat)
    (own : Option Target) (earlier : List Replacement) (exchanges : List (Exchange σ))
    (entire : setup.WholeCall depth exchanges)
    (replaceable : source.Replaceable first earlier exchanges) :
    setup.Serves source first own earlier exchanges := by
  induction depth generalizing own earlier exchanges with
  | zero =>
    obtain ⟨proxy, method, args, before, rfl⟩ := entire
    exact .nil
  | succ depth ih =>
    have entirely := entire
    obtain ⟨proxy, method, args, before, rfl⟩ := entire
    cases exposed : (setup.snapshots proxy.snapshot).exposes proxy.strategy method with
    | false =>
      rw [call_hidden setup depth proxy method args exposed]
      exact .nil
    | true =>
      cases taken : (setup.snapshots proxy.snapshot).source.take before with
      | mk outcome after =>
        cases outcome with
        | error fault =>
          rw [(call_refused setup depth args exposed taken).1] at replaceable ⊢
          exact .refused (fun same => nomatch (replaceable.1 same).2) .nil
        | ok target =>
          obtain ⟨ending, ended, exchanges⟩ := call_ending setup depth args exposed taken
          rw [exchanges] at replaceable entirely ⊢
          -- A whole call is one from some state. Which target this run fetched is known from the rule.
          have inPlace (same : (setup.snapshots proxy.snapshot).source.id = source.id) :
              target = first.after earlier :=
            Except.ok.inj (replaceable.1 same).2
          have inside : Interleaved (·.Heeds (some target)) (setup.WholeCall depth)
              (((setup.snapshots proxy.snapshot).callOn (setup.call depth) proxy target method
                args).transcript setup.perform after) :=
            interleaved_callOn setup (wholeCall_call setup depth) (fun _ => trivial)
              (fun _ _ => trivial) _ _ _ _ _ trivial (fun _ => rfl) _
          have during := inside.serves (fun nested earlier => ih _ earlier nested)
            ((Dialogue.conforms_append _ _ _ _ _).1 replaceable.2).1
          rw [← List.append_nil (_ ++ ending)]
          exact .call inPlace during ended entirely .nil

/-! ### Runs -/

/-- In any run of calls of a client, advice included, over a source whose target can be replaced,
calls dispatch to the target that was in place when they began. At every moment the source gives
what the last replacement put in place, each replacement has given away what the one before put in
place, the first one what was there at the beginning, and an object of another type is refused and
nothing changes. -/
theorem replacements_show_between_calls {α : Type} (setup : Setup σ) (depth : Nat)
    (client : Action σ α) (source : Source σ) (initial : Target)
    (kind : source.kind = .swappable initial) (start : State σ)
    (alone : ∀ exchange ∈ (client.course (setup.call depth)).transcript setup.perform start,
      source.Alone exchange.1) :
    let course := client.course (setup.call depth)
    let first := start.stock.currentOf source.id initial
    (start.stock.current.find? source.id = none → first = initial) ∧
    setup.Serves source first none [] (course.transcript setup.perform start) ∧
    ∀ past now, Dialogue.Reaches setup.perform course start past now →
      let earlier := source.replacements past
      let current := first.after earlier
      source.take now = (.ok current, now) ∧
        current :: earlier.map (·.former) = earlier.map (·.installed) ++ [first] ∧
        ∀ target, source.swap target now =
          if target.type = source.cls.type then
            (.ok current,
              (now.restock (·.setCurrent source.id target)).emit (.swapped source.cls.name))
          else (.error (.targetTypeMismatch source.cls.name), now) := by
  intro course first
  have replaceable : source.Replaceable first [] (course.transcript setup.perform start) :=
    Dialogue.conforms_of_kept _ _ source.Alone
      (fun earlier state => state.stock.currentOf source.id initial = first.after earlier)
      (fun _ operation _ alone inPlace => perform_answers kind setup operation alone inPlace)
      course [] start rfl alone
  refine ⟨fun unused => ?_, ?_, fun past now moment => ?_⟩
  · change (start.stock.current.find? source.id).getD initial = initial
    rw [unused]
    rfl
  · have interleaved : Interleaved (·.Heeds none) (setup.WholeCall depth)
        (course.transcript setup.perform start) :=
      interleaved_action setup (wholeCall_call setup depth) (fun _ => trivial) client start
    exact interleaved.serves
      (fun nested earlier => call_serves setup source first depth none earlier nested) replaceable
  · intro earlier current
    have conforms := Dialogue.conforms_and _ _ _ [] replaceable alone
    obtain ⟨inPlace, linked⟩ : now.stock.currentOf source.id initial = current ∧
        current :: earlier.map (·.former) = earlier.map (·.installed) ++ [first] :=
      moment.invariant _ _
        (fun earlier state => state.stock.currentOf source.id initial = first.after earlier ∧
          first.after earlier :: earlier.map (·.former) = earlier.map (·.installed) ++ [first])
        (fun _ operation _ permitted holds =>
          ⟨(perform_answers kind setup operation permitted.2 holds.1).2,
            replaced_linked permitted.1 holds.2⟩)
        [] conforms ⟨rfl, rfl⟩
    rw [take_swappable kind, inPlace]
    refine ⟨rfl, linked, fun target => ?_⟩
    rw [swap_swappable kind, inPlace]

end Weave

namespace Weave.Echo

def replacing : Around Nat Outcome := do
  let made ← Around.act (Action.query (.update (· + 1)))
  let _ ← Around.act (Action.query (.swap replaceable ⟨made + 1, type⟩))
  let _ ← Around.act (Action.call proxy method {})
  let _ ← Around.proceed
  Around.proceed

def replacingSetup : Setup Nat where
  entryCode _ _ _ _ memory := (.ok ⟨.unit, ()⟩, memory)
  snapshots _ := { source := replaceable, advisors := [.everywhere (.around replacing)] }

/-- The call that advice makes has the new target, the call around it keeps its own. -/
theorem replacing_serves :
    let course := (Action.call proxy method {}).course (replacingSetup.call 2)
    let happened := course.transcript replacingSetup.perform fresh
    replacingSetup.Serves replaceable ⟨0, type⟩ none [] happened ∧
      replaceable.replacements happened =
        [⟨⟨2, type⟩, ⟨1, type⟩⟩, ⟨⟨1, type⟩, ⟨0, type⟩⟩] ∧
      (happened.filter (·.1.isDispatch)).map (·.1) =
        [.dispatch builtCls ⟨1, type⟩ method {}, .dispatch builtCls ⟨1, type⟩ method {},
          .dispatch builtCls ⟨0, type⟩ method {}, .dispatch builtCls ⟨0, type⟩ method {}] := by
  intro course happened
  have alone : ∀ exchange ∈ happened, replaceable.Alone exchange.1 := by
    refine List.forall_iff_forall_mem.1 ?_
    exact ⟨fun _ => rfl, trivial, trivial, trivial, fun _ => rfl, fun _ => rfl, trivial, trivial,
      trivial, fun _ => rfl, trivial, trivial, trivial, trivial, fun _ => rfl, trivial, trivial,
      trivial, trivial, fun _ => rfl⟩
  obtain ⟨_, serves, _⟩ :=
    replacements_show_between_calls replacingSetup 2 _ replaceable ⟨0, type⟩ rfl fresh alone
  exact ⟨serves, rfl, rfl⟩

end Weave.Echo
