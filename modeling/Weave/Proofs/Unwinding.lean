import Weave.Proofs.DirectReading
import Weave.Proofs.Passages
import Weave.Proofs.Transparency

/-! Unwinding. In the engine each piece of advice is wrapped around the rest of its chain. Where all
advice is simple this comes to one passage here and back: each entry acts in its turn, on the way in
or on the way out, and nothing else happens but that the target answers in between. -/

namespace Weave

variable [ValueTypes] {σ : Type}

/-! ### Simple advice in a chain -/

/-- What simple advice does on the way in, and what on the way out for the outcome that comes. -/
def Advice.response (point : JoinPoint) :
    Advice σ → Option Outcome → Option (Action σ (Except Fault Unit))
  | before advice, none => some (advice point)
  | after advice, some _ => some do
    advice point
    return .ok ()
  | afterReturning advice, some (.ok value) => some (advice point value)
  | afterThrowing advice, some (.error fault) => some (advice point fault)
  | _, _ => none

/-- Advice that acts on the way in does not act on the way out. -/
theorem Advice.response_behind {point : JoinPoint} {advice : Advice σ}
    {action : Action σ (Except Fault Unit)} (entering : advice.response point none = some action)
    (came : Outcome) : advice.response point (some came) = none := by
  cases advice with
  | before => rfl
  | around | after | afterReturning | afterThrowing => contradiction

/-- Simple advice as a chain has it: for any call, or for what an advisor's matcher takes. -/
structure Link (σ : Type) where
  advice : Advice σ
  simple : advice.type ≠ .around
  advisor : Option (Advisor σ) := none

namespace Link

def entry (link : Link σ) : ChainEntry σ :=
  match link.advisor with
  | none => .fixed link.advice.interceptor
  | some advisor => .dynamic link.advice.interceptor advisor

def takes (link : Link σ) (frame : CallFrame) (args : Arguments) : Bool :=
  link.advisor.all fun advisor =>
    advisor.pointcut.methodMatcher.matchesCall frame.method frame.cls args

end Link

def CallFrame.response (frame : CallFrame) (args : Arguments) (links : List (Link σ)) (place : Nat)
    (came : Option Outcome) : Option (Action σ (Except Fault Unit)) :=
  links[place]?.bind fun link =>
    if link.takes frame args then link.advice.response (frame.point args) came else none

def CallFrame.responds (frame : CallFrame) (args : Arguments) (links : List (Link σ)) (place : Nat)
    (came : Option Outcome) : Bool :=
  (frame.response args links place came).isSome

/-! ### Actions within courses -/

section
variable (call : Proxy → Method → Arguments → Course σ Outcome)

theorem act_bind {α β : Type} (action : Action σ α) (next : α → Action σ β) :
    Around.act (action >>= next) = Around.act action >>= fun result => Around.act (next result) := by
  induction action with
  | done result => rfl
  | ask request rest ih => exact congrArg (Dialogue.ask _) (funext ih)

theorem translate_act {α β : Type} (frame : CallFrame)
    (proceed : Progress → Course σ (Outcome × Progress)) (action : Action σ α)
    (next : α → Around σ β) (progress : Progress) :
    (Around.act action >>= next).translate (AroundRequest.course frame call proceed) progress =
      action.course call >>= fun result =>
        (next result).translate (AroundRequest.course frame call proceed) progress := by
  induction action with
  | done result => rfl
  | ask request rest ih =>
    rw [course_ask, bind_assoc]
    change (AroundRequest.course frame call proceed (.engine request) progress >>= fun answered =>
      (Around.act (rest answered.1) >>= next).translate _ answered.2) = _
    rw [AroundRequest.course, bind_assoc]
    exact bind_congr fun answer => ih answer

def settled (outcome : Outcome) : Except Fault Unit → Outcome
  | .ok _ => outcome
  | .error fault => .error fault

theorem translate_settling (frame : CallFrame)
    (proceed : Progress → Course σ (Outcome × Progress)) (outcome : Outcome)
    (advice : JoinPoint → Action σ (Except Fault Unit)) {next : Except Fault Unit → Around σ Outcome}
    (settles : ∀ result, next result = pure (settled outcome result)) (progress : Progress) :
    (do next (← Around.act (advice (← Around.joinPoint)))).translate
        (AroundRequest.course frame call proceed) progress = do
      return (settled outcome (← (advice (frame.point progress.arguments)).course call), progress) := by
  refine (translate_act call frame proceed _ next progress).trans (bind_congr fun result => ?_)
  rw [settles]
  rfl

/-- Simple advice around the rest of a chain: either it acts first and decides whether to go on, or it
goes on first and then acts on the outcome, if at all. -/
theorem translate_simple (frame : CallFrame) (proceed : Progress → Course σ (Outcome × Progress))
    {advice : Advice σ} (simple : advice.type ≠ .around) (progress : Progress) :
    advice.interceptor.translate (AroundRequest.course frame call proceed) progress =
      match advice.response (frame.point progress.arguments) none with
      | some action => do
        match ← action.course call with
        | .ok _ => proceed progress
        | .error fault => return (.error fault, progress)
      | none => do
        let ended ← proceed progress
        match advice.response (frame.point ended.2.arguments) (some ended.1) with
        | some action => return (settled ended.1 (← action.course call), ended.2)
        | none => return ended := by
  cases advice with
  | around => contradiction
  | before advice =>
    change ((Around.act (advice (frame.point progress.arguments)) >>= fun
      | .ok _ => Around.proceed
      | .error fault => pure (.error fault)).translate _ progress) = _
    rw [translate_act]
    refine bind_congr fun result => ?_
    cases result with
    | ok => exact bind_pure (proceed progress)
    | error => rfl
  | after advice =>
    refine bind_congr (x := proceed progress) fun ended => ?_
    -- Advice without a result is advice that never fails.
    have same : (do
        Around.act (advice (← Around.joinPoint))
        return ended.1) = (do
        let result ← Around.act ((fun point => do
          advice point
          return .ok ()) (← Around.joinPoint))
        return settled ended.1 result) := by
      simp only [act_bind, bind_assoc]
      rfl
    exact (congrArg (Dialogue.translate _ · ended.2) same).trans
      (translate_settling call frame proceed ended.1 _ (fun _ => rfl) ended.2)
  | afterReturning advice =>
    refine bind_congr (x := proceed progress) fun ended => ?_
    obtain ⟨outcome, after⟩ := ended
    cases outcome with
    | error => rfl
    | ok value =>
      exact translate_settling call frame proceed (.ok value) (advice · value)
        (fun result => by cases result <;> rfl) after
  | afterThrowing advice =>
    refine bind_congr (x := proceed progress) fun ended => ?_
    obtain ⟨outcome, after⟩ := ended
    cases outcome with
    | ok => rfl
    | error fault =>
      exact translate_settling call frame proceed (.error fault) (advice · fault)
        (fun result => by cases result <;> rfl) after

end

/-! ### Runs -/

/-- A course that exchanges this, comes to this result and leaves this state. -/
def Setup.Runs {α : Type} (setup : Setup σ) (course : Course σ α) (before : State σ)
    (exchanges : List (Exchange σ)) (result : α) (after : State σ) : Prop :=
  course.transcript setup.perform before = exchanges ∧
    course.run setup.perform before = (result, after)

section
variable {α β : Type} {setup : Setup σ}

theorem runs_pure (result : α) (state : State σ) :
    setup.Runs (pure result) state [] result state := ⟨rfl, rfl⟩

theorem runs_perform (operation : Operation σ) (state : State σ) :
    setup.Runs (Course.perform operation) state [⟨operation, (setup.perform operation state).1⟩]
      (setup.perform operation state).1 (setup.perform operation state).2 := ⟨rfl, rfl⟩

theorem Setup.Runs.bind {course : Course σ α} {next : α → Course σ β}
    {before between after : State σ} {exchanges others : List (Exchange σ)} {result : α} {last : β}
    (first : setup.Runs course before exchanges result between)
    (second : setup.Runs (next result) between others last after) :
    setup.Runs (course >>= next) before (exchanges ++ others) last after := by
  obtain ⟨rfl, ran⟩ := first
  obtain ⟨rfl, ended⟩ := second
  refine ⟨?_, ?_⟩
  · rw [Dialogue.transcript_bind, ran]
  · rw [Dialogue.run_bind, ran, ended]

theorem Setup.Runs.ending {course : Course σ α} {next : α → Course σ β} {before after : State σ}
    {exchanges : List (Exchange σ)} {result : α} {last : β}
    (runs : setup.Runs course before exchanges result after) (ends : next result = pure last) :
    setup.Runs (course >>= next) before exchanges last after := by
  rw [← List.append_nil exchanges]
  refine runs.bind ?_
  rw [ends]
  exact runs_pure last after

end

/-! ### What is run in a passage -/

def Operation.isMark : Operation σ → Bool
  | .advise _ _ => true
  | operation => operation.isSkip

section
variable (setup : Setup σ) (frame : CallFrame)
  (call : Proxy → Method → Arguments → Course σ Outcome) (args : Arguments) (links : List (Link σ))

/-- Turns taken one after another: each is one run of what the entry in its place does for what came
to it. -/
inductive Setup.Acts : State σ → List Turn → List (Exchange σ) → State σ → Prop
  | nil (state : State σ) : Acts state [] [] state
  | mark {operation : Operation σ} {before after : State σ} {turns : List Turn}
      {exchanges : List (Exchange σ)} (marks : operation.isMark = true)
      (rest : Acts (setup.perform operation before).2 turns exchanges after) :
      Acts before turns (⟨operation, (setup.perform operation before).1⟩ :: exchanges) after
  | turn {turn : Turn} {action : Action σ (Except Fault Unit)} {before between after : State σ}
      {turns : List Turn} {exchanges others : List (Exchange σ)}
      (responds : frame.response args links turn.place turn.came = some action)
      (acts : setup.Runs (action.course call) before exchanges turn.result between)
      (rest : Acts between turns others after) :
      Acts before (turn :: turns) (exchanges ++ others) after

def CallFrame.Answers (answer : Option Outcome) (before : State σ) (exchanges : List (Exchange σ))
    (after : State σ) : Prop :=
  match answer with
  | none => exchanges = [] ∧ after = before
  | some outcome =>
    setup.Runs (frame.reachTarget ⟨args, links.length⟩) before exchanges
      (outcome, ⟨args, links.length⟩) after

/-- A passage that is carried out: advice acts on the way in, the target answers, and advice acts on
the way out, and nothing else is exchanged. -/
inductive Passage.Carried (passage : Passage) (before : State σ) :
    List (Exchange σ) → State σ → Prop
  | intro {reached left after : State σ} {inward middle outward : List (Exchange σ)}
      (entering : setup.Acts frame call args links before passage.inward inward reached)
      (answering : frame.Answers setup args links passage.target reached middle left)
      (leaving : setup.Acts frame call args links left passage.outward outward after) :
      Carried passage before (inward ++ middle ++ outward) after

/-- A course that carries out an orderly passage from a place on, and comes back with what the
passage comes to. -/
def Setup.Unwinds (first back : Nat) (course : Course σ (Outcome × Progress)) (before : State σ) :
    Prop :=
  ∃ turned passage outcome exchanges after,
    Passage.Orderly (frame.responds args links) links.length first turned passage ∧
      passage.Carried setup frame call args links before exchanges after ∧
      passage.outcome = some outcome ∧
      setup.Runs course before exchanges (outcome, ⟨args, back⟩) after

end

section
variable {setup : Setup σ} {frame : CallFrame}
  {call : Proxy → Method → Arguments → Course σ Outcome} {args : Arguments} {links : List (Link σ)}

theorem Setup.Acts.append {before between after : State σ} {turns further : List Turn}
    {exchanges others : List (Exchange σ)}
    (acts : setup.Acts frame call args links before turns exchanges between)
    (rest : setup.Acts frame call args links between further others after) :
    setup.Acts frame call args links before (turns ++ further) (exchanges ++ others) after := by
  induction acts with
  | nil => exact rest
  | mark marks _ ih => exact .mark marks (ih rest)
  | turn responds acts _ ih =>
    rw [List.append_assoc]
    exact .turn responds acts (ih rest)

theorem acts_once {turn : Turn} {action : Action σ (Except Fault Unit)} {before after : State σ}
    {exchanges : List (Exchange σ)}
    (responds : frame.response args links turn.place turn.came = some action)
    (acts : setup.Runs (action.course call) before exchanges turn.result after) :
    setup.Acts frame call args links before [turn] exchanges after := by
  rw [← List.append_nil exchanges]
  exact .turn responds acts (.nil after)

namespace Passage

theorem carried_arrived {outcome : Outcome} {before after : State σ}
    {exchanges : List (Exchange σ)}
    (answering : setup.Runs (frame.reachTarget ⟨args, links.length⟩) before exchanges
      (outcome, ⟨args, links.length⟩) after) :
    Carried setup frame call args links ⟨[], some outcome, []⟩ before exchanges after := by
  have carried : Carried setup frame call args links ⟨[], some outcome, []⟩ before
    ([] ++ exchanges ++ []) after := .intro (.nil before) answering (.nil after)
  rwa [List.append_nil] at carried

theorem carried_refused {place : Nat} {fault : Fault} {action : Action σ (Except Fault Unit)}
    {before after : State σ} {exchanges : List (Exchange σ)}
    (responds : frame.response args links place none = some action)
    (acts : setup.Runs (action.course call) before exchanges (.error fault) after) :
    Carried setup frame call args links ⟨[⟨place, none, .error fault⟩], none, []⟩ before exchanges
      after := by
  rw [← List.append_nil exchanges, ← List.append_nil exchanges]
  exact .intro (acts_once responds acts) ⟨rfl, rfl⟩ (.nil after)

namespace Carried

variable {passage : Passage} {before between after : State σ}
  {exchanges others : List (Exchange σ)} {place : Nat} {action : Action σ (Except Fault Unit)}

theorem mark {operation : Operation σ} (marks : operation.isMark = true)
    (carried : passage.Carried setup frame call args links (setup.perform operation before).2
      exchanges after) :
    passage.Carried setup frame call args links before
      (⟨operation, (setup.perform operation before).1⟩ :: exchanges) after := by
  obtain ⟨entering, answering, leaving⟩ := carried
  exact .intro (.mark marks entering) answering leaving

theorem admitted (responds : frame.response args links place none = some action)
    (acts : setup.Runs (action.course call) before exchanges (.ok ()) between)
    (carried : passage.Carried setup frame call args links between others after) :
    (passage.admitted place).Carried setup frame call args links before (exchanges ++ others)
      after := by
  obtain ⟨entering, answering, leaving⟩ := carried
  have first : setup.Acts frame call args links before (passage.admitted place).inward _ _ :=
    .turn responds acts entering
  rw [← List.append_assoc, ← List.append_assoc]
  exact .intro first answering leaving

theorem answered {result : Except Fault Unit}
    (carried : passage.Carried setup frame call args links before exchanges between)
    (responds : frame.response args links place passage.outcome = some action)
    (acts : setup.Runs (action.course call) between others result after) :
    (passage.answered place result).Carried setup frame call args links before
      (exchanges ++ others) after := by
  obtain ⟨entering, answering, leaving⟩ := carried
  rw [List.append_assoc]
  exact .intro entering answering (leaving.append (acts_once responds acts))

end Carried

end Passage

/-! ### One entry after another -/

theorem unwinds_mark {first back : Nat} (operation : Operation σ) {before : State σ}
    {next : operation.Answer → Course σ (Outcome × Progress)} (marks : operation.isMark = true)
    (onwards : setup.Unwinds frame call args links first back
      (next (setup.perform operation before).1) (setup.perform operation before).2) :
    setup.Unwinds frame call args links first back (Course.perform operation >>= next) before := by
  obtain ⟨turned, passage, outcome, exchanges, after, orderly, carried, comesTo, runs⟩ := onwards
  exact ⟨turned, passage, outcome, _, after, orderly, carried.mark marks, comesTo,
    (runs_perform operation before).bind runs⟩

theorem unwinds_returning {first place back : Nat} {goOn : Progress → Course σ (Outcome × Progress)}
    {before : State σ}
    (unwinds : setup.Unwinds frame call args links first place (goOn ⟨args, back⟩) before) :
    setup.Unwinds frame call args links first back (Progress.returning goOn ⟨args, back⟩) before := by
  obtain ⟨turned, passage, outcome, exchanges, after, orderly, carried, comesTo, runs⟩ := unwinds
  exact ⟨turned, passage, outcome, exchanges, after, orderly, carried, comesTo, runs.ending rfl⟩

theorem unwinds_arrived (before : State σ) :
    setup.Unwinds frame call args links links.length links.length
      (frame.reachTarget ⟨args, links.length⟩) before := by
  have silent : frame.responds args links links.length none = false := by
    simp [CallFrame.responds, CallFrame.response]
  have answering : setup.Runs (frame.reachTarget ⟨args, links.length⟩) before _
    (_, ⟨args, links.length⟩) _ := ⟨rfl, rfl⟩
  exact ⟨_, _, _, _, _, Passage.orderly_arrived _ silent, Passage.carried_arrived answering,
    Passage.arrived_outcome _, answering⟩

section
variable {place back : Nat} {action : Action σ (Except Fault Unit)}

/-- An entry that acts on the way in either lets the call go on or turns it back. -/
theorem unwinds_entering (acting : frame.response args links place none = some action)
    (silent : ∀ came, frame.response args links place (some came) = none)
    {onwards : Course σ (Outcome × Progress)}
    (unwinds : ∀ state, setup.Unwinds frame call args links (place + 1) back onwards state)
    (before : State σ) :
    setup.Unwinds frame call args links place back (do
      match ← action.course call with
      | .ok _ => onwards
      | .error fault => return (.error fault, ⟨args, back⟩)) before := by
  have responding : frame.responds args links place none := congrArg Option.isSome acting
  obtain ⟨⟨result, between⟩, ran⟩ :
    ∃ ended, (action.course call).run setup.perform before = ended := ⟨_, rfl⟩
  have acts : setup.Runs (action.course call) before _ result between := ⟨rfl, ran⟩
  cases result with
  | ok =>
    obtain ⟨turned, passage, outcome, exchanges, after, orderly, carried, comesTo, runs⟩ :=
      unwinds between
    have still : frame.responds args links place passage.outcome = false := by
      rw [comesTo]
      exact congrArg Option.isSome (silent outcome)
    exact ⟨turned, passage.admitted place, outcome, _, after, orderly.admitted responding still,
      carried.admitted acting acts, comesTo, acts.bind runs⟩
  | error fault =>
    have within : place < links.length := by
      by_contra beyond
      rw [CallFrame.response, List.getElem?_eq_none (Nat.le_of_not_lt beyond)] at acting
      contradiction
    exact ⟨place, _, .error fault, _, between, Passage.orderly_refused fault within responding,
      Passage.carried_refused acting acts, rfl, acts.ending rfl⟩

/-- Any other entry acts on the way out, if at all. -/
theorem unwinds_leaving (silent : frame.response args links place none = none)
    {onwards : Course σ (Outcome × Progress)} {before : State σ}
    (unwinds : setup.Unwinds frame call args links (place + 1) back onwards before)
    {next : Outcome × Progress → Course σ (Outcome × Progress)}
    (acts : ∀ outcome, next (outcome, ⟨args, back⟩) =
      match frame.response args links place (some outcome) with
      | some action => do return (settled outcome (← action.course call), ⟨args, back⟩)
      | none => return (outcome, ⟨args, back⟩)) :
    setup.Unwinds frame call args links place back (onwards >>= next) before := by
  have unheard : frame.responds args links place none = false := congrArg Option.isSome silent
  obtain ⟨turned, passage, outcome, exchanges, between, orderly, carried, comesTo, runs⟩ := unwinds
  cases acting : frame.response args links place (some outcome) with
  | none =>
    have still : frame.responds args links place passage.outcome = false := by
      rw [comesTo]
      exact congrArg Option.isSome acting
    refine ⟨turned, passage, outcome, exchanges, between, orderly.passed unheard still, carried,
      comesTo, runs.ending ?_⟩
    rw [acts, acting]
  | some action =>
    have responding : frame.responds args links place passage.outcome := by
      rw [comesTo]
      exact congrArg Option.isSome acting
    obtain ⟨⟨result, after⟩, ran⟩ :
      ∃ ended, (action.course call).run setup.perform between = ended := ⟨_, rfl⟩
    have acted : setup.Runs (action.course call) between _ result after := ⟨rfl, ran⟩
    refine ⟨turned, passage.answered place result, settled outcome result, _, after,
      orderly.answered unheard responding result, carried.answered (by rw [comesTo, acting]) acted,
      ?_, runs.bind ?_⟩
    · rw [Passage.answered_outcome, comesTo]
      cases result <;> rfl
    · rw [acts, acting]
      exact acted.ending rfl

theorem unwinds_advised {link : Link σ} (found : links[place]? = some link)
    (takes : link.takes frame args = true) {proceed : Progress → Course σ (Outcome × Progress)}
    (unwinds : ∀ state,
      setup.Unwinds frame call args links (place + 1) back (proceed ⟨args, back⟩) state)
    (before : State σ) :
    setup.Unwinds frame call args links place back
      (Interceptor.course frame call proceed link.advice.interceptor ⟨args, back⟩) before := by
  have response (came : Option Outcome) :
      frame.response args links place came = link.advice.response (frame.point args) came := by
    simp [CallFrame.response, found, takes]
  refine unwinds_mark (.advise link.advice.interceptor args) rfl ?_
  rw [translate_simple call frame proceed link.simple]
  cases entering : link.advice.response (frame.point args) none with
  | some action =>
    refine unwinds_entering ((response none).trans entering) (fun came => ?_) unwinds _
    rw [response]
    exact Advice.response_behind entering came
  | none =>
    refine unwinds_leaving ((response none).trans entering) (unwinds _) fun outcome => ?_
    rw [response]

theorem unwinds_skipped {link : Link σ} (found : links[place]? = some link)
    (skips : link.takes frame args = false) {onwards : Course σ (Outcome × Progress)}
    {before : State σ}
    (unwinds : setup.Unwinds frame call args links (place + 1) back onwards before) :
    setup.Unwinds frame call args links place back onwards before := by
  have silent (came : Option Outcome) : frame.response args links place came = none := by
    simp [CallFrame.response, found, skips]
  rw [← bind_pure onwards]
  refine unwinds_leaving (silent none) unwinds fun outcome => ?_
  rw [silent]

end

/-- From every place the rest of a chain is gone through in one passage. -/
theorem unwinds_proceed (place : Nat) (within : place ≤ links.length) (before : State σ) :
    setup.Unwinds frame call args links place place
      (Chain.proceed frame call (links.map Link.entry) ⟨args, place⟩) before := by
  -- The induction is on the entries still ahead; it is the passage from the next place on that is
  -- extended, at its beginning or at its end.
  induction left : links.length - place generalizing place before with
  | zero =>
    obtain rfl : place = links.length := by omega
    have ended : (links.map Link.entry)[links.length]? = none :=
      List.getElem?_eq_none (List.length_map _).le
    rw [proceed_ended frame call ended]
    exact unwinds_returning (unwinds_arrived before)
  | succ left ih =>
    have onwards (state : State σ) := ih (place + 1) (by omega) state (by omega)
    obtain ⟨link, found⟩ : ∃ link, links[place]? = some link :=
      ⟨_, List.getElem?_eq_getElem (by omega)⟩
    have entry : (links.map Link.entry)[place]? = some link.entry := by
      rw [List.getElem?_map, found]
      rfl
    cases dynamic : link.advisor with
    | none =>
      have fixed : link.entry = .fixed link.advice.interceptor := by
        rw [Link.entry, dynamic]
      have takes : link.takes frame args = true := by
        rw [Link.takes, dynamic]
        rfl
      rw [fixed] at entry
      rw [proceed_fixed frame call entry]
      exact unwinds_returning (unwinds_advised found takes onwards before)
    | some advisor =>
      have runtime : link.entry = .dynamic link.advice.interceptor advisor := by
        rw [Link.entry, dynamic]
      have decides : link.takes frame args =
          advisor.pointcut.methodMatcher.matchesCall frame.method frame.cls args := by
        rw [Link.takes, dynamic]
        rfl
      rw [runtime] at entry
      rw [proceed_dynamic frame call entry]
      apply unwinds_returning
      split
      case isTrue taken => exact unwinds_advised found (decides.trans taken) onwards before
      case isFalse refused =>
        have skips := decides.trans (Bool.eq_false_iff.2 refused)
        exact unwinds_mark _ rfl (unwinds_skipped found skips (onwards _))

end

/-- A call along a chain of simple advice is one passage in order from the start of the chain. Entries
that act on the way in do so one after another, up to the first that fails; only if none does, the
target answers, once. Of the entries left behind, those that act on what comes from further in do so
in reverse order, once each. Nothing else is done but to mark the way, and the call comes to the last
error raised, or to what the target answered if there was none. -/
theorem proceed_unwinds (setup : Setup σ) (frame : CallFrame)
    (call : Proxy → Method → Arguments → Course σ Outcome) (links : List (Link σ))
    (args : Arguments) (before : State σ) :
    let proceeded := Chain.proceed frame call (links.map Link.entry) ⟨args, 0⟩
    let ended := proceeded.run setup.perform before
    ∃ turned passage,
      Passage.Orderly (frame.responds args links) links.length 0 turned passage ∧
        passage.Carried setup frame call args links before
          (proceeded.transcript setup.perform before) ended.2 ∧
        passage.outcome = some ended.1.1 ∧ ended.1.2 = ⟨args, 0⟩ := by
  intro proceeded ended
  have unwinds : setup.Unwinds frame call args links 0 0 proceeded before :=
    unwinds_proceed 0 (Nat.zero_le _) before
  obtain ⟨turned, passage, outcome, exchanges, after, orderly, carried, comesTo, came, ran⟩ := unwinds
  have atEnd : ended = ((outcome, ⟨args, 0⟩), after) := ran
  rw [atEnd]
  exact ⟨turned, passage, orderly, came ▸ carried, comesTo, rfl⟩

/-- A refusal on the way in is replaced further out, whatever the target would have answered. -/
example (setup : Setup σ) (frame : CallFrame)
    (call : Proxy → Method → Arguments → Course σ Outcome) (args : Arguments) (state : State σ) :
    let translating : Advice σ := .afterThrowing fun _ _ => pure (.error (.text "replaced"))
    let refusing : Advice σ := .before fun _ => pure (.error (.text "refused"))
    let chain : Chain σ := [.fixed translating.interceptor, .fixed refusing.interceptor]
    ((Chain.proceed frame call chain ⟨args, 0⟩).run setup.perform state).1.1 =
      .error (.text "replaced") := rfl

end Weave
