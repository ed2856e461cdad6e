import Weave.Advisor
import Weave.Bench.Memory

/-! Workbench: advice written down as data. Simple advice writes a note and may fail; advice
around a call is a list of steps, of which the last result counts. -/

namespace Weave.Bench

/-- Steps of advice around a call. `run` proceeds and notes it; `attempt` proceeds without a note
and ends with the error if there is one; `give` and `fail` end at once. -/
inductive AroundStep where
  | log (text : String)
  | noteArguments
  | setArgument (index : Nat) (value : Value)
  | pushArgument (value : Value)
  | addArgument (index : Nat) (amount : Int32)
  | run
  | attempt
  | give (value : Value)
  | fail (fault : Fault)
  | addContext (text : String)
  | recover (value : Value)
  | replace (value : Value)
  | noteProxy
  | reenter (method : Method) (args : Arguments) (limit : Nat)
  | swap (source : String) (plan : ObjectPlan)
  | counts (source : String)
  | inspect

inductive AdviceScript where
  | simple (kind : AdviceType) (label : String) (failure : Option Fault) (detail : Bool)
  | around (label : String) (steps : List AroundStep)
  | retry (limit : Nat) (onlyIf : Option String)
  | trace (withArguments : Bool)
  | performance (thresholdSeconds : Nat)
  | exceptionLogging

inductive Placement where
  | everywhere
  | pointcut (pointcut : Except ConfigError Pointcut)
  | methodNames (rules : List String)
  | regex (patterns : List String)
  | execution (text : String)

structure AdvisorScript where
  name : Option String := none
  advice : AdviceScript
  placement : Placement := .everywhere

namespace Script

def withMemory {α : Type} (step : Memory → α × Memory) : Action Memory α := do
  let memory ← Action.query (.update fun memory => (step memory).2)
  pure (step memory).1

def note (label : String) (entry : Note) : Action Memory Unit :=
  Action.update (·.write (.note label entry))

def joinPointNote (point : JoinPoint) : Action Memory JoinPointNote := do
  pure ⟨point, (← Action.consult).describe point.target⟩

def simpleNote (kind : AdviceType) (label : String) (detail : Bool) (outcome : Option Outcome)
    (point : JoinPoint) : Action Memory Unit := do
  let detail ← if detail then some <$> joinPointNote point else pure none
  note label (.simple kind point.signature point.arguments outcome detail)

def result (failure : Option Fault) : Except Fault Unit :=
  match failure with
  | some fault => .error fault
  | none => .ok ()

def newObject (plan : ObjectPlan) : Action Memory Target := do
  let id ← Action.query .allocate
  Action.update (·.place id plan.body)
  pure ⟨id, plan.type⟩

def swap (source : Source Memory) (plan : ObjectPlan) :
    Action Memory (Except ConfigError Description) := do
  let target ← newObject plan
  match ← Action.query (.swap source target) with
  | .ok old => return .ok ((← Action.consult).describe old)
  | .error error => return .error error

def counts (source : Source Memory) : Action Memory SourceCounts := do
  let counts ← Action.query (.counts source)
  pure (sourceCounts source counts (← Action.consult))

def callDeeper (proxy : Proxy) (method : Method) (args : Arguments) : Action Memory Outcome := do
  let depth := (← Action.consult).depth
  Action.update ({ · with depth := depth + 1 })
  let outcome ← Action.call proxy method args
  Action.update ({ · with depth })
  pure outcome

def addTo (index : Nat) (amount : Int32) (args : Arguments) : Option Arguments :=
  (args.get? .i32 index).bind fun (content : Int32) =>
    args.assign? index ⟨.i32, content + amount⟩

def onError (change : Fault → Outcome) : Option Outcome → Option Outcome
  | some (.error fault) => some (change fault)
  | last => last

def changeArguments (label : String) (kind : Bool → Note)
    (change : Arguments → Option Arguments) : Around Memory Unit := do
  let changed := change (← Around.joinPoint).arguments
  match changed with
  | some args => Around.setArguments args
  | none => pure ()
  Around.act (note label (kind changed.isSome))

def inspect (label : String) : Around Memory Unit := do
  let view ← Around.view
  Around.act do
    let shown ← joinPointNote view.point
    note label (.inspected view shown.target)
    note label (.joinPoint shown)

inductive Progress where
  | next (last : Option Outcome)
  | finish (outcome : Outcome)

def runStep (label : String) (last : Option Outcome) : AroundStep → Around Memory Progress
  | .log text => do
    Around.act (note label (.text text))
    return .next last
  | .noteArguments => do
    let point ← Around.joinPoint
    Around.act (note label (.arguments point.arguments))
    return .next last
  | .setArgument index value => do
    changeArguments label .argumentSet (·.set? index value)
    return .next last
  | .pushArgument value => do
    Around.setArguments ((← Around.joinPoint).arguments.push value)
    return .next last
  | .addArgument index amount => do
    changeArguments label .argumentAdded (addTo index amount)
    return .next last
  | .run => do
    Around.act (note label .entered)
    let outcome ← Around.proceed
    Around.act (note label (.exited outcome))
    return .next (some outcome)
  | .attempt => do
    match ← Around.proceed with
    | .ok value => return .next (some (.ok value))
    | .error fault => return .finish (.error fault)
  | .give value => return .finish (.ok value)
  | .fail fault => return .finish (.error fault)
  | .addContext text => return .next (onError (fun fault => .error (fault.withContext text)) last)
  | .recover value => return .next (onError (fun _ => .ok value) last)
  | .replace value =>
    match last with
    | some (.ok _) => return .next (some (.ok value))
    | _ => return .next last
  | .noteProxy => do
    match (← Around.view).exposed with
    | some proxy => Around.act do
        note label (.exposedProxy (some (← Action.query (.view proxy))))
    | none => Around.act (note label (.exposedProxy none))
    return .next last
  | .reenter method args limit => do
    let memory ← Around.act Action.consult
    if memory.depth < limit then
      match (← Around.view).exposed with
      | some proxy => Around.act do
          note label (.reentered (← callDeeper proxy method args))
      | none => Around.act (note label .noProxy)
    return .next last
  | .swap name plan => do
    match (← Around.act Action.consult).source? name with
    | some source => Around.act do note label (.swapped (← swap source plan))
    | none => Around.act (note label (.noSource "swap" name))
    return .next last
  | .counts name => do
    match (← Around.act Action.consult).source? name with
    | some source => Around.act do note label (.counted (← counts source))
    | none => Around.act (note label (.noSource "counts" name))
    return .next last
  | .inspect => do
    inspect label
    return .next last

def noResult : Fault := .text "no result"

def runSteps (label : String) : Option Outcome → List AroundStep → Around Memory Outcome
  | last, [] => return last.getD (.error noResult)
  | last, step :: rest => do
    match ← runStep label last step with
    | .finish outcome => return outcome
    | .next last => runSteps label last rest

end Script

def nanosecondsPerSecond : Nat := 1000000000

def occursIn (part : List Char) : List Char → Bool
  | [] => part.isEmpty
  | c :: rest => part.isPrefixOf (c :: rest) || occursIn part rest

namespace AdviceScript

def build : AdviceScript → Advice Memory
  | simple .before label failure detail => .before fun point => do
    Script.simpleNote .before label detail none point
    return Script.result failure
  | simple .after label _ detail => .after fun point =>
    Script.simpleNote .after label detail none point
  | simple .afterReturning label failure detail => .afterReturning fun point value => do
    Script.simpleNote .afterReturning label detail (some (.ok value)) point
    return Script.result failure
  | simple .afterThrowing label failure detail => .afterThrowing fun point fault => do
    Script.simpleNote .afterThrowing label detail (some (.error fault)) point
    return Script.result failure
  | simple .around label _ _ => .around (Script.runSteps label none [])
  | around label steps => .around (Script.runSteps label none steps)
  | retry limit none => .around (Retry.ofLimit limit).interceptor
  | retry limit (some part) =>
    .around (Retry.ofLimit limit
      (some fun fault => pure (occursIn part.toList fault.message.toList))).interceptor
  | trace withArguments => .around (traceAdvice withArguments)
  | performance seconds => .around (performanceAdvice (seconds * nanosecondsPerSecond))
  | exceptionLogging => .afterThrowing Weave.exceptionLogging

end AdviceScript

namespace AdvisorScript

def rename (name : Option String) (advisor : Advisor Memory) : Advisor Memory :=
  match name with
  | some name => advisor.named name
  | none => advisor

def build (script : AdvisorScript) : Except ConfigError (Advisor Memory) :=
  let advice := script.advice.build
  let placed : Except ConfigError (Advisor Memory) :=
    match script.placement with
    | .everywhere => .ok (Advisor.everywhere advice)
    | .pointcut pointcut => pointcut.map (Advisor.ofPointcut · advice)
    | .methodNames rules => .ok (Advisor.ofMethodNames rules advice)
    | .regex patterns => Advisor.ofRegex patterns advice
    | .execution text => Advisor.ofExecution text advice
  placed.map (rename script.name)

end AdvisorScript

end Weave.Bench
