import Weave.Container

/-! Beans and what processes them. Processors see every bean before and after it is initialised, in
ascending order of their numbers, ties in the order of registration; each gets what the one before
it returned, and the first failure ends the run. -/

namespace Weave

variable [ValueTypes] {σ : Type}

/-- A managed object: a plain one, or a proxy, which is an object too. -/
inductive Bean where
  | plain (target : Target)
  | proxied (id : ObjectId) (proxy : Proxy)
deriving DecidableEq, Repr

def Bean.id : Bean → ObjectId
  | plain target => target.id
  | proxied id _ => id

inductive ContainerError where
  | processorFailed (processor bean message : String)
  | other (fault : Fault)
deriving DecidableEq, Repr

namespace ContainerError

def familyName : String := "ContainerError"

def processorFailure (processor bean message : String) : ServiceError :=
  ⟨familyName, "PostProcessorFailed",
    "BeanPostProcessor '" ++ processor ++ "' failed for bean '" ++ bean ++ "': " ++ message, none⟩

def toFault : ContainerError → Fault
  | processorFailed processor bean message => .service (processorFailure processor bean message)
  | other fault => .base (.transparent familyName fault)

end ContainerError

abbrev BeanHook (σ : Type) :=
  Bean → String → Container σ → Except ContainerError Bean × Container σ

def BeanHook.pass : BeanHook σ := fun bean _ container => (.ok bean, container)

structure Processor (σ : Type) where
  name : String := "BeanPostProcessor"
  order : Int := 1000
  before : BeanHook σ := BeanHook.pass
  after : BeanHook σ := BeanHook.pass

/-- The processors of a container, kept sorted. -/
structure Pipeline (σ : Type) where
  processors : List (Processor σ) := []

namespace Pipeline

def precedes (a b : Processor σ) : Bool := a.order ≤ b.order

def add (pipeline : Pipeline σ) (processor : Processor σ) : Pipeline σ :=
  ⟨(pipeline.processors ++ [processor]).mergeSort precedes⟩

theorem foldl_add {ι : Type} (processor : ι → Processor σ) (order : Int)
    (same : ∀ each, (processor each).order = order) (registered : List ι) (pipeline : Pipeline σ)
    (before : ∀ earlier ∈ pipeline.processors, earlier.order = order) :
    (registered.foldl (fun pipeline each => pipeline.add (processor each)) pipeline).processors =
      pipeline.processors ++ registered.map processor := by
  induction registered generalizing pipeline with
  | nil => rw [List.foldl_nil, List.map_nil, List.append_nil]
  | cons first rest ih =>
    have all : ∀ each ∈ pipeline.processors ++ [processor first], each.order = order :=
      List.forall_mem_append.2 ⟨before, List.forall_mem_singleton.2 (same first)⟩
    have sorted : (pipeline.add (processor first)).processors =
        pipeline.processors ++ [processor first] := by
      refine List.mergeSort_of_pairwise (List.pairwise_of_forall_mem_list fun a left b right => ?_)
      simp [precedes, all a left, all b right]
    rw [List.foldl_cons, ih _ (by rw [sorted]; exact all), sorted, List.map_cons, List.append_assoc,
      List.singleton_append]

def runHooks (hook : Processor σ → BeanHook σ) (note : Processor σ → String → Option Event) :
    List (Processor σ) → BeanHook σ
  | [], bean, _, container => (.ok bean, container)
  | processor :: rest, bean, name, container =>
    let container := container.emitAll (note processor name).toList
    match hook processor bean name container with
    | (.ok bean, container) => runHooks hook note rest bean name container
    | (.error error, container) => (.error error, container)

def beforeInitialization (pipeline : Pipeline σ) : BeanHook σ :=
  runHooks (·.before) (fun _ _ => none) pipeline.processors

def afterInitialization (pipeline : Pipeline σ) : BeanHook σ :=
  runHooks (·.after) (fun processor bean => some (.processorApplied processor.name bean))
    pipeline.processors

end Pipeline

end Weave
