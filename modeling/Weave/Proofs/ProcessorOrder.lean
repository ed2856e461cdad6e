import Weave.Bean

/-! Processors in order. However they were registered, a pipeline holds them as one stable sort of the
whole history by their numbers would leave them: sorting anew at each registration loses nothing. Their
hooks run in that order, each on what the one before it returned, up to the first that fails. -/

namespace Weave.Pipeline

variable [ValueTypes] {σ : Type}

/-! ### The order -/

/-- What a stable sort by their numbers makes of processors: each is kept, numbers ascend, and those of
one number stand as they did. -/
structure StablySorted (registered sorted : List (Processor σ)) : Prop where
  kept : sorted.Perm registered
  ascending : sorted.Pairwise fun earlier later => earlier.order ≤ later.order
  ties : ∀ order, sorted.filter (·.order == order) = registered.filter (·.order == order)

theorem precedes_iff (a b : Processor σ) : precedes a b = true ↔ a.order ≤ b.order :=
  decide_eq_true_iff

theorem precedes_trans (a b c : Processor σ) (ab : precedes a b = true) (bc : precedes b c = true) :
    precedes a c = true := by
  rw [precedes_iff] at *
  exact Int.le_trans ab bc

theorem precedes_total (a b : Processor σ) : (precedes a b || precedes b a) = true := by
  rw [Bool.or_eq_true, precedes_iff, precedes_iff]
  exact Int.le_total a.order b.order

theorem filter_mergeSort (processors : List (Processor σ)) (order : Int) :
    (processors.mergeSort precedes).filter (·.order == order) =
      processors.filter (·.order == order) := by
  have level : (processors.filter (·.order == order)).Pairwise (precedes · ·) := by
    refine List.pairwise_of_forall_mem_list fun a left b right => ?_
    have first : a.order = order := beq_iff_eq.1 (List.mem_filter.1 left).2
    have second : b.order = order := beq_iff_eq.1 (List.mem_filter.1 right).2
    exact (precedes_iff a b).2 (Int.le_of_eq (first.trans second.symm))
  have within := (List.sublist_mergeSort precedes_trans precedes_total level List.filter_sublist).filter
    (·.order == order)
  rw [List.filter_filter] at within
  simp only [Bool.and_self] at within
  refine (within.eq_of_length ?_).symm
  exact ((List.mergeSort_perm processors precedes).filter _).length_eq.symm

theorem stablySorted_mergeSort (processors : List (Processor σ)) :
    StablySorted processors (processors.mergeSort precedes) where
  kept := List.mergeSort_perm processors precedes
  ascending := (List.pairwise_mergeSort precedes_trans precedes_total processors).imp
    (precedes_iff _ _).1
  ties := filter_mergeSort processors

theorem first_le_first {a b : Processor σ} {rest others : List (Processor σ)}
    (ascending : (a :: rest).Pairwise fun earlier later => earlier.order ≤ later.order)
    (ties : ∀ order, (a :: rest).filter (·.order == order) = (b :: others).filter (·.order == order)) :
    a.order ≤ b.order := by
  have member : b ∈ (a :: rest).filter (·.order == b.order) := by
    rw [ties b.order]
    simp
  rcases List.mem_cons.1 (List.mem_filter.1 member).1 with rfl | behind
  · exact Int.le_refl _
  · exact List.rel_of_pairwise_cons ascending behind

theorem eq_of_ties {first second : List (Processor σ)}
    (left : first.Pairwise fun earlier later => earlier.order ≤ later.order)
    (right : second.Pairwise fun earlier later => earlier.order ≤ later.order)
    (ties : ∀ order, first.filter (·.order == order) = second.filter (·.order == order)) :
    first = second := by
  induction first generalizing second with
  | nil =>
    cases second with
    | nil => rfl
    | cons b others => simpa using ties b.order
  | cons a rest ih =>
    cases second with
    | nil => simpa using ties a.order
    | cons b others =>
      have level : b.order = a.order := Int.le_antisymm
        (first_le_first right fun order => (ties order).symm) (first_le_first left ties)
      obtain rfl : a = b := by
        have heads := congrArg List.head? (ties a.order)
        simpa [level] using heads
      refine congrArg (a :: ·) (ih left.of_cons right.of_cons fun order => ?_)
      have both := ties order
      rw [List.filter_cons, List.filter_cons] at both
      split at both
      · exact (List.cons.inj both).2
      · exact both

/-- There is only one stable sort: what comes first has the least number, and is the first of it. -/
theorem StablySorted.unique {registered first second : List (Processor σ)}
    (left : StablySorted registered first) (right : StablySorted registered second) :
    first = second :=
  eq_of_ties left.ascending right.ascending fun order =>
    (left.ties order).trans (right.ties order).symm

/-- Sorting anew after each registration is as good as sorting once. -/
theorem StablySorted.add {registered : List (Processor σ)} {pipeline : Pipeline σ}
    (sorted : StablySorted registered pipeline.processors) (processor : Processor σ) :
    StablySorted (registered ++ [processor]) (pipeline.add processor).processors where
  kept := (List.mergeSort_perm _ _).trans (sorted.kept.append_right [processor])
  ascending := (stablySorted_mergeSort _).ascending
  ties order := by
    rw [Pipeline.add, filter_mergeSort, List.filter_append, List.filter_append, sorted.ties]

theorem stablySorted_foldl_add (registered later : List (Processor σ)) (pipeline : Pipeline σ)
    (sorted : StablySorted registered pipeline.processors) :
    StablySorted (registered ++ later) (later.foldl Pipeline.add pipeline).processors := by
  induction later generalizing registered pipeline with
  | nil =>
    rw [List.append_nil]
    exact sorted
  | cons processor rest ih =>
    rw [List.append_cons]
    exact ih _ _ (sorted.add processor)

/-! ### The hooks -/

section
variable (hook : Processor σ → BeanHook σ) (note : Processor σ → String → Option Event)
  (name : String)

def serve (processor : Processor σ) (now : Bean × Container σ) :
    Except ContainerError Bean × Container σ :=
  hook processor now.1 name (now.2.emitAll (note processor name).toList)

/-- The hooks of processors succeed one after another, each on the bean that the one before it
returned and in the container that it left. -/
inductive Passes : List (Processor σ) → Bean × Container σ → Bean × Container σ → Prop
  | none (now : Bean × Container σ) : Passes [] now now
  | next {processor : Processor σ} {rest : List (Processor σ)} {now between last : Bean × Container σ}
      (served : serve hook note name processor now = (.ok between.1, between.2))
      (others : Passes rest between last) : Passes (processor :: rest) now last

theorem runHooks_cons (processor : Processor σ) (rest : List (Processor σ)) (bean : Bean)
    (container : Container σ) :
    runHooks hook note (processor :: rest) bean name container =
      match serve hook note name processor (bean, container) with
      | (.ok returned, after) => runHooks hook note rest returned name after
      | (.error error, after) => (.error error, after) := rfl

theorem runHooks_eq_ok (processors : List (Processor σ)) (bean last : Bean)
    (container after : Container σ) :
    runHooks hook note processors bean name container = (.ok last, after) ↔
      Passes hook note name processors (bean, container) (last, after) := by
  induction processors generalizing bean container with
  | nil =>
    constructor
    · rintro ⟨⟩
      exact .none _
    · rintro ⟨⟩
      rfl
  | cons processor rest ih =>
    rw [runHooks_cons]
    constructor
    · intro ended
      split at ended
      · rename_i returned between served
        exact .next served ((ih _ _).1 ended)
      · exact nomatch (Prod.mk.inj ended).1
    · rintro ⟨⟩
      rename_i returned served others
      rw [served]
      exact (ih _ _).2 others

/-- The run fails just if some hook fails after all before it have succeeded. That hook is the last
thing to happen. -/
theorem runHooks_eq_error (processors : List (Processor σ)) (bean : Bean) (error : ContainerError)
    (container after : Container σ) :
    runHooks hook note processors bean name container = (.error error, after) ↔
      ∃ ahead failing behind reached, processors = ahead ++ failing :: behind ∧
        Passes hook note name ahead (bean, container) reached ∧
        serve hook note name failing reached = (.error error, after) := by
  induction processors generalizing bean container with
  | nil =>
    constructor
    · exact fun ended => nomatch (Prod.mk.inj ended).1
    · rintro ⟨ahead, failing, behind, -, split, -⟩
      exact absurd split.symm (List.append_ne_nil_of_right_ne_nil _ (List.cons_ne_nil _ _))
  | cons processor rest ih =>
    rw [runHooks_cons]
    constructor
    · intro ended
      split at ended
      · rename_i returned between served
        obtain ⟨ahead, failing, behind, reached, rfl, passes, failed⟩ := (ih _ _).1 ended
        exact ⟨processor :: ahead, failing, behind, reached, rfl, .next served passes, failed⟩
      · rename_i failure between served
        rw [ended] at served
        exact ⟨[], processor, rest, _, rfl, .none _, served⟩
    · rintro ⟨ahead, failing, behind, reached, split, passes, failed⟩
      cases passes with
      | none =>
        obtain ⟨rfl, rfl⟩ := List.cons.inj split
        rw [failed]
      | next served others =>
        obtain ⟨rfl, rfl⟩ := List.cons.inj split
        rw [served]
        exact (ih _ _).2 ⟨_, failing, behind, reached, rfl, others, failed⟩

end

/-- A hook for beans that is made of the hooks of processors, in this order. -/
structure RunsInOrder (run : BeanHook σ) (hook : Processor σ → BeanHook σ)
    (note : Processor σ → String → Option Event) (processors : List (Processor σ)) : Prop where
  passed : ∀ bean name container last after, run bean name container = (.ok last, after) ↔
    Passes hook note name processors (bean, container) (last, after)
  stopped : ∀ bean name container error after, run bean name container = (.error error, after) ↔
    ∃ ahead failing behind reached, processors = ahead ++ failing :: behind ∧
      Passes hook note name ahead (bean, container) reached ∧
      serve hook note name failing reached = (.error error, after)

theorem runsInOrder_runHooks (hook : Processor σ → BeanHook σ)
    (note : Processor σ → String → Option Event) (processors : List (Processor σ)) :
    RunsInOrder (runHooks hook note processors) hook note processors where
  passed bean name container last after :=
    runHooks_eq_ok hook note name processors bean last container after
  stopped bean name container error after :=
    runHooks_eq_error hook note name processors bean error container after

/-- Whatever processors were registered one after another, the pipeline holds their stable sort by
number, which is unique, and a bean passes through their hooks in that order, before it is initialised
and after, up to the first failure. Only the hooks after initialisation are put on record. -/
theorem registered_run_sorted (registered : List (Processor σ)) :
    let pipeline := registered.foldl Pipeline.add ({} : Pipeline σ)
    (∀ sorted, StablySorted registered sorted ↔ sorted = pipeline.processors) ∧
      RunsInOrder pipeline.beforeInitialization (·.before) (fun _ _ => none) pipeline.processors ∧
      RunsInOrder pipeline.afterInitialization (·.after)
        (fun processor name => some (.processorApplied processor.name name)) pipeline.processors := by
  intro pipeline
  have sorted : StablySorted registered pipeline.processors :=
    stablySorted_foldl_add [] registered {} ⟨.nil, .nil, fun _ => rfl⟩
  refine ⟨fun other => ⟨fun also => also.unique sorted, fun same => same ▸ sorted⟩, ?_, ?_⟩
  · exact runsInOrder_runHooks _ _ _
  · exact runsInOrder_runHooks _ _ _

end Weave.Pipeline
