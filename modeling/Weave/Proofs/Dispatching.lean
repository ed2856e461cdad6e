import Weave.Container
import Weave.Proofs.TypedTargets

/-! Which methods a proxy passes on, and to what. A method is passed on exactly if it is declared where
the proxy looks, and then the target's class has a binding for it: the search for one cannot fail,
nor can the target be of another type. Whatever happened before, a call of any other method does
nothing at all. -/

namespace Weave

/-! ### Classes -/

/-- Classes as they are built, step by step. -/
inductive TargetClass.Built : TargetClass → Prop
  | ofType (type : ObjectType) : Built (.ofType type)
  | ofClass (type : ObjectType) (descriptor : ClassDescriptor) : Built (.ofClass type descriptor)
  | named {cls : TargetClass} (name : String) (built : Built cls) : Built (cls.named name)
  | implementing {cls : TargetClass} (interface : Interface) (built : Built cls) :
      Built (cls.implementing interface)
  | sealed {cls : TargetClass} (built : Built cls) : Built cls.sealed

/-- The entry point that serves a method: that of the class if the class declares it, else that of
the first interface that does. -/
inductive TargetClass.Serves (cls : TargetClass) (method : Method) : EntryPoint → Prop
  | own {descriptor : ClassDescriptor} (bound : cls.classDescriptor? = some descriptor)
      (declares : method ∈ descriptor.methods) : Serves cls method .classMethods
  | interface {index : Nat} {interface : Interface}
      (notOwn : ∀ descriptor, cls.classDescriptor? = some descriptor → method ∉ descriptor.methods)
      (here : cls.interfaceList[index]? = some interface) (declares : method ∈ interface.methods)
      (first : ∀ earlier other, earlier < index → cls.interfaceList[earlier]? = some other →
        method ∉ other.methods) : Serves cls method (.interfaceMethods index)

/-- Every binding of a class that was built has its own entry point. -/
structure TargetClass.Bound (cls : TargetClass) : Prop where
  own : ∀ binding, cls.classBinding = some binding → binding.entry = .classMethods
  interfaces : ∀ (index : Nat) (binding : Binding Interface), cls.interfaces[index]? = some binding →
    binding.entry = .interfaceMethods index

theorem TargetClass.Built.bound {cls : TargetClass} (built : cls.Built) : cls.Bound := by
  induction built with
  | ofType type => exact ⟨fun _ bound => (nomatch bound), fun _ _ listed => (nomatch listed)⟩
  | ofClass type descriptor =>
    refine ⟨fun binding bound => ?_, fun _ _ listed => (nomatch listed)⟩
    rw [← Option.some.inj bound]
  | named name built ih => exact ⟨ih.own, ih.interfaces⟩
  | sealed built ih => exact ⟨ih.own, ih.interfaces⟩
  | @implementing cls interface built ih =>
    refine ⟨ih.own, fun index binding listed => ?_⟩
    change (cls.interfaces ++ [_])[index]? = some binding at listed
    rcases Nat.lt_or_ge index cls.interfaces.length with earlier | last
    · rw [List.getElem?_append_left earlier] at listed
      exact ih.interfaces index binding listed
    · rw [List.getElem?_append_right last] at listed
      obtain ⟨place, rfl⟩ := List.getElem?_eq_some_iff.1 listed
      rw [List.length_singleton, Nat.lt_one_iff] at place
      simp [show index = cls.interfaces.length by omega]

/-- The search for an entry point finds the one that serves the method. -/
theorem TargetClass.Bound.route_serves {cls : TargetClass} (bound : cls.Bound) {method : Method}
    {entry : EntryPoint} {expected : String} (route : cls.route? method = some (entry, expected)) :
    cls.Serves method entry := by
  unfold TargetClass.route? at route
  cases own : cls.classBinding.filter (·.descriptor.declares method) with
  | some binding =>
    rw [own] at route
    obtain ⟨has, declares⟩ := Option.filter_eq_some_iff.1 own
    rw [← (Prod.mk.inj (Option.some.inj route)).1, bound.own binding has]
    refine .own (congrArg (·.map (·.descriptor)) has) ?_
    exact ClassDescriptor.declares_iff.1 declares
  | none =>
    rw [own] at route
    obtain ⟨binding, found, same⟩ := Option.map_eq_some_iff.1 route
    obtain ⟨declares, index, within, here, before⟩ := List.find?_eq_some_iff_getElem.1 found
    have listed : cls.interfaces[index]? = some binding := List.getElem?_eq_some_iff.2 ⟨within, here⟩
    rw [← (Prod.mk.inj same).1, bound.interfaces index binding listed]
    refine .interface (fun descriptor has member => ?_) ?_ (Interface.declares_iff.1 declares)
      fun earlier other sooner there member => ?_
    · obtain ⟨owned, present, rfl⟩ := Option.map_eq_some_iff.1 has
      rw [present, Option.filter_some, if_pos (ClassDescriptor.declares_iff.2 member)] at own
      contradiction
    · rw [TargetClass.interfaceList, List.getElem?_map, listed]
      rfl
    · rw [TargetClass.interfaceList, List.getElem?_map] at there
      obtain ⟨passed, earlierOne, rfl⟩ := Option.map_eq_some_iff.1 there
      obtain ⟨_, same⟩ := List.getElem?_eq_some_iff.1 earlierOne
      have refused := before earlier sooner
      rw [same, Interface.declares_iff.2 member] at refused
      contradiction

/-- The methods that a proxy of a strategy passes on to a target of the class. -/
def TargetClass.Offers (cls : TargetClass) (strategy : Strategy) (method : Method) : Prop :=
  (∃ interface ∈ cls.interfaceList, method ∈ interface.methods) ∨
    strategy = .subclassGeneration ∧
      ∃ descriptor, cls.classDescriptor? = some descriptor ∧ method ∈ descriptor.methods

variable [ValueTypes] {σ : Type}

theorem exposes_iff {snapshot : Snapshot σ} {strategy : Strategy} {method : Method} :
    snapshot.exposes strategy method = true ↔ snapshot.cls.Offers strategy method := by
  unfold Snapshot.exposes TargetClass.Offers
  rw [Bool.or_eq_true, Bool.and_eq_true, decide_eq_true_eq, TargetClass.declaresViaClass_iff,
    TargetClass.declaresViaInterface_iff, or_comm]

/-! ### Calls -/

/-- What a call dispatches goes to the code that serves its method, and to nothing else. -/
def Setup.Serving (setup : Setup σ) (cls : TargetClass) (method : Method) : Operation σ → Prop
  | .dispatch other target called args =>
    other = cls ∧ called = method ∧ ∃ entry, cls.Serves method entry ∧
      ∀ state, cls.dispatch setup target method args state =
        state.withMemory (setup.entryCode entry target method args)
  | _ => True

theorem dispatch_serving (setup : Setup σ) {cls : TargetClass} (bound : cls.Bound)
    {target : Target} (fits : target.type = cls.type) {method : Method}
    (declared : (cls.route? method).isSome = true) (args : Arguments) :
    setup.Serving cls method (.dispatch cls target method args) := by
  obtain ⟨⟨entry, expected⟩, route⟩ := Option.isSome_iff_exists.1 declared
  refine ⟨rfl, rfl, entry, bound.route_serves route, fun state => ?_⟩
  rw [TargetClass.dispatch, route]
  exact if_pos fits

/-- A proxy that was built for a class built step by step, over a source of one of the usual kinds
that was not used before, passes on exactly the methods that its class declares where the proxy
looks. At any moment of what a client does with proxies, a call of any other method ends in an error
and does nothing, and what a call of such a method dispatches goes to the code of the first binding
that declares it. -/
theorem built_proxy_dispatches {α : Type} (container made : Container σ) (factory : Factory σ)
    (proxy : Proxy) (proxied : container.proxyOf factory = (.ok proxy, made))
    (built : factory.source.cls.Built) (builtIn : factory.source.BuiltIn)
    (setup : Setup σ) (kept : setup.snapshots proxy.snapshot = made.snapshotOf proxy.snapshot)
    (depth : Nat) (client : Action σ α) (start now : State σ)
    (unlent : start.stock.pool factory.source.id = {})
    (unswapped : start.stock.current.find? factory.source.id = none)
    (alone : ∀ exchange ∈ (client.course (setup.call depth)).transcript setup.perform start,
      factory.source.Alone exchange.1)
    (past : List (Exchange σ))
    (moment : Dialogue.Reaches setup.perform (client.course (setup.call depth)) start past now)
    (method : Method) :
    let cls := factory.source.cls
    ((setup.snapshots proxy.snapshot).exposes proxy.strategy method = true ↔
      cls.Offers proxy.strategy method) ∧
    ∀ allowance args,
      let call := setup.call (allowance + 1) proxy method args
      (¬ cls.Offers proxy.strategy method →
        call.transcript setup.perform now = [] ∧ call.run setup.perform now =
          (.error (.invocation (.methodNotProxied method.signature proxy.strategy)), now)) ∧
      (cls.Offers proxy.strategy method →
        Interleaved (setup.Serving cls method) (setup.WholeCall allowance)
          (call.transcript setup.perform now)) := by
  intro cls
  have snapshotOf : setup.snapshots proxy.snapshot = factory.snapshot :=
    kept.trans (Container.proxyOf_ok proxied)
  have exposes : (setup.snapshots proxy.snapshot).exposes proxy.strategy method = true ↔
      cls.Offers proxy.strategy method := by
    rw [exposes_iff, snapshotOf]
    rfl
  refine ⟨exposes, fun allowance args => ⟨fun refused => ?_, fun offered => ?_⟩⟩
  · have hidden := Bool.eq_false_iff.2 (mt exposes.1 refused)
    rw [call_hidden setup allowance proxy method args hidden]
    exact ⟨rfl, rfl⟩
  · refine interleaved_call setup allowance args now (exposes.2 offered) ?_ ?_
    · intro operation aside
      cases operation with
      | dispatch => contradiction
      | fetch | giveBack | findChain | advise | query => trivial
    · have declared := Snapshot.exposes_declared (exposes.2 offered)
      rw [snapshotOf] at declared ⊢
      intro target taken args
      have fits := supplies_fitting builtIn.fits unlent unswapped alone moment taken
      exact dispatch_serving setup built.bound fits declared args

end Weave

namespace Weave.Echo

def builtCls : TargetClass := (TargetClass.ofType type).implementing ⟨"", "Echo", [method]⟩

def replaceable : Source Nat := ⟨0, builtCls, .swappable ⟨0, type⟩⟩

def factory : Factory Nat :=
  { source := replaceable, advisors := [.everywhere (.around again)], flags := { exposeProxy := true } }

def container : Container Nat where
  entryCode _ target _ _ memory := (.ok ⟨.u64, target.id.toUInt64⟩, memory)
  state := fresh

/-- After the target was replaced, a call and the one that advice makes within it are served, and a
method of the same signature from elsewhere is still refused. -/
theorem replaced_serves :
    let setup := (container.proxyOf factory).2.setup
    let replace : Action Nat _ := Action.query (.swap replaceable ⟨7, type⟩)
    let now := ((replace.course (setup.call 2)).run setup.perform fresh).2
    now.stock.currentOf 0 ⟨0, type⟩ = ⟨7, type⟩ ∧
      Interleaved (setup.Serving builtCls method) (setup.WholeCall 1)
        ((setup.call 2 proxy method {}).transcript setup.perform now) ∧
      (setup.call 2 proxy elsewhere {}).transcript setup.perform now = [] := by
  intro setup replace now
  have proxied : container.proxyOf factory = (.ok proxy, (container.proxyOf factory).2) := rfl
  have alone : ∀ exchange ∈ (replace.course (setup.call 2)).transcript setup.perform fresh,
      replaceable.Alone exchange.1 := List.forall_mem_singleton.2 fun _ => rfl
  have built : builtCls.Built := .implementing _ (.ofType type)
  have made : Source.swappable 0 builtCls ⟨0, type⟩ = .ok replaceable := rfl
  have dispatches := built_proxy_dispatches container _ factory proxy proxied built (.swappable made)
    setup rfl 2 replace fresh now rfl rfl alone _ (Dialogue.reaches_end _ _ _)
  have offered : builtCls.Offers proxy.strategy method :=
    .inl ⟨_, List.mem_singleton_self _, List.mem_singleton_self _⟩
  have hidden : (setup.snapshots proxy.snapshot).exposes proxy.strategy elsewhere = false := by decide
  have refused : ¬ builtCls.Offers proxy.strategy elsewhere :=
    mt (dispatches elsewhere).1.2 (Bool.eq_false_iff.1 hidden)
  exact ⟨rfl, ((dispatches method).2 1 {}).2 offered, (((dispatches elsewhere).2 1 {}).1 refused).1⟩

end Weave.Echo
