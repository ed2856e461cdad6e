import Weave.Proofs.Dispatching

/-! Proxies under the types they stand for. Whether a proxy can be used under an interface or under a
class is one decision, which methods it passes on is another, and how it exposes its target was decided
when it was built. They fit together: a proxy that can be used under a type passes on every method of
that type. -/

namespace Weave

/-! ### Classes -/

theorem selectStrategy_subclass {flags : ProxyFlags} {cls : TargetClass} :
    selectStrategy flags cls = .subclassGeneration ↔
      flags.optimize = true ∨ flags.proxyTargetClass = true ∨ cls.interfaceList = [] := by
  have bare : cls.hasInterfaces = false ↔ cls.interfaceList = [] := by
    simp only [TargetClass.hasInterfaces, TargetClass.interfaceList, Bool.not_eq_false',
      List.isEmpty_iff, List.map_eq_nil_iff]
  rw [← bare, ← or_assoc, ← Bool.or_eq_true, ← Bool.not_eq_true', ← Bool.or_eq_true]
  unfold selectStrategy
  split
  · exact iff_of_true rfl ‹_›
  · exact iff_of_false (by rintro ⟨⟩) ‹_›

theorem TargetClass.checkSubclassable_ok {cls : TargetClass} :
    cls.checkSubclassable = .ok () ↔ cls.isSealed = false ∧ cls.classBinding.isSome = true := by
  unfold checkSubclassable
  cases cls.isSealed with
  | true => exact iff_of_false (by rintro ⟨⟩) (by rintro ⟨⟨⟩, _⟩)
  | false =>
    cases cls.classBinding with
    | none => exact iff_of_false (by rintro ⟨⟩) (by rintro ⟨_, ⟨⟩⟩)
    | some binding => exact iff_of_true rfl ⟨rfl, rfl⟩

theorem TargetClass.implementsSame_iff {cls : TargetClass} {wanted : Interface} :
    cls.implementsSame wanted = true ↔ ∃ interface ∈ cls.interfaceList,
      interface.module = wanted.module ∧ interface.name = wanted.name := by
  simp only [implementsSame, Interface.isSame, List.any_eq_true, Bool.and_eq_true, beq_iff_eq]

/-! ### Building -/

variable [ValueTypes] {σ : Type}

/-- A proxy built by the configuration has the strategy that the configuration selects, and one for a
subclass has a class that admits it. -/
theorem ProxyBuilder.build_byConfiguration {snapshot : Snapshot σ} {strategy : Strategy} :
    byConfiguration.build snapshot = .ok strategy ↔
      selectStrategy snapshot.flags snapshot.cls = strategy ∧
        (strategy = .subclassGeneration → snapshot.cls.checkSubclassable = .ok ()) := by
  unfold build strategyFor
  cases selectStrategy snapshot.flags snapshot.cls with
  | interfaceForwarding =>
    cases strategy with
    | interfaceForwarding => exact iff_of_true rfl ⟨rfl, by rintro ⟨⟩⟩
    | subclassGeneration => exact iff_of_false (by rintro ⟨⟩) (by rintro ⟨⟨⟩, _⟩)
  | subclassGeneration =>
    cases admitted : snapshot.cls.checkSubclassable with
    | error error =>
      refine iff_of_false (by rintro ⟨⟩) ?_
      rintro ⟨rfl, admits⟩
      exact nomatch admits rfl
    | ok =>
      cases strategy with
      | interfaceForwarding => exact iff_of_false (by rintro ⟨⟩) (by rintro ⟨⟨⟩, _⟩)
      | subclassGeneration => exact iff_of_true rfl ⟨rfl, fun _ => rfl⟩

namespace Container

variable {container made : Container σ} {factory : Factory σ} {proxy : Proxy}

theorem proxyOf_outcome (container : Container σ) (factory : Factory σ) :
    (container.proxyOf factory).1 = (factory.builder.build factory.snapshot).map fun strategy =>
      ⟨strategy, container.snapshots.size⟩ := by
  unfold proxyOf proxyFor
  cases factory.builder.build factory.snapshot with
  | error error => cases factory.builder <;> rfl
  | ok strategy => cases factory.builder <;> rfl

theorem proxyOf_strategy (built : container.proxyOf factory = (.ok proxy, made)) :
    factory.builder.build factory.snapshot = .ok proxy.strategy := by
  have outcome := container.proxyOf_outcome factory
  rw [built] at outcome
  cases verdict : factory.builder.build factory.snapshot with
  | error error =>
    rw [verdict] at outcome
    contradiction
  | ok strategy =>
    rw [verdict] at outcome
    rw [Except.ok.inj outcome]

theorem proxyOf_of_build {strategy : Strategy}
    (builds : factory.builder.build factory.snapshot = .ok strategy) :
    container.proxyOf factory =
      (.ok ⟨strategy, container.snapshots.size⟩, (container.proxyOf factory).2) := by
  have outcome := container.proxyOf_outcome factory
  rw [builds] at outcome
  exact Prod.ext outcome rfl

/-! ### Views -/

theorem interfaceProxyOf_ok {wanted : Interface} :
    container.interfaceProxyOf factory wanted = (.ok proxy, made) ↔
      container.proxyOf factory = (.ok proxy, made) ∧
        factory.source.cls.implementsSame wanted = true := by
  unfold interfaceProxyOf
  cases built : container.proxyOf factory with
  | mk outcome after =>
    cases outcome with
    | error error => exact iff_of_false (by rintro ⟨⟩) (by rintro ⟨⟨⟩, _⟩)
    | ok own =>
      have cls : (after.snapshotOf own.snapshot).cls = factory.source.cls := by
        rw [proxyOf_ok built]
        rfl
      simp only [asInterface, cls]
      cases factory.source.cls.implementsSame wanted with
      | true => simp [Except.map]
      | false => exact iff_of_false (by rintro ⟨⟩) (by rintro ⟨_, ⟨⟩⟩)

theorem classProxyOf_ok {type : ObjectType} {descriptor : ClassDescriptor} :
    container.classProxyOf factory type descriptor = (.ok proxy, made) ↔
      container.proxyOf factory = (.ok proxy, made) ∧ proxy.strategy = .subclassGeneration ∧
        factory.source.cls.type = type := by
  unfold classProxyOf
  cases built : container.proxyOf factory with
  | mk outcome after =>
    cases outcome with
    | error error => exact iff_of_false (by rintro ⟨⟩) (by rintro ⟨⟨⟩, _⟩)
    | ok own =>
      have cls : (after.snapshotOf own.snapshot).cls = factory.source.cls := by
        rw [proxyOf_ok built]
        rfl
      simp only [asClass, cls]
      by_cases subclass : own.strategy = .subclassGeneration
      · by_cases same : factory.source.cls.type = type
        · simp only [subclass, same, ne_eq, not_true_eq_false, if_false]
          constructor
          · rintro ⟨⟩
            exact ⟨rfl, subclass, trivial⟩
          · rintro ⟨⟨⟩, _⟩
            rfl
        · simp [subclass, same, Except.map]
      · simp only [subclass, ne_eq, not_false_eq_true, if_true]
        refine iff_of_false (by rintro ⟨⟩) ?_
        rintro ⟨⟨⟩, strategy, _⟩
        exact subclass strategy

end Container

/-! ### Calls through a view -/

/-- A call that its proxy does not refuse: it comes to the source before anything else happens, and its
outcome is the source's own error or what the chain, down to the target, came to. -/
def Setup.CarriesOut (setup : Setup σ) (depth : Nat) (proxy : Proxy) (method : Method)
    (args : Arguments) (before : State σ) : Prop :=
  let snapshot := setup.snapshots proxy.snapshot
  let call := setup.call (depth + 1) proxy method args
  (call.transcript setup.perform before).head? =
      some ⟨.fetch snapshot.source, (snapshot.source.take before).1⟩ ∧
    (call.run setup.perform before).1 =
      match snapshot.source.take before with
      | (.error fault, _) => .error fault
      | (.ok target, after) =>
        ((snapshot.callOn (setup.call depth) proxy target method args).run setup.perform after).1

theorem exposed_carriesOut (setup : Setup σ) (depth : Nat) {proxy : Proxy} {method : Method}
    (exposed : (setup.snapshots proxy.snapshot).exposes proxy.strategy method = true)
    (args : Arguments) (before : State σ) : setup.CarriesOut depth proxy method args before := by
  simp only [Setup.CarriesOut]
  cases taken : (setup.snapshots proxy.snapshot).source.take before with
  | mk outcome after =>
    cases outcome with
    | error fault =>
      obtain ⟨exchanges, run⟩ := call_refused setup depth args exposed taken
      rw [exchanges, run]
      exact ⟨rfl, rfl⟩
    | ok target =>
      cases static : (setup.snapshots proxy.snapshot).source.isStatic with
      | true =>
        obtain ⟨exchanges, run⟩ := call_static setup depth args exposed taken static
        rw [exchanges, run]
        exact ⟨rfl, rfl⟩
      | false =>
        obtain ⟨exchanges, run⟩ := call_returned setup depth args exposed taken static
        rw [exchanges, run]
        exact ⟨rfl, rfl⟩

/-- A proxy passes on all of these methods, and refuses no call of any, whenever it is made. -/
def Container.PassesOn (container : Container σ) (proxy : Proxy) (methods : List Method) : Prop :=
  ∀ method ∈ methods, container.exposes proxy method = true ∧
    ∀ setup : Setup σ, setup.snapshots proxy.snapshot = container.snapshotOf proxy.snapshot →
      ∀ depth args before, setup.CarriesOut depth proxy method args before

theorem passesOn_offered {container made : Container σ} {factory : Factory σ} {proxy : Proxy}
    (built : container.proxyOf factory = (.ok proxy, made)) {methods : List Method}
    (offered : ∀ method ∈ methods, factory.source.cls.Offers proxy.strategy method) :
    made.PassesOn proxy methods := by
  intro method member
  have exposed : (made.snapshotOf proxy.snapshot).exposes proxy.strategy method = true := by
    rw [Container.proxyOf_ok built]
    exact exposes_iff.2 (offered method member)
  refine ⟨exposed, fun setup kept depth args before => ?_⟩
  rw [← kept] at exposed
  exact exposed_carriesOut setup depth exposed args before

/-- With the usual builder, a proxy can be had under an interface exactly if one can be had at all and
the class has an interface of that module and name; it can be had under a class exactly if the flags, or
the lack of interfaces, ask for a subclass, and the class admits one and is of that very type. Either
way it passes on every method of what it is used under, given that interfaces of one identity list the
same methods and that the class is bound by the descriptor it is used under. -/
theorem views_pass_on_methods (container : Container σ) (factory : Factory σ)
    (usual : factory.builder = .byConfiguration) :
    let cls := factory.source.cls
    (∀ wanted : Interface,
      ((∃ view made, container.interfaceProxyOf factory wanted = (.ok view, made)) ↔
        (∃ proxy made, container.proxyOf factory = (.ok proxy, made)) ∧
          ∃ interface ∈ cls.interfaceList,
            interface.module = wanted.module ∧ interface.name = wanted.name) ∧
      ∀ view made, container.interfaceProxyOf factory wanted = (.ok view, made) →
        (∀ interface ∈ cls.interfaceList, interface.module = wanted.module →
          interface.name = wanted.name → interface.methods = wanted.methods) →
        made.PassesOn view wanted.methods) ∧
    ∀ (type : ObjectType) (descriptor : ClassDescriptor),
      ((∃ view made, container.classProxyOf factory type descriptor = (.ok view, made)) ↔
        (factory.flags.optimize = true ∨ factory.flags.proxyTargetClass = true ∨
            cls.interfaceList = []) ∧
          cls.isSealed = false ∧ cls.classBinding.isSome = true ∧ cls.type = type) ∧
      ∀ view made, container.classProxyOf factory type descriptor = (.ok view, made) →
        cls.classDescriptor? = some descriptor → made.PassesOn view descriptor.methods := by
  intro cls
  refine ⟨fun wanted => ⟨⟨?_, ?_⟩, ?_⟩, fun type descriptor => ⟨⟨?_, ?_⟩, ?_⟩⟩
  · rintro ⟨view, made, viewed⟩
    obtain ⟨built, same⟩ := Container.interfaceProxyOf_ok.1 viewed
    exact ⟨⟨view, made, built⟩, TargetClass.implementsSame_iff.1 same⟩
  · rintro ⟨⟨proxy, made, built⟩, same⟩
    exact ⟨proxy, made,
      Container.interfaceProxyOf_ok.2 ⟨built, TargetClass.implementsSame_iff.2 same⟩⟩
  · intro view made viewed alike
    obtain ⟨built, same⟩ := Container.interfaceProxyOf_ok.1 viewed
    obtain ⟨interface, listed, module, name⟩ := TargetClass.implementsSame_iff.1 same
    refine passesOn_offered built fun method member => .inl ⟨interface, listed, ?_⟩
    rwa [alike interface listed module name]
  · rintro ⟨view, made, viewed⟩
    obtain ⟨built, subclass, same⟩ := Container.classProxyOf_ok.1 viewed
    have builds := Container.proxyOf_strategy built
    rw [usual, subclass] at builds
    obtain ⟨selected, admits⟩ := ProxyBuilder.build_byConfiguration.1 builds
    obtain ⟨unsealed, bound⟩ := TargetClass.checkSubclassable_ok.1 (admits rfl)
    exact ⟨selectStrategy_subclass.1 selected, unsealed, bound, same⟩
  · rintro ⟨asked, unsealed, bound, same⟩
    have builds : factory.builder.build factory.snapshot = .ok .subclassGeneration := by
      rw [usual]
      exact ProxyBuilder.build_byConfiguration.2 ⟨selectStrategy_subclass.2 asked, fun _ =>
        TargetClass.checkSubclassable_ok.2 ⟨unsealed, bound⟩⟩
    exact ⟨_, _, Container.classProxyOf_ok.2 ⟨Container.proxyOf_of_build builds, rfl, same⟩⟩
  · intro view made viewed bound
    obtain ⟨built, subclass, _⟩ := Container.classProxyOf_ok.1 viewed
    exact passesOn_offered built fun method member => .inr ⟨subclass, descriptor, bound, member⟩

end Weave

namespace Weave.Echo

def descriptor : ClassDescriptor := ⟨"Echo", [elsewhere], false⟩

def subclassing : Factory Nat where
  source := ⟨0, (TargetClass.ofClass type descriptor).implementing ⟨"", "Echo", [method]⟩,
    .singleton ⟨0, type⟩⟩
  flags := { optimize := true }

/-- The same proxy passes on the methods of the class and those of the interface. -/
theorem subclassing_viewed :
    ∃ view made, container.classProxyOf subclassing type descriptor = (.ok view, made) ∧
      container.interfaceProxyOf subclassing ⟨"", "Echo", [method]⟩ = (.ok view, made) ∧
      made.PassesOn view [elsewhere] ∧ made.PassesOn view [method] := by
  obtain ⟨interfaces, classes⟩ := views_pass_on_methods container subclassing rfl
  have viewed : container.classProxyOf subclassing type descriptor =
    (.ok ⟨.subclassGeneration, 0⟩, (container.proxyOf subclassing).2) := rfl
  have viewedToo : container.interfaceProxyOf subclassing ⟨"", "Echo", [method]⟩ =
    (.ok ⟨.subclassGeneration, 0⟩, (container.proxyOf subclassing).2) := rfl
  refine ⟨_, _, viewed, viewedToo, (classes type descriptor).2 _ _ viewed rfl, ?_⟩
  exact (interfaces _).2 _ _ viewedToo (List.forall_mem_singleton.2 fun _ _ => rfl)

end Weave.Echo
