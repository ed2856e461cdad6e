import Weave.Proofs.Dispatching

/-! Freezing is final. Every change of a factory asks first whether the factory is frozen, whatever
else could be wrong with it, and replacing the flags, the one change that could take back a freeze, is
refused like the others. What was frozen is therefore what every later proxy is built with. -/

namespace Weave.Factory

variable [ValueTypes] {σ : Type}

/-! ### Changes -/

inductive Change (σ : Type) where
  | addAdvisor (advisor : Advisor σ)
  | addAdvice (advice : Advice σ)
  | insertAdvisor (index : Nat) (advisor : Advisor σ)
  | removeAdvisor (index : Nat)
  | replaceAdvisor (index : Nat) (advisor : Advisor σ)
  | removeAdvisorNamed (name : String)
  | setSource (source : Source σ)
  | setFlags (flags : ProxyFlags)
  | setProxyTargetClass (value : Bool)
  | setOptimize (value : Bool)
  | setExposeProxy (value : Bool)

namespace Change

def kind : Change σ → FactoryChange
  | addAdvisor _ | addAdvice _ | insertAdvisor _ _ => .addAdvisor
  | removeAdvisor _ | removeAdvisorNamed _ => .removeAdvisor
  | replaceAdvisor _ _ => .replaceAdvisor
  | setSource _ => .targetSource
  | setFlags _ | setProxyTargetClass _ | setOptimize _ | setExposeProxy _ => .proxyFlags

def flagsFrom (before : ProxyFlags) : Change σ → ProxyFlags
  | setFlags flags => flags
  | setProxyTargetClass value => { before with proxyTargetClass := value }
  | setOptimize value => { before with optimize := value }
  | setExposeProxy value => { before with exposeProxy := value }
  | _ => before

/-- Only flags that are set as a whole can freeze. -/
def freezes : Change σ → Bool
  | setFlags flags => flags.frozen
  | _ => false

theorem frozen_flagsFrom {before : ProxyFlags} (isOpen : before.frozen = false)
    (change : Change σ) : (change.flagsFrom before).frozen = change.freezes := by
  cases change with
  | setFlags => rfl
  | addAdvisor | addAdvice | insertAdvisor | removeAdvisor | replaceAdvisor | removeAdvisorNamed
  | setSource | setProxyTargetClass | setOptimize | setExposeProxy => exact isOpen

end Change

def changed (factory : Factory σ) : Change σ → Except ConfigError (Factory σ)
  | .addAdvisor advisor => factory.addAdvisor advisor
  | .addAdvice advice => factory.addAdvice advice
  | .insertAdvisor index advisor => factory.insertAdvisor index advisor
  | .removeAdvisor index => (factory.removeAdvisor index).map (·.2)
  | .replaceAdvisor index advisor => (factory.replaceAdvisor index advisor).map (·.2)
  | .removeAdvisorNamed name => (factory.removeAdvisorNamed name).map (·.2)
  | .setSource source => factory.setSource source
  | .setFlags flags => factory.setFlags flags
  | .setProxyTargetClass value => factory.setProxyTargetClass value
  | .setOptimize value => factory.setOptimize value
  | .setExposeProxy value => factory.setExposeProxy value

theorem whileOpen_frozen {α : Type} {factory : Factory σ} (frozen : factory.flags.frozen = true)
    (kind : FactoryChange) (result : Except ConfigError α) :
    factory.whileOpen kind result = .error (.frozen kind.name) := if_pos frozen

theorem whileOpen_ok {α : Type} {factory : Factory σ} {kind : FactoryChange}
    {result : Except ConfigError α} {value : α} (done : factory.whileOpen kind result = .ok value) :
    result = .ok value := by
  unfold whileOpen at done
  split at done
  · contradiction
  · exact done

theorem changed_frozen {factory : Factory σ} (frozen : factory.flags.frozen = true)
    (change : Change σ) : factory.changed change = .error (.frozen change.kind.name) := by
  have refuses {α : Type} (kind : FactoryChange) (result : Except ConfigError α) :
      factory.whileOpen kind result = .error (.frozen kind.name) := whileOpen_frozen frozen kind result
  cases change with
  | addAdvisor | addAdvice | insertAdvisor | setSource | setFlags | setProxyTargetClass
  | setOptimize | setExposeProxy => exact refuses _ _
  | removeAdvisor | replaceAdvisor => exact congrArg (Except.map _) (refuses _ _)
  | removeAdvisorNamed name =>
    have removal : factory.removeAdvisorNamed name =
        .error (.frozen FactoryChange.removeAdvisor.name) := by
      -- The name is looked up before anything is asked, but either way leads to the same refusal.
      unfold removeAdvisorNamed
      cases factory.indexOf? name with
      | none => exact refuses _ _
      | some index => exact congrArg (Except.map _) (refuses _ _)
    exact congrArg (Except.map _) removal

theorem given_ok {α : Type} {outcome : Except ConfigError (α × Factory σ)} {after : Factory σ}
    (done : outcome.map (·.2) = .ok after) : ∃ given, outcome = .ok (given, after) := by
  cases outcome with
  | error error => contradiction
  | ok answer =>
    obtain ⟨given, changed⟩ := answer
    cases done
    exact ⟨given, rfl⟩

theorem removeAdvisor_flags {factory after : Factory σ} {index : Nat} {removed : Advisor σ}
    (done : factory.removeAdvisor index = .ok (removed, after)) : after.flags = factory.flags := by
  have done := whileOpen_ok done
  split at done
  · cases done
    rfl
  · contradiction

theorem changed_flags {factory after : Factory σ} {change : Change σ}
    (done : factory.changed change = .ok after) : after.flags = change.flagsFrom factory.flags := by
  cases change with
  | addAdvisor | addAdvice | setSource | setFlags | setProxyTargetClass | setOptimize
  | setExposeProxy =>
    cases whileOpen_ok done
    rfl
  | insertAdvisor index advisor =>
    have done := whileOpen_ok done
    split at done
    · cases done
      rfl
    · contradiction
  | removeAdvisor index =>
    obtain ⟨removed, done⟩ := given_ok done
    exact removeAdvisor_flags done
  | replaceAdvisor index advisor =>
    obtain ⟨replaced, done⟩ := given_ok done
    have done := whileOpen_ok done
    split at done
    · cases done
      rfl
    · contradiction
  | removeAdvisorNamed name =>
    obtain ⟨found, done⟩ := given_ok done
    unfold removeAdvisorNamed at done
    split at done
    · cases removal : factory.removeAdvisor _ with
      | error error =>
        rw [removal] at done
        contradiction
      | ok answer =>
        rw [removal] at done
        cases done
        exact removeAdvisor_flags removal
    · cases whileOpen_ok done
      rfl

/-! ### Runs -/

inductive Step (σ : Type) where
  | change (asked : Change σ)
  | freeze
  | setBuilder (builder : ProxyBuilder)

def Step.freezes : Step σ → Bool
  | change asked => asked.freezes
  | freeze => true
  | setBuilder _ => false

/-- A change that is refused leaves the factory as it was. -/
def step (factory : Factory σ) : Step σ → Factory σ
  | .change asked =>
    match factory.changed asked with
    | .ok after => after
    | .error _ => factory
  | .freeze => factory.freeze
  | .setBuilder builder => factory.setBuilder builder

def run (factory : Factory σ) (steps : List (Step σ)) : Factory σ := steps.foldl step factory

theorem step_frozen {factory : Factory σ} (frozen : factory.flags.frozen = true) (asked : Step σ) :
    (factory.step asked).snapshot = factory.snapshot := by
  cases asked with
  | change asked => rw [step, changed_frozen frozen]
  | freeze =>
    change Snapshot.mk factory.source factory.advisors { factory.flags with frozen := true } = _
    rw [← frozen]
    rfl
  | setBuilder builder => rfl

theorem run_frozen {factory : Factory σ} (frozen : factory.flags.frozen = true)
    (steps : List (Step σ)) : (factory.run steps).snapshot = factory.snapshot := by
  induction steps generalizing factory with
  | nil => rfl
  | cons asked rest ih =>
    have kept := step_frozen frozen asked
    have still : (factory.step asked).flags.frozen = true := by
      change (factory.step asked).snapshot.flags.frozen = true
      rw [kept]
      exact frozen
    exact (ih still).trans kept

/-- An open factory refuses no flags. -/
theorem refused_freezes {factory : Factory σ} (isOpen : factory.flags.frozen = false)
    {asked : Change σ} {error : ConfigError} (refused : factory.changed asked = .error error) :
    asked.freezes = false := by
  cases asked with
  | setFlags flags =>
    change factory.whileOpen _ (.ok _) = _ at refused
    rw [whileOpen, isOpen] at refused
    contradiction
  | addAdvisor | addAdvice | insertAdvisor | removeAdvisor | replaceAdvisor | removeAdvisorNamed
  | setSource | setProxyTargetClass | setOptimize | setExposeProxy => rfl

theorem step_freezes (factory : Factory σ) (asked : Step σ) :
    (factory.step asked).flags.frozen = (factory.flags.frozen || asked.freezes) := by
  cases frozen : factory.flags.frozen with
  | true =>
    rw [Bool.true_or, ← frozen]
    exact congrArg (·.flags.frozen) (step_frozen frozen asked)
  | false =>
    rw [Bool.false_or]
    cases asked with
    | change asked =>
      rw [step]
      cases outcome : factory.changed asked with
      | ok after =>
        change after.flags.frozen = asked.freezes
        rw [changed_flags outcome, Change.frozen_flagsFrom frozen]
      | error error =>
        change factory.flags.frozen = asked.freezes
        rw [frozen, refused_freezes frozen outcome]
    | freeze => rfl
    | setBuilder builder => exact frozen

theorem run_freezes (factory : Factory σ) (steps : List (Step σ)) :
    (factory.run steps).flags.frozen = (factory.flags.frozen || steps.any Step.freezes) := by
  induction steps generalizing factory with
  | nil => exact (Bool.or_false _).symm
  | cons asked rest ih =>
    change ((factory.step asked).run rest).flags.frozen = _
    rw [ih, step_freezes, List.any_cons, Bool.or_assoc]

/-- Whatever was done to a factory before, it is frozen exactly if it was or if it has been frozen
since, as such or by its flags. From then on it keeps its source, its advisors and its flags whatever
is done, so that it stays frozen; every change is refused for that, whatever else is wrong with it;
and every proxy has what was frozen for its configuration. -/
theorem frozen_for_good (factory : Factory σ) (before : List (Step σ)) :
    let frozen := factory.run before
    frozen.flags.frozen = (factory.flags.frozen || before.any Step.freezes) ∧
      (frozen.flags.frozen = true → ∀ afterwards,
        let later := frozen.run afterwards
        later.source = frozen.source ∧ later.advisors = frozen.advisors ∧
          later.flags = frozen.flags ∧
          (∀ change, later.changed change = .error (.frozen change.kind.name)) ∧
          ∀ (container made : Container σ) proxy, container.proxyOf later = (.ok proxy, made) →
            made.snapshotOf proxy.snapshot = ⟨frozen.source, frozen.advisors, frozen.flags⟩) := by
  intro frozen
  refine ⟨run_freezes factory before, fun isFrozen afterwards => ?_⟩
  intro later
  have kept : later.snapshot = frozen.snapshot := run_frozen isFrozen afterwards
  obtain ⟨source, advisors, flags⟩ := Snapshot.mk.inj kept
  refine ⟨source, advisors, flags, fun change => ?_, fun container made proxy built => ?_⟩
  · exact changed_frozen (flags ▸ isFrozen) change
  · exact (Container.proxyOf_ok built).trans kept

end Weave.Factory

namespace Weave.Echo

/-- A freeze by flags outlives an attempt to take it back, and the factory's proxies have the advisor
and the flags that were frozen, whoever builds them. -/
theorem factory_frozen :
    let frozen := factory.run [.change (.setFlags { frozen := true })]
    let later := frozen.run [.change (.setFlags {}), .change (.removeAdvisor 0),
      .setBuilder (.always .interfaceForwarding)]
    frozen.flags.frozen = true ∧ later.flags = { frozen := true } ∧
      later.changed (.insertAdvisor 9 (.everywhere (.around again))) =
        .error (.frozen "add advisor") ∧
      ((container.proxyOf later).2.snapshotOf 0).advisors = factory.advisors := by
  intro frozen later
  obtain ⟨isFrozen, kept⟩ := Factory.frozen_for_good factory [.change (.setFlags { frozen := true })]
  obtain ⟨_, _, flags, refused, proxies⟩ := kept isFrozen [.change (.setFlags {}),
    .change (.removeAdvisor 0), .setBuilder (.always .interfaceForwarding)]
  have built : container.proxyOf later = (.ok proxy, (container.proxyOf later).2) := rfl
  exact ⟨isFrozen, flags, refused _, congrArg Snapshot.advisors (proxies _ _ _ built)⟩

end Weave.Echo
