import Mathlib.Data.List.Dedup
import Mathlib.Data.List.Induction
import Weave.Proofs.AutomaticProxies
import Weave.Proofs.TypedViews

/-! Registered classes and what wrapping a bean can fail for. A registry holds for each type the class
registered last for it, under the type that the class describes. So a class that is found for a target
fits it, and since a factory is filled before it is frozen, a bean that is to be proxied is refused for
two reasons only: no class is registered for its type, or the class admits no subclass proxy where one
is needed. -/

namespace Weave

namespace Registry

def ofClasses (classes : List TargetClass) : Registry := classes.foldl register {}

/-- Of these classes, the last one that describes a type. -/
def lastOf (classes : List TargetClass) (type : ObjectType) : Option TargetClass :=
  (classes.filter (·.type = type)).getLast?

theorem ofClasses_concat (classes : List TargetClass) (cls : TargetClass) :
    ofClasses (classes ++ [cls]) = (ofClasses classes).register cls :=
  List.foldl_concat ..

theorem find?_ofClasses (classes : List TargetClass) (type : ObjectType) :
    (ofClasses classes).find? type = lastOf classes type := by
  induction classes using List.reverseRecOn with
  | nil => rfl
  | append_singleton classes cls ih =>
    rw [ofClasses_concat, lastOf, List.filter_append]
    unfold register find?
    rw [Table.find?_insert]
    by_cases same : type = cls.type
    · have own : [cls].filter (·.type = type) = [cls] :=
        List.filter_cons_of_pos (decide_eq_true same.symm)
      rw [if_pos same, own, List.getLast?_concat]
    · have foreign : [cls].filter (·.type = type) = [] :=
        List.filter_cons_of_neg (by simpa using Ne.symm same)
      rw [if_neg same, foreign, List.append_nil]
      exact ih

theorem type_of_lastOf {classes : List TargetClass} {type : ObjectType} {cls : TargetClass}
    (last : lastOf classes type = some cls) : cls.type = type := by
  have member := List.mem_filter.1 (List.mem_of_getLast? last)
  exact of_decide_eq_true member.2

theorem keys_ofClasses (classes : List TargetClass) :
    (ofClasses classes).classes.keys.Nodup ∧
      ∀ type, type ∈ (ofClasses classes).classes.keys ↔ type ∈ classes.map (·.type) := by
  induction classes using List.reverseRecOn with
  | nil => exact ⟨List.nodup_nil, fun type => Iff.rfl⟩
  | append_singleton classes cls ih =>
    obtain ⟨distinct, members⟩ := ih
    rw [ofClasses_concat, register, Table.keys_insert]
    split
    · refine ⟨distinct, fun type => ?_⟩
      rw [members, List.map_append, List.mem_append, List.map_singleton, List.mem_singleton]
      exact ⟨Or.inl, fun member => member.elim id (· ▸ (members _).1 ‹_›)⟩
    · refine ⟨?_, fun type => ?_⟩
      · rw [← List.concat_eq_append]
        exact distinct.concat ‹_›
      · rw [List.mem_append, members, List.map_append, List.mem_append]
        rfl

theorem size_ofClasses (classes : List TargetClass) :
    (ofClasses classes).size = (classes.map (·.type)).dedup.length := by
  obtain ⟨distinct, members⟩ := keys_ofClasses classes
  have same : (ofClasses classes).classes.keys.Perm (classes.map (·.type)).dedup :=
    (List.perm_ext_iff_of_nodup distinct (List.nodup_dedup _)).2 fun type =>
      (members type).trans List.mem_dedup.symm
  rw [← same.length_eq, Table.keys, List.length_map]
  rfl

end Registry

/-! ### Wrapping -/

theorem TargetClass.checkSubclassable_error {cls : TargetClass} {refusal : ConfigError}
    (refused : cls.checkSubclassable = .error refusal) :
    (cls.isSealed = true ∨ cls.classBinding = none) ∧
      ∃ reason, refusal = .notSubclassable cls.name reason := by
  unfold checkSubclassable at refused
  split at refused
  · exact ⟨.inl ‹_›, _, (Except.error.inj refused).symm⟩
  · split at refused
    · exact ⟨.inr (Option.isNone_iff_eq_none.1 ‹_›), _, (Except.error.inj refused).symm⟩
    · contradiction

variable [ValueTypes] {σ : Type}

theorem ProxyBuilder.build_eq_error {snapshot : Snapshot σ} {refusal : ConfigError} :
    byConfiguration.build snapshot = .error refusal ↔
      selectStrategy snapshot.flags snapshot.cls = .subclassGeneration ∧
        snapshot.cls.checkSubclassable = .error refusal := by
  unfold build strategyFor
  cases selectStrategy snapshot.flags snapshot.cls with
  | interfaceForwarding => simp
  | subclassGeneration =>
    cases snapshot.cls.checkSubclassable with
    | error error => simp [Except.map]
    | ok => simp [Except.map]

namespace AutoProxyCreator

variable (creator : AutoProxyCreator σ)

/-- The classes that a creator's registry got, of those that the container's own registry got and
those registered in advance. -/
def classesAmong (own preloaded : List TargetClass) : List TargetClass :=
  match creator.registry with
  | .own => own
  | .shared => preloaded

theorem find?_registered (own preloaded : List TargetClass) (container : Container σ)
    (type : ObjectType) :
    creator.find? { container with
        registry := Registry.ofClasses own, shared := Registry.ofClasses preloaded } type =
      Registry.lastOf (creator.classesAmong own preloaded) type := by
  unfold find? classesAmong
  cases creator.registry with
  | own => exact Registry.find?_ofClasses own type
  | shared => exact Registry.find?_ofClasses preloaded type

theorem admission_eq_error {source : SourceId} {cls : TargetClass} {target : Target}
    (fits : cls.type = target.type) (advisors : List (Advisor σ)) (refusal : ConfigError) :
    creator.admission source cls target advisors = .error refusal ↔
      (creator.flags.optimize = true ∨ creator.flags.proxyTargetClass = true ∨
        cls.interfaceList = []) ∧ cls.checkSubclassable = .error refusal := by
  have checked : Source.checkType cls target.type = .ok () := if_pos fits
  rw [← selectStrategy_subclass, admission, checked]
  exact ProxyBuilder.build_eq_error

end AutoProxyCreator

/-- What keeps a target from being wrapped by a creator whose registry got these classes: there is no
class for its type, or a subclass proxy is needed and the class admits none. -/
inductive AutoProxyCreator.Refuses (creator : AutoProxyCreator σ) (classes : List TargetClass)
    (target : Target) (name : String) : ContainerError → Prop
  | unregistered (missing : Registry.lastOf classes target.type = none) :
      Refuses creator classes target name (.other (AutoProxyCreator.unregistered name))
  | notSubclassable {cls : TargetClass} {reason : String}
      (last : Registry.lastOf classes target.type = some cls)
      (needed : creator.flags.optimize = true ∨ creator.flags.proxyTargetClass = true ∨
        cls.interfaceList = [])
      (barred : cls.isSealed = true ∨ cls.classBinding = none)
      (refused : cls.checkSubclassable = .error (.notSubclassable cls.name reason)) :
      Refuses creator classes target name
        (.other ((Fault.config (.notSubclassable cls.name reason)).withContext (creationContext name)))

namespace AutoProxyCreator

variable {creator : AutoProxyCreator σ} {classes : List TargetClass} {target : Target} {name : String}

/-- The only mistake of a configuration that a refusal can be about is a class that admits no subclass
proxy. -/
theorem Refuses.config {fault : Fault} {error : ConfigError}
    (refuses : creator.Refuses classes target name (.other fault)) (found : fault.config? = some error) :
    ∃ cls reason, error = .notSubclassable cls reason := by
  cases refuses with
  | unregistered => contradiction
  | notSubclassable => exact ⟨_, _, (Option.some.inj found).symm⟩

/-- Wrapping fails just for these reasons. -/
theorem Wraps.refuses_iff {advisors : List (Advisor σ)} {before after : Container σ}
    {result : Except ContainerError Bean}
    (registered : ∀ type, creator.find? before type = Registry.lastOf classes type)
    (wraps : creator.Wraps target name advisors before result after) (failure : ContainerError) :
    result = .error failure ↔ creator.Refuses classes target name failure := by
  cases wraps with
  | @proxied cls strategy after found admitted added =>
    refine ⟨fun failed => (nomatch failed), fun refuses => ?_⟩
    rw [registered] at found
    cases refuses with
    | unregistered missing =>
      rw [missing] at found
      contradiction
    | notSubclassable last needed barred refused =>
      obtain rfl := Option.some.inj (last.symm.trans found)
      have fits := Registry.type_of_lastOf found
      rw [(creator.admission_eq_error fits advisors _).2 ⟨needed, refused⟩] at admitted
      contradiction
  | unregistered missing unchanged =>
    rw [registered] at missing
    constructor
    · rintro ⟨⟩
      exact .unregistered missing
    · intro refuses
      cases refuses with
      | unregistered => rfl
      | notSubclassable last => exact nomatch missing.symm.trans last
  | @refused cls error after found refused unchanged =>
    rw [registered] at found
    have fits := Registry.type_of_lastOf found
    obtain ⟨needed, unfit⟩ := (creator.admission_eq_error fits advisors error).1 refused
    obtain ⟨barred, reason, rfl⟩ := TargetClass.checkSubclassable_error unfit
    constructor
    · rintro ⟨⟩
      exact .notSubclassable found needed barred unfit
    · intro refuses
      cases refuses with
      | unregistered missing => exact nomatch missing.symm.trans found
      | notSubclassable last _ _ also =>
        obtain rfl := Option.some.inj (last.symm.trans found)
        obtain ⟨-, rfl⟩ := ConfigError.notSubclassable.inj (Except.error.inj (also.symm.trans unfit))
        rfl

/-- A registry gives for each type the class registered last for it, and has as many classes as there
are types among them. So whatever classes were registered and whatever a creator's flags and advisors
are, wrapping fails exactly for a bean that is to be proxied, is no proxy yet, and has no class or one
that admits no subclass proxy where one is needed. In particular it is never the target's type or a
frozen factory that is in the way. -/
theorem wrapping_refused_iff :
    (∀ classes, (∀ type, (Registry.ofClasses classes).find? type = Registry.lastOf classes type) ∧
      (Registry.ofClasses classes).size = (classes.map (·.type)).dedup.length) ∧
    ∀ (creator : AutoProxyCreator σ) (own preloaded : List TargetClass) (before : Container σ)
      (decision : ProxyDecision σ) (bean : Bean) (name : String),
      let container := { before with
        registry := Registry.ofClasses own, shared := Registry.ofClasses preloaded }
      let ended := (creator.wrapIfNecessary decision bean name container).1
      let classes := creator.classesAmong own preloaded
      (∀ failure, ended = .error failure ↔ decision.proxies = true ∧
        ∃ target, bean = .plain target ∧ creator.Refuses classes target name failure) ∧
      ∀ fault error, ended = .error (.other fault) ∧ fault.config? = some error →
        (∀ expected, error ≠ .targetTypeMismatch expected) ∧ ∀ kind, error ≠ .frozen kind := by
  refine ⟨fun classes => ⟨Registry.find?_ofClasses classes, Registry.size_ofClasses classes⟩, ?_⟩
  intro creator own preloaded before decision bean name container ended classes
  have refused (failure : ContainerError) : ended = .error failure ↔ decision.proxies = true ∧
      ∃ target, bean = .plain target ∧ creator.Refuses classes target name failure := by
    cases proxies : decision.proxies with
    | false =>
      have left : ended = .ok bean := by
        unfold ended wrapIfNecessary
        rw [proxies]
        rfl
      rw [left]
      exact iff_of_false nofun fun ⟨same, _⟩ => nomatch same
    | true =>
      cases bean with
      | proxied id proxy =>
        obtain ⟨events, left⟩ := creator.wrapIfNecessary_proxied name decision id proxy container
        unfold ended
        rw [left]
        exact iff_of_false nofun fun ⟨_, _, same, _⟩ => nomatch same
      | plain target =>
        have wraps := creator.wrapIfNecessary_wraps target name decision proxies container
        have registered := creator.find?_registered own preloaded before
        rw [wraps.refuses_iff registered failure]
        constructor
        · exact fun refuses => ⟨rfl, target, rfl, refuses⟩
        · rintro ⟨-, _, ⟨⟩, refuses⟩
          exact refuses
  refine ⟨refused, fun fault error ⟨failed, found⟩ => ?_⟩
  obtain ⟨-, target, -, refuses⟩ := (refused _).1 failed
  obtain ⟨cls, reason, rfl⟩ := refuses.config found
  exact ⟨nofun, nofun⟩

end AutoProxyCreator

end Weave

namespace Weave.Echo

/-- Of two classes for one type the later one counts. It is sealed, so it admits no subclass proxy,
which the creator's flags ask for; that they ask for a freeze too does no harm. -/
theorem sealed_refused :
    let creator : AutoProxyCreator Nat := { rules := [], flags := { optimize := true, frozen := true } }
    let own := [TargetClass.ofClass type descriptor, cls.sealed]
    let known := { container with
      registry := Registry.ofClasses own, shared := Registry.ofClasses [] }
    let failure : ContainerError := .other ((Fault.config (.notSubclassable "Echo" "type is sealed")).withContext
      (AutoProxyCreator.creationContext "echo"))
    (creator.wrapIfNecessary .plain (.plain ⟨0, type⟩) "echo" known).1 = .error failure ∧
      creator.Refuses own ⟨0, type⟩ "echo" failure := by
  intro creator own known failure
  have failed : (creator.wrapIfNecessary .plain (.plain ⟨0, type⟩) "echo" known).1 = .error failure :=
    rfl
  obtain ⟨-, target, same, refuses⟩ := ((AutoProxyCreator.wrapping_refused_iff.2 creator own []
    container .plain (.plain ⟨0, type⟩) "echo").1 failure).1 failed
  cases same
  exact ⟨failed, refuses⟩

end Weave.Echo
