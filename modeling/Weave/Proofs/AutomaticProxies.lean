import Weave.AutoProxy
import Weave.BasicTypes

/-! Beans that are proxied automatically. Of all creators only the first one that selects a bean's
name acts on it, and it makes one proxy for that very bean, with its own advisors and flags; the
creators behind it find a proxy and leave it alone. So a bean is never wrapped twice, neither in one
pass nor in a later one. -/

namespace Weave

variable [ValueTypes] {σ : Type}

/-! ### One proxy -/

def AutoProxyCreator.configuration (creator : AutoProxyCreator σ) (source : SourceId)
    (cls : TargetClass) (target : Target) (advisors : List (Advisor σ)) : Snapshot σ :=
  ⟨⟨source, cls, .singleton target⟩, advisors, creator.flags⟩

/-- Whether a creator can make a proxy for a target under a class, and of which strategy. The target's
type is checked first, then what the flags ask of the class. -/
def AutoProxyCreator.admission (creator : AutoProxyCreator σ) (source : SourceId)
    (cls : TargetClass) (target : Target) (advisors : List (Advisor σ)) :
    Except ConfigError Strategy := do
  Source.checkType cls target.type
  ProxyBuilder.byConfiguration.build (creator.configuration source cls target advisors)

/-- What comes of wrapping a target under a name: one proxy with these advisors, or the creator's own
error, which leaves no proxy behind. -/
inductive AutoProxyCreator.Wraps (creator : AutoProxyCreator σ) (target : Target) (name : String)
    (advisors : List (Advisor σ)) (before : Container σ) :
    Except ContainerError Bean → Container σ → Prop
  | proxied {cls : TargetClass} {strategy : Strategy} {after : Container σ}
      (registered : creator.find? before target.type = some cls)
      (admitted : creator.admission before.sources cls target advisors = .ok strategy)
      (added : after.snapshots =
        before.snapshots.push (creator.configuration before.sources cls target advisors)) :
      Wraps creator target name advisors before
        (.ok (.proxied before.state.allocated ⟨strategy, before.snapshots.size⟩)) after
  | unregistered {after : Container σ} (missing : creator.find? before target.type = none)
      (unchanged : after.snapshots = before.snapshots) :
      Wraps creator target name advisors before
        (.error (.other (AutoProxyCreator.unregistered name))) after
  | refused {cls : TargetClass} {error : ConfigError} {after : Container σ}
      (registered : creator.find? before target.type = some cls)
      (refused : creator.admission before.sources cls target advisors = .error error)
      (unchanged : after.snapshots = before.snapshots) :
      Wraps creator target name advisors before
        (.error (.other ((Fault.config error).withContext (creationContext name)))) after

namespace AutoProxyCreator

section
variable (creator : AutoProxyCreator σ) (target : Target) (name : String)

theorem find?_emitAll (container : Container σ) (events : List Event) (type : ObjectType) :
    creator.find? (container.emitAll events) type = creator.find? container type := by
  rw [Container.emitAll_eq]
  rfl

variable {creator target name}

theorem Wraps.isProxy {advisors : List (Advisor σ)} {before after : Container σ} {bean : Bean}
    (wraps : creator.Wraps target name advisors before (.ok bean) after) :
    ∃ id proxy, bean = .proxied id proxy := by
  cases wraps with
  | proxied => exact ⟨_, _, rfl⟩

theorem Wraps.relogged {advisors : List (Advisor σ)} {before after : Container σ}
    {result : Except ContainerError Bean} (earlier later : List Event)
    (wraps : creator.Wraps target name advisors (before.emitAll earlier) result after) :
    creator.Wraps target name advisors before result (after.emitAll later) := by
  have snapshots : (before.emitAll earlier).snapshots = before.snapshots := by rw [Container.emitAll_eq]
  have sources : (before.emitAll earlier).sources = before.sources := by rw [Container.emitAll_eq]
  have allocated : (before.emitAll earlier).state.allocated = before.state.allocated := by
    rw [Container.emitAll_eq]
  have behind : (after.emitAll later).snapshots = after.snapshots := by rw [Container.emitAll_eq]
  cases wraps with
  | proxied registered admitted added =>
    rw [find?_emitAll] at registered
    rw [sources] at admitted added
    rw [snapshots] at added
    rw [allocated, snapshots]
    exact .proxied registered admitted (behind.trans added)
  | unregistered missing unchanged =>
    rw [find?_emitAll] at missing
    exact .unregistered missing (behind.trans (unchanged.trans snapshots))
  | refused registered refused unchanged =>
    rw [find?_emitAll] at registered
    rw [sources] at refused
    exact .refused registered refused (behind.trans (unchanged.trans snapshots))

end

section
variable (creator : AutoProxyCreator σ) (target : Target) (name : String)

/-- A proxy is made if the target is admitted; all else that happens is noted in the log. -/
theorem createProxy_spec (cls : TargetClass) (advisors : List (Advisor σ)) (before : Container σ) :
    ∃ events, creator.createProxy target cls advisors before =
      match creator.admission before.sources cls target advisors with
      | .error error => (.error error, before.newSource.2.emitAll events)
      | .ok strategy =>
        (.ok ⟨strategy, before.snapshots.size⟩,
          ((before.newSource.2.emitAll events).addSnapshot
            (creator.configuration before.sources cls target advisors)).2) := by
  unfold createProxy admission
  cases fits : Source.checkType cls target.type with
  | error error =>
    refine ⟨[], ?_⟩
    simp only [Container.newSource, Source.singleton, fits]
    rfl
  | ok =>
    let source : Source σ := ⟨before.sources, cls, .singleton target⟩
    let snapshot : Snapshot σ := ⟨source, advisors, creator.flags⟩
    let filled := before.newSource.2.emitAll (additions { source } advisors)
    let noted := filled.emit (.proxyCreated (selectStrategy creator.flags cls) cls.name advisors.length)
    have made : Source.singleton before.sources cls target = .ok source := by
      rw [Source.singleton, fits]
      rfl
    have prepared : creator.factoryFor source advisors =
      .ok { source, advisors, flags := creator.flags } := factoryFor_eq creator source advisors
    have size : filled.snapshots.size = before.snapshots.size := by
      unfold filled
      rw [Container.emitAll_eq]
      rfl
    refine ⟨additions { source } advisors ++ [.proxyCreated (selectStrategy creator.flags cls)
      cls.name advisors.length], ?_⟩
    rw [Container.emitAll_append]
    simp only [Container.newSource, made, prepared]
    change filled.proxyFor .byConfiguration snapshot =
      match ProxyBuilder.byConfiguration.build snapshot with
      | .error error => (.error error, noted)
      | .ok strategy => (.ok ⟨strategy, before.snapshots.size⟩, (noted.addSnapshot snapshot).2)
    rw [Container.proxyFor, ← size]
    cases ProxyBuilder.byConfiguration.build snapshot <;> rfl

theorem wrapIfNecessary_wraps (decision : ProxyDecision σ) (proxies : decision.proxies = true)
    (before : Container σ) :
    let ended := creator.wrapIfNecessary decision (.plain target) name before
    creator.Wraps target name (creator.advisors decision.specific) before ended.1 ended.2 := by
  intro ended
  have came : ended = creator.wrapIfNecessary decision (.plain target) name before := rfl
  unfold wrapIfNecessary at came
  simp only [proxies, Bool.not_true, Bool.false_eq_true, if_false] at came
  cases registered : creator.find? before target.type with
  | none =>
    simp only [registered] at came
    rw [came]
    exact .unregistered registered rfl
  | some cls =>
    obtain ⟨events, made⟩ :=
      creator.createProxy_spec target cls (creator.advisors decision.specific) before
    rw [Container.emitAll_eq] at made
    cases verdict : creator.admission before.sources cls target
        (creator.advisors decision.specific) with
    | error error =>
      rw [verdict] at made
      simp only [registered, made] at came
      rw [came]
      exact .refused registered verdict rfl
    | ok strategy =>
      rw [verdict] at made
      simp only [registered, made] at came
      rw [came]
      exact .proxied registered verdict rfl

theorem wrapIfNecessary_proxied (decision : ProxyDecision σ) (id : ObjectId) (proxy : Proxy)
    (before : Container σ) :
    ∃ events, creator.wrapIfNecessary decision (.proxied id proxy) name before =
      (.ok (.proxied id proxy), before.emitAll events) := by
  unfold wrapIfNecessary
  cases decision.proxies with
  | false => exact ⟨[.beanPassedOver name], rfl⟩
  | true => exact ⟨[.beanAlreadyProxy name], rfl⟩

theorem advisors_plain :
    creator.advisors (ProxyDecision.plain : ProxyDecision σ).specific = creator.common := by
  unfold advisors ProxyDecision.specific
  split
  · exact List.append_nil _
  · exact List.nil_append _

/-! ### Creators in a row -/

theorem afterHook_selected (selected : creator.selects name = true) (bean : Bean)
    (before : Container σ) :
    creator.afterHook bean name before =
      creator.wrapIfNecessary .plain bean name (before.emitAll [.beanSelected name]) := by
  unfold afterHook AutoProxyCreator.decide
  rw [selected]
  rfl

theorem afterHook_unselected (unselected : creator.selects name = false) (bean : Bean)
    (before : Container σ) :
    creator.afterHook bean name before = (.ok bean, before.emitAll [.beanPassedOver name]) := by
  unfold afterHook AutoProxyCreator.decide
  rw [unselected]
  rfl

/-- A creator leaves a bean under a name as it is, whatever the container. -/
def Leaves (bean : Bean) : Prop :=
  ∀ container, ∃ events, creator.afterHook bean name container =
    (.ok bean, container.emitAll events)

theorem leaves_proxied (id : ObjectId) (proxy : Proxy) :
    creator.Leaves name (.proxied id proxy) := by
  intro container
  cases selected : creator.selects name with
  | false => exact ⟨_, creator.afterHook_unselected name selected _ container⟩
  | true =>
    obtain ⟨events, left⟩ := creator.wrapIfNecessary_proxied name .plain id proxy
      (container.emitAll [.beanSelected name])
    rw [← Container.emitAll_append] at left
    exact ⟨_, (creator.afterHook_selected name selected _ container).trans left⟩

end

def runAll (creators : List (AutoProxyCreator σ)) : BeanHook σ :=
  Pipeline.runHooks (·.after) (fun processor bean => some (.processorApplied processor.name bean))
    (creators.map processor)

theorem runAll_cons (creator : AutoProxyCreator σ) (rest : List (AutoProxyCreator σ)) (bean : Bean)
    (name : String) (container : Container σ) :
    runAll (creator :: rest) bean name container =
      match creator.afterHook bean name (container.emitAll [.processorApplied typeName name]) with
      | (.ok bean, container) => runAll rest bean name container
      | (.error error, container) => (.error error, container) := rfl

section
variable {name : String}

theorem runAll_leaves (creators : List (AutoProxyCreator σ)) {bean : Bean}
    (leaves : ∀ creator ∈ creators, creator.Leaves name bean) (container : Container σ) :
    ∃ events, runAll creators bean name container = (.ok bean, container.emitAll events) := by
  induction creators generalizing container with
  | nil => exact ⟨[], rfl⟩
  | cons creator rest ih =>
    obtain ⟨first, others⟩ := List.forall_mem_cons.1 leaves
    obtain ⟨events, left⟩ := first (container.emitAll [.processorApplied typeName name])
    rw [← Container.emitAll_append] at left
    obtain ⟨more, behind⟩ := ih others (container.emitAll ([.processorApplied typeName name] ++ events))
    rw [← Container.emitAll_append] at behind
    refine ⟨[.processorApplied typeName name] ++ events ++ more, ?_⟩
    rw [runAll_cons, left]
    exact behind

/-- The first creator that selects the name wraps the bean, and no other does anything. -/
theorem runAll_wraps (creators : List (AutoProxyCreator σ)) {creator : AutoProxyCreator σ}
    (first : creators.find? (·.selects name) = some creator) (target : Target)
    (container : Container σ) :
    let ended := runAll creators (.plain target) name container
    creator.Wraps target name creator.common container ended.1 ended.2 := by
  intro ended
  induction creators generalizing container with
  | nil => contradiction
  | cons head rest ih =>
    cases selected : head.selects name with
    | false =>
      rw [List.find?_cons, selected] at first
      have passed := head.afterHook_unselected name selected (.plain target)
        (container.emitAll [.processorApplied typeName name])
      rw [← Container.emitAll_append] at passed
      unfold ended
      rw [runAll_cons, passed]
      exact (ih first _).relogged _ []
    | true =>
      rw [List.find?_cons, selected] at first
      obtain rfl := Option.some.inj first
      have wraps := head.wrapIfNecessary_wraps target name .plain rfl
        ((container.emitAll [.processorApplied typeName name]).emitAll [.beanSelected name])
      rw [advisors_plain, ← Container.emitAll_append] at wraps
      have hook := head.afterHook_selected name selected (.plain target)
        (container.emitAll [.processorApplied typeName name])
      rw [← Container.emitAll_append] at hook
      unfold ended
      rw [runAll_cons, hook]
      generalize head.wrapIfNecessary .plain (.plain target) name _ = wrapped at wraps
      obtain ⟨result, after⟩ := wrapped
      cases result with
      | error error => exact wraps.relogged _ []
      | ok bean =>
        -- What comes out is a proxy, which the creators behind leave as it is.
        obtain ⟨id, proxy, rfl⟩ := wraps.isProxy
        obtain ⟨events, left⟩ := runAll_leaves rest
          (fun creator _ => creator.leaves_proxied name id proxy) after
        change head.Wraps _ _ _ _ (runAll rest _ _ after).1 (runAll rest _ _ after).2
        rw [left]
        exact wraps.relogged _ events

theorem runAll_untouched (creators : List (AutoProxyCreator σ)) {bean : Bean}
    (untouched : (∃ id proxy, bean = .proxied id proxy) ∨
      creators.find? (·.selects name) = none) (container : Container σ) :
    ∃ events, runAll creators bean name container = (.ok bean, container.emitAll events) := by
  refine runAll_leaves creators (fun creator member => ?_) container
  rcases untouched with ⟨id, proxy, rfl⟩ | unselected
  · exact creator.leaves_proxied name id proxy
  · have passed := Bool.eq_false_iff.2 (List.find?_eq_none.1 unselected creator member)
    exact fun container => ⟨_, creator.afterHook_unselected name passed bean container⟩

end

theorem afterInitialization_eq (creators : List (AutoProxyCreator σ)) :
    (creators.foldl (fun pipeline creator => pipeline.add creator.processor)
      ({} : Pipeline σ)).afterInitialization = runAll creators := by
  unfold Pipeline.afterInitialization
  rw [Pipeline.foldl_add processor order (fun _ => rfl) creators {} (List.forall_mem_nil _)]
  rfl

/-- A pass of creators over a bean leaves it as it is if it is a proxy already or no creator selects
its name. Otherwise the first creator that selects the name wraps it, with the creator's common
advisors and flags, and nothing else is made. A further pass over what came out changes nothing. With
advisors of the bean's own, those of the creator come first or last, as it says. -/
theorem first_creator_wraps (creators : List (AutoProxyCreator σ)) (bean : Bean) (name : String)
    (container : Container σ) :
    let pass := (creators.foldl (fun pipeline creator => pipeline.add creator.processor)
      ({} : Pipeline σ)).afterInitialization
    let ended := pass bean name container
    (match bean, creators.find? (·.selects name) with
      | .plain target, some creator =>
        creator.Wraps target name creator.common container ended.1 ended.2
      | _, _ => ∃ events, ended = (.ok bean, container.emitAll events)) ∧
    (∀ wrapped, ended.1 = .ok wrapped →
      ∀ later, ∃ events, pass wrapped name later = (.ok wrapped, later.emitAll events)) ∧
    ∀ (creator : AutoProxyCreator σ) (specific : List (Advisor σ)) (target : Target),
      let wrapping := creator.wrapIfNecessary (.additional specific) (.plain target) name container
      let advisors := if creator.commonFirst then creator.common ++ specific
        else specific ++ creator.common
      creator.Wraps target name advisors container wrapping.1 wrapping.2 := by
  intro pass ended
  have inRow : pass = runAll creators := afterInitialization_eq creators
  have first : match bean, creators.find? (·.selects name) with
      | .plain target, some creator =>
        creator.Wraps target name creator.common container ended.1 ended.2
      | _, _ => ∃ events, ended = (.ok bean, container.emitAll events) := by
    unfold ended
    rw [inRow]
    cases bean with
    | proxied id proxy => exact runAll_untouched creators (.inl ⟨id, proxy, rfl⟩) container
    | plain target =>
      cases selected : creators.find? (·.selects name) with
      | none => exact runAll_untouched creators (.inr selected) container
      | some creator => exact runAll_wraps creators selected target container
  refine ⟨first, fun wrapped came later => ?_, fun creator specific target => ?_⟩
  · rw [inRow]
    refine runAll_untouched creators ?_ later
    split at first
    · rw [came] at first
      exact .inl first.isProxy
    · rename_i none_of_both
      obtain ⟨events, unchanged⟩ := first
      rw [unchanged] at came
      cases came
      cases wrapped with
      | proxied id proxy => exact .inl ⟨id, proxy, rfl⟩
      | plain target =>
        exact .inr (Option.eq_none_iff_forall_ne_some.2 fun creator => none_of_both target creator rfl)
  · exact creator.wrapIfNecessary_wraps target name (.additional specific) rfl container

end AutoProxyCreator

end Weave

namespace Weave.AutoProxyCreator

/-- Both rules select the bean; the proxy has the advisor of the first creator only. -/
example :
    let type : ObjectType := ⟨"Post"⟩
    let cls : TargetClass := .ofClass type ⟨"Post", [], false⟩
    let advised (name : String) (rule : String) : AutoProxyCreator Nat :=
      { rules := [rule], common := [(Advisor.everywhere (.after fun _ => pure ())).named name] }
    let container : Container Nat :=
      { entryCode := fun _ _ _ _ memory => (.ok ⟨.unit, ()⟩, memory), state := { memory := 0 },
        registry := ({} : Registry).register cls }
    let ended := runAll [advised "first" "post*", advised "second" "*office"] (.plain ⟨0, type⟩)
      "postoffice" container
    ended.1 = .ok (.proxied 0 ⟨.subclassGeneration, 0⟩) ∧
      (ended.2.snapshotOf 0).advisors.map (·.name) = ["first"] ∧ ended.2.snapshots.size = 1 :=
  ⟨rfl, rfl, rfl⟩

end Weave.AutoProxyCreator
