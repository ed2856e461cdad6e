import Mathlib.Data.List.Dedup
import Weave.Proofs.CallNesting
import Weave.Proofs.LogIndependence

/-! What is remembered of chains. A chain is resolved when a snapshot is first asked for the chain of
a method, and given from memory ever after. Whatever happens in the meantime, the chain from memory
is the one that would be resolved now, each method has its own, and nothing is ever forgotten. So it
cannot show which calls came before; nor can it show whether a call without advice goes along its
empty chain or straight to its target. -/

namespace Weave

variable [ValueTypes] {σ : Type}

def chainRequest? (id : SnapshotId) : Exchange σ → Option Method
  | ⟨.findChain snapshot method, _⟩ => if snapshot = id then some method else none
  | _ => none

def chainRequests (id : SnapshotId) (past : List (Exchange σ)) : List Method :=
  past.filterMap (chainRequest? id)

/-! ### One snapshot -/

/-- A snapshot that was asked for these chains knows them, as they are resolved, and no others. -/
structure Snapshot.Remembers (snapshot : Snapshot σ) (asked : List Method)
    (known : Table Method (Chain σ)) : Prop where
  resolved : ∀ entry ∈ known.entries, entry.2 = snapshot.resolve entry.1
  distinct : known.keys.Nodup
  complete : ∀ method, method ∈ known.keys ↔ method ∈ asked

namespace Snapshot.Remembers

variable {snapshot : Snapshot σ} {asked : List Method} {known : Table Method (Chain σ)}

theorem nothing : snapshot.Remembers [] {} :=
  ⟨List.forall_mem_nil _, List.nodup_nil, fun _ => Iff.rfl⟩

theorem find? (remembers : snapshot.Remembers asked known) (method : Method) :
    known.find? method = if method ∈ asked then some (snapshot.resolve method) else none := by
  cases found : known.find? method with
  | none =>
    have absent := Table.find?_eq_none.1 found
    rw [remembers.complete] at absent
    rw [if_neg absent]
  | some chain =>
    have member := Table.mem_entries_of_find? found
    have given : method ∈ asked := (remembers.complete method).1 (List.mem_map_of_mem member)
    rw [if_pos given, ← remembers.resolved _ member]

theorem size (remembers : snapshot.Remembers asked known) : known.size = asked.dedup.length := by
  have same : known.keys.Perm asked.dedup := by
    rw [List.perm_ext_iff_of_nodup remembers.distinct asked.nodup_dedup]
    intro method
    rw [remembers.complete, List.mem_dedup]
  rw [← same.length_eq, Table.keys, List.length_map, Table.size]

theorem again (remembers : snapshot.Remembers asked known) {method : Method}
    (given : method ∈ asked) : snapshot.Remembers (asked ++ [method]) known := by
  refine ⟨remembers.resolved, remembers.distinct, fun other => ?_⟩
  rw [remembers.complete, List.mem_append, List.mem_singleton]
  exact ⟨Or.inl, fun member => member.elim id (· ▸ given)⟩

theorem insert (remembers : snapshot.Remembers asked known) {method : Method}
    (new : method ∉ asked) :
    snapshot.Remembers (asked ++ [method]) (known.insert method (snapshot.resolve method)) := by
  have absent : method ∉ known.keys := fun member => new ((remembers.complete method).1 member)
  have entries : (known.insert method (snapshot.resolve method)).entries =
      known.entries ++ [(method, snapshot.resolve method)] := Table.put_absent _ absent
  have keys : (known.insert method (snapshot.resolve method)).keys = known.keys ++ [method] := by
    rw [Table.keys, entries, List.map_append]
    rfl
  refine ⟨?_, ?_, fun other => ?_⟩
  · rw [entries]
    exact List.forall_mem_append.2 ⟨remembers.resolved, List.forall_mem_singleton.2 rfl⟩
  · rw [keys, ← List.concat_eq_append]
    exact remembers.distinct.concat absent
  · rw [keys, List.mem_append, List.mem_append, remembers.complete]

end Snapshot.Remembers

/-! ### What becomes of it -/

section
variable (setup : Setup σ)

theorem swap_chains (source : Source σ) (target : Target) (state : State σ) :
    (source.swap target state).2.chains = state.chains := by
  unfold Source.swap
  split
  · split <;> rfl
  · rfl

/-- Chains are remembered only when they are asked for. -/
theorem perform_chains (operation : Operation σ) (state : State σ) (id : SnapshotId)
    (other : ∀ method, operation ≠ .findChain id method) :
    (setup.perform operation state).2.cachedChains id = state.cachedChains id := by
  cases operation with
  | fetch source =>
    obtain ⟨_, _, _, _, _, fetched⟩ := source.take_frame state
    exact congrArg (·.cachedChains id) fetched
  | giveBack source target =>
    obtain ⟨own, cls, kind⟩ := source
    cases kind <;> rfl
  | findChain snapshot method =>
    have apart : id ≠ snapshot := by
      rintro rfl
      exact other method rfl
    simp only [Setup.perform, Setup.chainFor]
    split
    · rfl
    · simp only [State.cachedChains, Table.getD_insert, if_neg apart]
      rfl
  | advise => rfl
  | dispatch cls target method args =>
    obtain ⟨_, dispatched⟩ := dispatch_frame setup cls target method args state
    exact congrArg (·.cachedChains id) dispatched
  | query query =>
    cases query with
    | swap source target => exact congrArg (·.getD id {}) (swap_chains source target state)
    | update | allocate | view | counts | readClock | emit => rfl

variable {id : SnapshotId} {asked : List Method} {state : State σ}
  (remembers : (setup.snapshots id).Remembers asked (state.cachedChains id))
include remembers

theorem chainFor_remembers (method : Method) :
    (setup.chainFor id method state).1 = (setup.snapshots id).resolve method ∧
      (setup.snapshots id).Remembers (asked ++ [method])
        ((setup.chainFor id method state).2.cachedChains id) := by
  have found := remembers.find? method
  unfold Setup.chainFor State.cachedChain?
  by_cases given : method ∈ asked
  · rw [found, if_pos given]
    exact ⟨rfl, remembers.again given⟩
  · rw [found, if_neg given]
    refine ⟨rfl, ?_⟩
    simp only [State.cachedChains, Table.getD_insert, if_true]
    exact remembers.insert given

theorem perform_remembers (operation : Operation σ) :
    (setup.snapshots id).Remembers
      (asked ++ (chainRequest? id ⟨operation, (setup.perform operation state).1⟩).toList)
      ((setup.perform operation state).2.cachedChains id) := by
  by_cases request : ∃ method, operation = .findChain id method
  · obtain ⟨method, rfl⟩ := request
    rw [chainRequest?, if_pos rfl]
    exact (chainFor_remembers setup remembers method).2
  · have silent (answer : operation.Answer) : chainRequest? id ⟨operation, answer⟩ = none := by
      cases operation with
      | findChain snapshot method =>
        refine if_neg ?_
        rintro rfl
        exact request ⟨method, rfl⟩
      | fetch | giveBack | advise | dispatch | query => rfl
    rw [silent, perform_chains setup operation state id fun method same => request ⟨method, same⟩,
      Option.toList_none, List.append_nil]
    exact remembers

theorem reaches_remembers {α : Type} {course : Course σ α} {past : List (Exchange σ)}
    {now : State σ} (moment : Dialogue.Reaches setup.perform course state past now) :
    (setup.snapshots id).Remembers (asked ++ chainRequests id past) (now.cachedChains id) := by
  induction moment generalizing asked with
  | now course state =>
    rw [chainRequests, List.filterMap_nil, List.append_nil]
    exact remembers
  | @later operation next state past now rest ih =>
    have onwards := ih (perform_remembers setup remembers operation)
    have split : chainRequests id (⟨operation, (setup.perform operation state).1⟩ :: past) =
        (chainRequest? id ⟨operation, (setup.perform operation state).1⟩).toList ++
          chainRequests id past := by
      unfold chainRequests
      rw [List.filterMap_cons]
      cases chainRequest? id ⟨operation, (setup.perform operation state).1⟩ <;> rfl
    rw [split, ← List.append_assoc]
    exact onwards

end

theorem reaches_recalls {α : Type} (setup : Setup σ) {id : SnapshotId} {course : Course σ α}
    {start now : State σ} {past : List (Exchange σ)} (unknown : start.cachedChains id = {})
    (moment : Dialogue.Reaches setup.perform course start past now) :
    (setup.snapshots id).Remembers (chainRequests id past) (now.cachedChains id) := by
  have first : (setup.snapshots id).Remembers [] (start.cachedChains id) := by
    rw [unknown]
    exact .nothing
  exact reaches_remembers setup first moment

/-! ### Straight to the target -/

def Event.isArrival : Event → Bool
  | .noAdvice _ | .chainEnded _ => true
  | _ => false

theorem showing_arrival {event : Event} (arrival : event.isArrival = true) (state : State σ) :
    (state.emit event).showing (fun event => !event.isArrival) =
      state.showing (fun event => !event.isArrival) := by
  change state.relog ((state.events.push event).filter fun event => !event.isArrival) = _
  rw [Array.filter_push, arrival]
  rfl

def Snapshot.frame (snapshot : Snapshot σ) (proxy : Proxy) (target : Target) (method : Method)
    (chain : Chain σ) : CallFrame :=
  ⟨method, target, snapshot.cls, chain.length, if snapshot.flags.exposeProxy then some proxy else none⟩

/-- What a call does once its chain is found. -/
def Snapshot.callAlong (snapshot : Snapshot σ)
    (call : Proxy → Method → Arguments → Course σ Outcome) (proxy : Proxy) (target : Target)
    (method : Method) (args : Arguments) (chain : Chain σ) : Course σ Outcome :=
  if chain.isEmpty then do
    Course.emit (.noAdvice method)
    Course.perform (.dispatch snapshot.cls target method args)
  else do
    let (outcome, _) ← Chain.proceed (snapshot.frame proxy target method chain) call chain ⟨args, 0⟩
    return outcome

theorem callOn_eq (snapshot : Snapshot σ) (call : Proxy → Method → Arguments → Course σ Outcome)
    (proxy : Proxy) (target : Target) (method : Method) (args : Arguments) :
    snapshot.callOn call proxy target method args =
      Course.perform (.findChain proxy.snapshot method) >>=
        snapshot.callAlong call proxy target method args := rfl

/-- A call that goes straight to its target ends as one that goes along its empty chain does, but for
the note about the way it went. -/
theorem callOn_proceeds (setup : Setup σ) (call : Proxy → Method → Arguments → Course σ Outcome)
    (snapshot : Snapshot σ) (proxy : Proxy) (target : Target) (method : Method) (args : Arguments)
    {state found : State σ} {chain : Chain σ}
    (given : setup.chainFor proxy.snapshot method state = (chain, found)) :
    let frame := snapshot.frame proxy target method chain
    let came := (snapshot.callOn call proxy target method args).run setup.perform state
    let proceeded := (Chain.proceed frame call chain ⟨args, 0⟩).run setup.perform found
    came.1 = proceeded.1.1 ∧
      came.2.showing (fun event => !event.isArrival) =
        proceeded.2.showing (fun event => !event.isArrival) := by
  intro frame came proceeded
  have performed : setup.perform (.findChain proxy.snapshot method) state = (chain, found) := given
  have onwards : came =
      (snapshot.callAlong call proxy target method args chain).run setup.perform found := by
    unfold came
    rw [callOn_eq, run_perform, performed]
  cases chain with
  | cons entry rest =>
    rw [Snapshot.callAlong, List.isEmpty_cons, if_neg Bool.false_ne_true, Dialogue.run_bind] at onwards
    rw [onwards]
    exact ⟨rfl, rfl⟩
  | nil =>
    -- Both ways write a note and dispatch, and what is dispatched does not see the note.
    have alike : (found.emit (.noAdvice method)).showing (fun event => !event.isArrival) =
        (found.emit (.chainEnded method)).showing (fun event => !event.isArrival) := by
      rw [showing_arrival rfl, showing_arrival rfl]
    have straight : came = snapshot.cls.dispatch setup target method args
      (found.emit (.noAdvice method)) := onwards
    have along : (proceeded.1.1, proceeded.2) = snapshot.cls.dispatch setup target method args
      (found.emit (.chainEnded method)) := rfl
    have dispatched := (setup.logBlind_dispatch snapshot.cls target method args).showing alike
    rw [← along, ← straight] at dispatched
    exact dispatched

/-! ### Any run -/

/-- Whatever is done with snapshots, calls that succeed, fail or call again as well as requests for
chains themselves: at every moment the chains known are those that were asked for, one for each
method and as they would be resolved now; a chain once known stays the same; to ask for a chain
gives the resolved one, whatever came before; and a call ends as if it went along that chain even
where there is nothing to go along. -/
theorem chains_remembered_as_resolved {α : Type} (setup : Setup σ) (course : Course σ α)
    (start : State σ) (id : SnapshotId) (unused : start.cachedChains id = {})
    (past : List (Exchange σ)) (now : State σ)
    (moment : Dialogue.Reaches setup.perform course start past now) :
    let snapshot := setup.snapshots id
    let known := now.cachedChains id
    let asked := chainRequests id past
    (∀ entry ∈ known.entries, entry.2 = snapshot.resolve entry.1) ∧
      known.keys.Nodup ∧ (∀ method, method ∈ known.keys ↔ method ∈ asked) ∧
      known.size = asked.dedup.length ∧
      (∀ further later, Dialogue.Reaches setup.perform course start (past ++ further) later →
        ∀ method chain, now.cachedChain? id method = some chain →
          later.cachedChain? id method = some chain) ∧
      (∀ method, (setup.chainFor id method now).1 = snapshot.resolve method) ∧
      ∀ depth proxy target method args, proxy.snapshot = id →
        let chain := snapshot.resolve method
        let frame := snapshot.frame proxy target method chain
        let came := (snapshot.callOn (setup.call depth) proxy target method args).run
          setup.perform now
        let proceeded := (Chain.proceed frame (setup.call depth) chain ⟨args, 0⟩).run
          setup.perform (setup.chainFor id method now).2
        came.1 = proceeded.1.1 ∧
          came.2.showing (fun event => !event.isArrival) =
            proceeded.2.showing (fun event => !event.isArrival) := by
  intro snapshot known asked
  have remembers : snapshot.Remembers asked known := reaches_recalls setup unused moment
  refine ⟨remembers.resolved, remembers.distinct, remembers.complete, remembers.size, ?_, ?_, ?_⟩
  · intro further later onwards method chain given
    have still := reaches_recalls setup unused onwards
    rw [State.cachedChain?, remembers.find?] at given
    rw [State.cachedChain?, still.find?]
    by_cases member : method ∈ asked
    · have kept : method ∈ chainRequests id (past ++ further) := by
        rw [chainRequests, List.filterMap_append]
        exact List.mem_append_left _ member
      rw [if_pos member] at given
      rw [if_pos kept, ← given]
    · rw [if_neg member] at given
      contradiction
  · exact fun method => (chainFor_remembers setup remembers method).1
  · rintro depth proxy target method args rfl
    have resolved := (chainFor_remembers setup remembers method).1
    exact callOn_proceeds setup (setup.call depth) snapshot proxy target method args
      (Prod.ext resolved rfl)

end Weave

namespace Weave.Echo

def visits : Course Nat (Chain Nat) := do
  let _ ← Course.perform (.findChain 0 method)
  let _ ← (setup hoarding).call 2 proxy method {}
  Course.perform (.findChain 0 elsewhere)

/-- Of the four requests, two come from the call and the one that advice makes within it. -/
theorem hoarding_remembers :
    let past := visits.transcript (setup hoarding).perform fresh
    let known := (visits.run (setup hoarding).perform fresh).2.cachedChains 0
    chainRequests 0 past = [method, method, method, elsewhere] ∧ known.size = 2 ∧
      ∀ entry ∈ known.entries, entry.2 = ((setup hoarding).snapshots 0).resolve entry.1 := by
  intro past known
  obtain ⟨resolved, -, -, size, -⟩ := chains_remembered_as_resolved (setup hoarding) visits fresh 0
    rfl past _ (Dialogue.reaches_end _ _ _)
  exact ⟨rfl, size, resolved⟩

end Weave.Echo
