import Mathlib.Algebra.BigOperators.Group.List.Basic
import Weave.Proofs.Attempts
import Weave.Proofs.Transparency

/-! Retries within retries. Each piece of advice that retries runs the whole chain behind it again,
with the retries in it, so that the limits of a chain multiply. A call goes to its target until that
serves, at most as often as the product allows, and comes back with the last answer. -/

namespace Weave

variable [ValueTypes] {σ : Type}

/-! ### Answers -/

/-- The first so many answers are failures, and no others are. -/
def FailsFirst (failures : Nat) (answers : List Outcome) : Prop :=
  ∀ number answer, answers[number]? = some answer →
    ((∃ fault, answer = .error fault) ↔ number < failures)

/-- A last answer and those before it: as many as it takes until one succeeds, but no more than a
limit. -/
structure Tried (limit : Nat) (earlier : List Outcome) (last : Outcome) : Prop where
  failed : ∀ answer ∈ earlier, ∃ fault, answer = .error fault
  within : earlier.length < limit
  exhausted : ∀ fault, last = .error fault → earlier.length + 1 = limit

namespace Tried

theorem once (answer : Outcome) : Tried 1 [] answer :=
  ⟨List.forall_mem_nil _, Nat.one_pos, fun _ _ => rfl⟩

variable {limit further : Nat} {earlier others : List Outcome} {last : Outcome}

theorem enough {value : Value} (tried : Tried limit earlier (.ok value)) (above : limit ≤ further) :
    Tried further earlier (.ok value) :=
  ⟨tried.failed, tried.within.trans_le above, nofun⟩

theorem again {fault : Fault} (tried : Tried limit earlier (.error fault))
    (onwards : Tried further others last) :
    Tried (limit + further) (earlier ++ .error fault :: others) last := by
  have length : (earlier ++ .error fault :: others).length = limit + others.length := by
    rw [← tried.exhausted fault rfl, List.length_append, List.length_cons]
    omega
  refine ⟨?_, ?_, fun fault failed => ?_⟩
  · exact List.forall_mem_append.2 ⟨tried.failed, List.forall_mem_cons.2 ⟨⟨fault, rfl⟩, onwards.failed⟩⟩
  · rw [length]
    exact Nat.add_lt_add_left onwards.within limit
  · rw [length, Nat.add_assoc, onwards.exhausted fault failed]

theorem count {failures : Nat} (tried : Tried limit earlier last)
    (fails : FailsFirst failures (earlier ++ [last])) :
    (earlier ++ [last]).length = min (failures + 1) limit ∧
      ((∃ value, last = .ok value) ↔ failures < limit) := by
  have atEnd := fails earlier.length last (by simp)
  have before : earlier.length ≤ failures := by
    by_contra fewer
    have present : failures < earlier.length := by omega
    have answered : (earlier ++ [last])[failures]? = some earlier[failures] := by
      rw [List.getElem?_append_left present, List.getElem?_eq_getElem present]
    have failed := tried.failed _ (List.getElem_mem present)
    exact Nat.lt_irrefl _ ((fails _ _ answered).1 failed)
  have within := tried.within
  rw [List.length_append, List.length_singleton]
  cases last with
  | ok value =>
    have served : ¬ earlier.length < failures := fun less => nomatch atEnd.2 less
    refine ⟨by omega, fun _ => by omega, fun _ => ⟨value, rfl⟩⟩
  | error fault =>
    have failing := atEnd.1 ⟨fault, rfl⟩
    have exhausted := tried.exhausted fault rfl
    refine ⟨by omega, nofun, fun _ => by omega⟩

end Tried

/-! ### Going to the target again and again -/

/-- An operation is asked for again and again, with these answers, and nothing is dispatched besides
but in whole calls made in between. -/
inductive Repeats (whole : List (Exchange σ) → Prop) (operation : Operation σ) :
    List operation.Answer → List (Exchange σ) → Prop
  | aside {exchanges : List (Exchange σ)} (aside : Aside whole exchanges) :
      Repeats whole operation [] exchanges
  | asked {answer : operation.Answer} {answers : List operation.Answer}
      {ahead rest : List (Exchange σ)} (before : Aside whole ahead)
      (onwards : Repeats whole operation answers rest) :
      Repeats whole operation (answer :: answers) (ahead ++ ⟨operation, answer⟩ :: rest)

namespace Repeats

variable {whole : List (Exchange σ) → Prop} {operation : Operation σ}
  {answers others : List operation.Answer} {first second : List (Exchange σ)}

theorem behind (before : Aside whole first) (repeats : Repeats whole operation answers second) :
    Repeats whole operation answers (first ++ second) := by
  cases repeats with
  | aside aside => exact .aside (before.append aside)
  | asked between onwards =>
    rw [← List.append_assoc]
    exact .asked (before.append between) onwards

theorem append (repeats : Repeats whole operation answers first)
    (onwards : Repeats whole operation others second) :
    Repeats whole operation (answers ++ others) (first ++ second) := by
  induction repeats with
  | aside aside => exact onwards.behind aside
  | asked before _ ih =>
    rw [List.append_assoc]
    exact .asked before ih

theorem followed (repeats : Repeats whole operation answers first) (after : Aside whole second) :
    Repeats whole operation answers (first ++ second) := by
  rw [← List.append_nil answers]
  exact repeats.append (.aside after)

theorem dispatches_eq {exchanges : List (Exchange σ)} (dispatch : operation.isDispatch = true)
    (silent : ∀ nested, whole nested → nested.filter (·.1.isDispatch) = [])
    (repeats : Repeats whole operation answers exchanges) :
    exchanges.filter (·.1.isDispatch) = answers.map (Sigma.mk operation) := by
  have none {exchanges : List (Exchange σ)} (aside : Aside whole exchanges) :
      exchanges.filter (·.1.isDispatch) = [] := by
    induction aside with
    | nil => rfl
    | own mine _ ih => rw [List.filter_cons_of_neg (by simp [mine]), ih]
    | call entire _ ih => rw [List.filter_append, silent _ entire, ih, List.append_nil]
  induction repeats with
  | aside aside => exact none aside
  | asked before _ ih =>
    rw [List.filter_append, none before, List.nil_append, List.map_cons, ← ih]
    exact List.filter_cons_of_pos dispatch

end Repeats

section
variable (setup : Setup σ) (depth : Nat) (frame : CallFrame) (args : Arguments)

def CallFrame.CanAnswer (outcome : Outcome) : Prop :=
  ∃ state, (setup.perform (frame.dispatching args) state).1 = outcome

/-- A course that goes to the target until it serves, at most as often as a limit allows, and comes back
to its place with the last answer. -/
def CallFrame.Persists (limit place : Nat) (course : Course σ (Outcome × Progress))
    (state : State σ) : Prop :=
  ∃ earlier last, Tried limit earlier last ∧ frame.CanAnswer setup args last ∧
    Repeats (setup.WholeCall depth) (frame.dispatching args) (earlier ++ [last])
      (course.transcript setup.perform state) ∧
    (course.run setup.perform state).1 = (last, ⟨args, place⟩)

end

section
variable {setup : Setup σ} {depth : Nat} {frame : CallFrame} {args : Arguments} {limit place : Nat}

theorem persists_behind {α : Type} (first : Course σ α) {next : α → Course σ (Outcome × Progress)}
    {state : State σ} (aside : Aside (setup.WholeCall depth) (first.transcript setup.perform state))
    (onwards : frame.Persists setup depth args limit place (next (first.run setup.perform state).1)
      (first.run setup.perform state).2) :
    frame.Persists setup depth args limit place (first >>= next) state := by
  obtain ⟨earlier, last, tried, answers, repeats, came⟩ := onwards
  refine ⟨earlier, last, tried, answers, ?_, ?_⟩
  · rw [Dialogue.transcript_bind]
    exact repeats.behind aside
  · rw [Dialogue.run_bind]
    exact came

theorem persists_handed {back : Nat} {course : Course σ (Outcome × Progress)}
    {next : Outcome × Progress → Course σ (Outcome × Progress)} {state : State σ}
    (persists : frame.Persists setup depth args limit place course state)
    (handsOn : ∀ outcome after, frame.CanAnswer setup args outcome →
      frame.Reached args setup depth back (some outcome) (next (outcome, ⟨args, place⟩)) after) :
    frame.Persists setup depth args limit back (course >>= next) state := by
  obtain ⟨earlier, last, tried, answers, repeats, came⟩ := persists
  obtain ⟨aside, ended⟩ := handsOn last (course.run setup.perform state).2 answers
  refine ⟨earlier, last, tried, answers, ?_, ?_⟩
  · rw [Dialogue.transcript_bind, came]
    exact repeats.followed aside
  · rw [Dialogue.run_bind, came]
    exact ended

theorem persists_returning {back : Nat} {goOn : Progress → Course σ (Outcome × Progress)}
    {state : State σ}
    (persists : frame.Persists setup depth args limit place (goOn ⟨args, back⟩) state) :
    frame.Persists setup depth args limit back (Progress.returning goOn ⟨args, back⟩) state :=
  persists_handed persists fun _ _ _ => ⟨.nil, rfl⟩

theorem persists_target (state : State σ) :
    frame.Persists setup depth args 1 place (frame.reachTarget ⟨args, place⟩) state := by
  have asked : Repeats (setup.WholeCall depth) (frame.dispatching args) _
      ((frame.reachTarget ⟨args, place⟩).transcript setup.perform state) :=
    .asked (.own rfl .nil) (.aside .nil)
  exact ⟨[], _, .once _, ⟨_, rfl⟩, asked, rfl⟩

theorem persists_again {further : Nat} {course : Course σ (Outcome × Progress)}
    {next : Outcome × Progress → Course σ (Outcome × Progress)} {state : State σ}
    (persists : frame.Persists setup depth args limit place course state)
    (served : ∀ value after,
      frame.Reached args setup depth place (some (.ok value)) (next (.ok value, ⟨args, place⟩)) after)
    (failed : ∀ fault after,
      frame.Persists setup depth args further place (next (.error fault, ⟨args, place⟩)) after) :
    frame.Persists setup depth args (limit + further) place (course >>= next) state := by
  obtain ⟨earlier, last, tried, answers, repeats, came⟩ := persists
  unfold CallFrame.Persists
  rw [Dialogue.transcript_bind, Dialogue.run_bind, came]
  cases last with
  | ok value =>
    obtain ⟨aside, ended⟩ := served value (course.run setup.perform state).2
    exact ⟨earlier, _, tried.enough (Nat.le_add_right _ _), answers, repeats.followed aside, ended⟩
  | error fault =>
    obtain ⟨others, last, onwards, answers, again, ended⟩ :=
      failed fault (course.run setup.perform state).2
    refine ⟨earlier ++ .error fault :: others, last, tried.again onwards, answers, ?_, ended⟩
    rw [List.append_assoc, List.cons_append, ← List.singleton_append, ← List.append_assoc]
    exact repeats.append again

/-! ### One piece of advice -/

section
variable {proceed : Progress → Course σ (Outcome × Progress)}
  (goesOn : ∀ state, frame.Persists setup depth args limit place (proceed ⟨args, place⟩) state)
include goesOn

theorem persists_handsOn {interceptor : Interceptor σ}
    (handsOn : ∀ state, HandsOn setup depth (frame.point args) (frame.CanAnswer setup args) none
      interceptor state) (state : State σ) :
    frame.Persists setup depth args limit place
      (Interceptor.course frame (setup.call depth) proceed interceptor ⟨args, place⟩) state := by
  let holds : Option Outcome → Course σ (Outcome × Progress) → State σ → Prop
    | none => frame.Persists setup depth args limit place
    | some outcome => frame.Reached args setup depth place (some outcome)
  refine persists_behind _ (.own rfl .nil)
    (handsOn_holds frame args holds (fun _ _ => ⟨.nil, rfl⟩) ?_ ?_ (handsOn _))
  · intro α got first next state aside onwards
    cases got with
    | none => exact persists_behind first aside onwards
    | some outcome => exact delivers_behind first aside onwards
  · exact fun state onwards => persists_handed (goesOn state) onwards

theorem persists_attempts {retry : Retry σ} (unconditional : retry.retryIf = none)
    (further number : Nat) (state : State σ) :
    frame.Persists setup depth args ((further + 1) * limit) place
      ((retry.attempts further number).translate
        (AroundRequest.course frame (setup.call depth) proceed) ⟨args, place⟩) state := by
  induction further generalizing number state with
  | zero =>
    rw [Nat.zero_add, Nat.one_mul]
    exact persists_handed (goesOn state) fun _ _ _ => ⟨.nil, rfl⟩
  | succ further ih =>
    rw [Nat.succ_mul, Nat.add_comm, Retry.attempts_succ]
    refine persists_again (goesOn state) (fun value after => ⟨.nil, rfl⟩) fun fault after => ?_
    have again : retry.resume further number (.error fault) =
        retry.note number fault >>= fun _ => retry.attempts further (number + 1) := by
      rw [Retry.resume, Retry.shouldRetry, unconditional]
      rfl
    change frame.Persists setup depth args _ place
      ((retry.resume further number (.error fault)).translate _ _) after
    rw [again]
    exact persists_behind (Course.emit _) (.own rfl .nil) (ih _ _)

theorem persists_retry (allowed : Nat) (state : State σ) :
    frame.Persists setup depth args (max allowed 1 * limit) place
      (Interceptor.course frame (setup.call depth) proceed (Retry.ofLimit allowed).interceptor
        ⟨args, place⟩) state := by
  have attempts : max allowed 1 - 1 + 1 = max allowed 1 := by omega
  rw [← attempts]
  exact persists_behind _ (.own rfl .nil) (persists_attempts goesOn rfl _ _ _)

end

end

/-! ### A whole chain -/

def ChainEntry.takes (frame : CallFrame) (args : Arguments) : ChainEntry σ → Bool
  | .fixed _ => true
  | .dynamic _ advisor =>
    advisor.pointcut.methodMatcher.matchesCall frame.method frame.cls args

section
variable (frame : CallFrame) (call : Proxy → Method → Arguments → Course σ Outcome)
  {chain : Chain σ} {progress : Progress} {entry : ChainEntry σ}

theorem proceed_taken (found : chain[progress.position]? = some entry)
    (taken : entry.takes frame progress.arguments = true) :
    Chain.proceed frame call chain progress =
      Progress.returning (fun progress =>
        Interceptor.course frame call (Chain.proceed frame call chain) entry.interceptor
          progress.passing) progress := by
  cases entry with
  | fixed interceptor => exact proceed_fixed frame call found
  | dynamic interceptor advisor =>
    rw [proceed_dynamic frame call found]
    unfold Progress.returning
    rw [ChainEntry.takes] at taken
    simp only [taken, if_true]
    rfl

theorem proceed_untaken {args : Arguments} {place : Nat} (found : chain[place]? = some entry)
    (untaken : entry.takes frame args = false) :
    ∃ event, Chain.proceed frame call chain ⟨args, place⟩ =
      Progress.returning (fun progress => do
        Course.emit event
        Chain.proceed frame call chain progress.passing) ⟨args, place⟩ := by
  cases entry with
  | fixed interceptor => contradiction
  | dynamic interceptor advisor =>
    rw [ChainEntry.takes] at untaken
    refine ⟨.advisorSkipped advisor.name frame.method, ?_⟩
    rw [proceed_dynamic frame call found]
    unfold Progress.returning
    simp only [untaken, Bool.false_eq_true, if_false]

end

section
variable (setup : Setup σ) (depth : Nat) (frame : CallFrame) (args : Arguments)

/-- Advice that retries without a condition, with these limits, among advice that hands the call on or
has no part in it. -/
inductive Chain.Retries : Chain σ → List Nat → Prop
  | nil : Retries [] []
  | retrying {entry : ChainEntry σ} {rest : Chain σ} {limits : List Nat} (limit : Nat)
      (same : entry.interceptor = (Retry.ofLimit limit).interceptor)
      (taken : entry.takes frame args = true) (onwards : Retries rest limits) :
      Retries (entry :: rest) (limit :: limits)
  | handing {entry : ChainEntry σ} {rest : Chain σ} {limits : List Nat}
      (handsOn : ∀ state, HandsOn setup depth (frame.point args) (frame.CanAnswer setup args) none
        entry.interceptor state)
      (onwards : Retries rest limits) : Retries (entry :: rest) limits
  | skipped {entry : ChainEntry σ} {rest : Chain σ} {limits : List Nat}
      (untaken : entry.takes frame args = false) (onwards : Retries rest limits) :
      Retries (entry :: rest) limits

variable {setup depth frame args} {chain rest : Chain σ} {entry : ChainEntry σ} {place : Nat}

theorem ahead_cons (ahead : chain.drop place = entry :: rest) :
    chain[place]? = some entry ∧ chain.drop (place + 1) = rest := by
  constructor
  · rw [← Nat.add_zero place, ← List.getElem?_drop, ahead, List.getElem?_cons_zero]
  · rw [← List.drop_drop, ahead, List.drop_one, List.tail_cons]

theorem persists_untaken {limit : Nat} (found : chain[place]? = some entry)
    (untaken : entry.takes frame args = false)
    (onwards : ∀ state, frame.Persists setup depth args limit (place + 1)
      (Chain.proceed frame (setup.call depth) chain ⟨args, place + 1⟩) state) (state : State σ) :
    frame.Persists setup depth args limit place
      (Chain.proceed frame (setup.call depth) chain ⟨args, place⟩) state := by
  obtain ⟨event, proceeds⟩ := proceed_untaken frame (setup.call depth) found untaken
  rw [proceeds]
  exact persists_returning (persists_behind (Course.emit event) (.own rfl .nil) (onwards _))

/-- From every place the call goes to its target as often as the retries still ahead allow. -/
theorem proceed_persists {limits : List Nat}
    (made : Chain.Retries setup depth frame args rest limits) (ahead : chain.drop place = rest)
    (state : State σ) :
    frame.Persists setup depth args (limits.map (max · 1)).prod place
      (Chain.proceed frame (setup.call depth) chain ⟨args, place⟩) state := by
  -- A retry runs all that is behind it again, so what is behind is known for every state.
  induction made generalizing place state with
  | nil =>
    have found : chain[place]? = none := List.getElem?_eq_none (List.drop_eq_nil_iff.1 ahead)
    rw [proceed_ended frame _ found]
    exact persists_returning (persists_target state)
  | @retrying entry rest limits limit same taken _ ih =>
    obtain ⟨found, behind⟩ := ahead_cons ahead
    rw [proceed_taken frame _ found taken, same, List.map_cons, List.prod_cons]
    exact persists_returning (persists_retry (ih behind) limit state)
  | @handing entry rest limits handsOn _ ih =>
    obtain ⟨found, behind⟩ := ahead_cons ahead
    cases taken : entry.takes frame args with
    | true =>
      rw [proceed_taken frame _ found taken]
      exact persists_returning (persists_handsOn (ih behind) handsOn state)
    | false => exact persists_untaken found taken (ih behind) state
  | @skipped entry rest limits untaken _ ih =>
    obtain ⟨found, behind⟩ := ahead_cons ahead
    exact persists_untaken found untaken (ih behind) state

end

/-- A call along a chain with advice that retries, each piece without a condition, goes to its target
until that serves, but no more often than the product of the limits allows: a target that first fails
a number of times is asked once more than that, or as often as allowed. The call ends with its last
answer, in the place where it began. -/
theorem retries_multiply (setup : Setup σ) (depth : Nat) (frame : CallFrame) (args : Arguments)
    (chain : Chain σ) (limits : List Nat) (state : State σ)
    (made : Chain.Retries setup depth frame args chain limits) :
    let course := Chain.proceed frame (setup.call depth) chain ⟨args, 0⟩
    let allowed := (limits.map (max · 1)).prod
    ∃ earlier last,
      Repeats (setup.WholeCall depth) (frame.dispatching args) (earlier ++ [last])
        (course.transcript setup.perform state) ∧
      (course.run setup.perform state).1 = (last, ⟨args, 0⟩) ∧
      ∀ failures, FailsFirst failures (earlier ++ [last]) →
        (earlier ++ [last]).length = min (failures + 1) allowed ∧
          ((∃ value, last = .ok value) ↔ failures < allowed) := by
  intro course allowed
  obtain ⟨earlier, last, tried, -, repeats, came⟩ := proceed_persists made List.drop_zero state
  exact ⟨earlier, last, repeats, came, fun failures fails => tried.count fails⟩

end Weave

namespace Weave.Flaky

def setup : Setup Nat where
  entryCode _ _ _ _ left :=
    match left with
    | 0 => (.ok ⟨.u64, (7 : UInt64)⟩, 0)
    | left + 1 => (.error (.text "not yet"), left)
  snapshots _ := { source := ⟨0, Echo.cls, .singleton ⟨0, Echo.type⟩⟩ }

def refusing : Advisor Nat :=
  .ofPointcut ⟨fun _ => true, .dynamic fun _ _ _ => false⟩
    (.around (Retry.ofLimit 9).interceptor)

/-- Retries, twice and three times, with advice between them that only watches and advice that does
not take the call. -/
def chain : Chain Nat :=
  [.fixed (Retry.ofLimit 2).interceptor, .fixed (traceAdvice false),
    .dynamic refusing.advice.interceptor refusing, .fixed (Retry.ofLimit 3).interceptor]

def frame : CallFrame := ⟨Echo.method, ⟨0, Echo.type⟩, Echo.cls, chain.length, none⟩

/-- A target that fails four times is asked five times and serves in the end. -/
theorem fifth_serves :
    let course := Chain.proceed frame (setup.call 0) chain ⟨{}, 0⟩
    let answers : List Outcome :=
      List.replicate 4 (.error (.text "not yet")) ++ [.ok ⟨.u64, (7 : UInt64)⟩]
    Chain.Retries setup 0 frame {} chain [2, 3] ∧ FailsFirst 4 answers ∧
      (course.transcript setup.perform { memory := 4 }).filter (·.1.isDispatch) =
        answers.map (Sigma.mk (frame.dispatching {})) ∧
      answers.length = min (4 + 1) 6 ∧
      ∃ value, (course.run setup.perform { memory := 4 }).1.1 = .ok value := by
  intro course answers
  have made : Chain.Retries setup 0 frame {} chain [2, 3] :=
    .retrying 2 rfl rfl <| .handing (Advice.PassesThrough.trace false).handsOn <|
      .skipped rfl <| .retrying 3 rfl rfl .nil
  obtain ⟨earlier, last, repeats, came, counts⟩ :=
    retries_multiply setup 0 frame {} chain [2, 3] { memory := 4 } made
  have silent (nested : List (Exchange Nat)) (whole : setup.WholeCall 0 nested) :
      nested.filter (·.1.isDispatch) = [] := by
    obtain ⟨proxy, method, args, state, rfl⟩ := whole
    rfl
  have dispatched : (course.transcript setup.perform { memory := 4 }).filter (·.1.isDispatch) =
    answers.map (Sigma.mk (frame.dispatching {})) := rfl
  have told :
      Function.Injective (@Sigma.mk (Operation Nat) Operation.Answer (frame.dispatching {})) :=
    sigma_mk_injective
  have heard : answers = earlier ++ [last] :=
    List.map_injective_iff.2 told (dispatched.symm.trans (repeats.dispatches_eq rfl silent))
  have fails : FailsFirst 4 answers := by
    intro number answer found
    rcases number with _ | _ | _ | _ | _ | number <;> simp [answers] at found <;> simp [← found]
  rw [← heard] at counts
  obtain ⟨count, served⟩ := counts 4 fails
  refine ⟨made, fails, dispatched, count, ?_⟩
  rw [came]
  exact served.2 (by decide)

end Weave.Flaky
