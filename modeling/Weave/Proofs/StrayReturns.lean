import Weave.Proofs.PoolLoans

/-! What becomes of a pool that is given anything back. It never looks at what comes back, so its
books are in order at every moment just if everything that is given back is on loan at that moment,
or could have been made by the pool while nothing is. Any other return leaves them wrong at once. -/

namespace Weave

namespace Dialogue

variable {Question : Type} {Answer : Question → Type} {α γ ω : Type}

/-- A moment of a run at which a question is put: what has been exchanged by then, and the world at
that point. -/
inductive Asks (reply : (question : Question) → ω → Answer question × ω) :
    Dialogue Question Answer α → ω → List (Exchange Question Answer) → ω → Question → Prop
  | now (question : Question) (next : Answer question → Dialogue Question Answer α) (world : ω) :
      Asks reply (ask question next) world [] world question
  | later {question asked : Question} {next : Answer question → Dialogue Question Answer α}
      {world reached : ω} {past : List (Exchange Question Answer)}
      (rest : Asks reply (next (reply question world).1) (reply question world).2 past reached asked) :
      Asks reply (ask question next) world (⟨question, (reply question world).1⟩ :: past) reached asked

/-- Where what holds is kept by exactly those questions that are harmless when they are put, it holds
throughout a run just if all questions of the run are harmless. -/
theorem holds_throughout_iff {reply : (question : Question) → ω → Answer question × ω}
    (account : γ → Exchange Question Answer → γ) (each : Question → Prop) (holds : γ → ω → Prop)
    (harmless : γ → ω → Question → Prop)
    (kept : ∀ ledger question world, each question → holds ledger world →
      (holds (account ledger ⟨question, (reply question world).1⟩) (reply question world).2 ↔
        harmless ledger world question))
    (dialogue : Dialogue Question Answer α) (ledger : γ) (world : ω) (start : holds ledger world)
    (all : ∀ exchange ∈ transcript reply dialogue world, each exchange.1) :
    (∀ past now, Reaches reply dialogue world past now → holds (past.foldl account ledger) now) ↔
      ∀ past now question, Asks reply dialogue world past now question →
        harmless (past.foldl account ledger) now question := by
  induction dialogue generalizing ledger world with
  | done result =>
    refine ⟨fun _ past now question asks => (nomatch asks), fun _ past now moment => ?_⟩
    cases moment with
    | now => exact start
  | ask question next ih =>
    -- Either side tells of the first question that what holds survives it; the rest is induction.
    obtain ⟨first, others⟩ := List.forall_mem_cons.1 all
    have step := kept ledger question world first start
    constructor
    · intro throughout past now asked asks
      have still := throughout _ _ (.later (.now _ _))
      cases asks with
      | now => exact step.1 still
      | later rest =>
        exact (ih _ _ _ still others).1 (fun past now moment => throughout _ _ (.later moment))
          _ _ _ rest
    · intro unharmed past now moment
      have still := step.2 (unharmed _ _ _ (.now question next world))
      cases moment with
      | now => exact start
      | later rest =>
        exact (ih _ _ _ still others).2 (fun past now asked asks => unharmed _ _ _ (.later asks))
          _ _ rest

end Dialogue

/-! ### Books in order -/

namespace PoolRecord

/-- The record of a pool with these loans: it counts them, keeps the limit, has each target in one
place only, and knows of none but targets of its type that exist. -/
structure InOrder (type : ObjectType) (limit : Nat) (loans : List Target) (record : PoolRecord) :
    Prop where
  active : record.active = loans.length
  bounded : record.active + record.idle.length ≤ limit
  distinct : ((loans ++ record.idle).map (·.id)).Nodup
  known : ∀ target ∈ loans ++ record.idle, target.id < record.allocated
  typed : ∀ target ∈ loans ++ record.idle, target.type = type

/-- A target whose return does no harm: it is on loan, or nothing is, and the pool might have made it
and still has room for it. -/
def Welcomes (type : ObjectType) (limit : Nat) (loans : List Target) (record : PoolRecord)
    (target : Target) : Prop :=
  target ∈ loans ∨ loans = [] ∧ record.idle.length < limit ∧ target.type = type ∧
    target.id < record.allocated ∧ ∀ idle ∈ record.idle, idle.id ≠ target.id

variable {type : ObjectType} {limit : Nat} {loans : List Target} {before after : PoolRecord}

theorem Lends.recounted {answer : Except Fault Target} (lends : before.Lends type limit answer after)
    (made : Nat) :
    ∃ count, ({ before with made } : PoolRecord).Lends type limit answer { after with made := count } := by
  cases lends with
  | reused waiting => exact ⟨_, .reused waiting⟩
  | exhausted empty full => exact ⟨_, .exhausted empty full⟩
  | made empty room => exact ⟨_, .made empty room⟩
  | failed fault empty room => exact ⟨_, .failed fault empty room⟩

theorem Sound.inOrder {made : Nat} (sound : ({ after with made } : PoolRecord).Sound limit loans)
    (typed : ∀ target ∈ loans ++ after.idle, target.type = type) : after.InOrder type limit loans :=
  ⟨sound.active, sound.bounded, sound.distinct, sound.known, typed⟩

namespace InOrder

theorem sound (order : before.InOrder type limit loans) :
    ({ before with made := loans.length + before.idle.length } : PoolRecord).Sound limit loans :=
  ⟨order.active, order.bounded, order.distinct, order.known, rfl⟩

theorem spared (order : before.InOrder type limit loans) (spared : before.Spared after) :
    after.InOrder type limit loans := by
  obtain ⟨idle, active, -, allocated⟩ := spared
  refine ⟨active.trans order.active, ?_, ?_, fun target member => ?_, ?_⟩
  · rw [active, idle]
    exact order.bounded
  · rw [idle]
    exact order.distinct
  · rw [idle] at member
    exact Nat.lt_of_lt_of_le (order.known target member) allocated
  · rw [idle]
    exact order.typed

theorem lends (order : before.InOrder type limit loans) {answer : Except Fault Target}
    (lends : before.Lends type limit answer after) :
    after.InOrder type limit (Sound.withLoan loans answer) := by
  obtain ⟨count, recounted⟩ := lends.recounted (loans.length + before.idle.length)
  refine (order.sound.lends recounted).inOrder ?_
  cases lends with
  | @reused target rest waiting =>
    have typed := order.typed
    rw [waiting] at typed
    exact fun other member => typed other (List.perm_middle.mem_iff.2 member)
  | exhausted | failed => exact order.typed
  | made => exact List.forall_mem_cons.2 ⟨rfl, order.typed⟩

/-- Books in order stay so when a target comes back just if the target is welcome. -/
theorem takenBack_iff (order : before.InOrder type limit loans) (target : Target) :
    ({ before with idle := target :: before.idle, active := before.active - 1 } :
      PoolRecord).InOrder type limit (loans.erase target) ↔
        before.Welcomes type limit loans target := by
  by_cases lent : target ∈ loans
  · refine iff_of_true ((order.sound.takenBack lent).inOrder fun other member => ?_) (.inl lent)
    have moved : (loans.erase target ++ target :: before.idle).Perm (loans ++ before.idle) :=
      List.perm_middle.trans ((List.perm_cons_erase lent).symm.append_right _)
    exact order.typed other (moved.mem_iff.1 member)
  · rw [List.erase_of_not_mem lent]
    obtain ⟨active, bounded, distinct, known, typed⟩ := order
    constructor
    · rintro ⟨activeThen, boundedThen, distinctThen, knownThen, typedThen⟩
      -- A stray lowers the count but not the loans, so the two can only agree at zero.
      simp only at activeThen boundedThen
      obtain rfl : loans = [] := List.eq_nil_of_length_eq_zero (by omega)
      obtain ⟨new, -⟩ := List.nodup_cons.1 distinctThen
      refine .inr ⟨rfl, ?_, typedThen target List.mem_cons_self, knownThen target List.mem_cons_self,
        fun idle member same => new (List.mem_map.2 ⟨idle, member, same⟩)⟩
      rw [List.length_cons] at boundedThen
      omega
    · rintro (onLoan | ⟨rfl, room, fits, existing, new⟩)
      · exact absurd onLoan lent
      · rw [List.length_nil] at active
        refine ⟨?_, ?_, List.nodup_cons.2 ⟨fun used => ?_, distinct⟩,
          List.forall_mem_cons.2 ⟨existing, known⟩, List.forall_mem_cons.2 ⟨fits, typed⟩⟩
        · simp only [active, List.length_nil]
        · simp only [active, List.length_cons]
          omega
        · obtain ⟨idle, member, same⟩ := List.mem_map.1 used
          exact new idle member same

end InOrder

end PoolRecord

/-! ### Runs -/

variable {σ : Type}

theorem pooled_built {id : SourceId} {cls : TargetClass} {type : ObjectType} {limit : Nat}
    {maker : Maker σ} {pool : Source σ} (built : Source.pooled id cls type limit maker = .ok pool) :
    type = cls.type ∧ pool = ⟨id, cls, .pooled type limit maker⟩ := by
  unfold Source.pooled at built
  cases checked : Source.checkType cls type with
  | error error =>
    rw [checked] at built
    contradiction
  | ok passed =>
    rw [checked] at built
    exact ⟨Source.checkType_ok checked, (Except.ok.inj built).symm⟩

variable [ValueTypes]

section
variable {setup : Setup σ} {pool : Source σ} {type : ObjectType} {limit : Nat} {maker : Maker σ}
  (kind : pool.kind = .pooled type limit maker) {loans : List Target} {state : State σ}
  (order : (state.poolRecord pool.id).InOrder type limit loans)
include kind order

theorem taken_new {target : Target} (taken : (pool.take state).1 = .ok target) :
    target.type = type ∧ ∀ other ∈ loans, other.id ≠ target.id := by
  have after := order.lends (take_lends kind state)
  rw [taken] at after
  obtain ⟨new, -⟩ := List.nodup_cons.1 after.distinct
  exact ⟨after.typed target List.mem_cons_self, fun other member same =>
    new (List.mem_map.2 ⟨other, List.mem_append_left _ member, same⟩)⟩

theorem perform_inOrder_iff (operation : Operation σ) (alone : pool.Alone operation) :
    ((setup.perform operation state).2.poolRecord pool.id).InOrder type limit
        (pool.account loans ⟨operation, (setup.perform operation state).1⟩) ↔
      ∀ target, operation = .giveBack pool target →
        (state.poolRecord pool.id).Welcomes type limit loans target := by
  have moves := perform_moves kind setup loans operation state fun _ => alone
  generalize (setup.perform operation state).2.poolRecord pool.id = after at moves
  generalize pool.account loans ⟨operation, (setup.perform operation state).1⟩ = next at moves
  cases moves with
  | spares spared elsewhere =>
    exact iff_of_true (order.spared spared) fun target same => absurd same (elsewhere target)
  | lends lends => exact iff_of_true (order.lends lends) nofun
  | takesBack target =>
    rw [order.takenBack_iff]
    constructor
    · rintro welcome _ ⟨⟩
      exact welcome
    · exact fun welcome => welcome target rfl

end

/-- Whatever is asked of a new pool, and whatever comes back to it: at every moment the books are in
order, and what the pool would hand out is of its class and not on loan, just if every target that
comes back is welcome at that moment. The pool itself does not look at what comes back. -/
theorem pool_in_order_iff_welcome {α : Type} (setup : Setup σ) (course : Course σ α) (id : SourceId)
    (cls : TargetClass) (type : ObjectType) (limit : Nat) (maker : Maker σ) (pool : Source σ)
    (built : Source.pooled id cls type limit maker = .ok pool) (start : State σ)
    (unused : start.stock.pool id = {})
    (sole : ∀ exchange ∈ course.transcript setup.perform start, pool.Alone exchange.1) :
    (∀ past now, Dialogue.Reaches setup.perform course start past now →
      (now.poolRecord id).InOrder cls.type limit (pool.loans past) ∧
        ∀ target, (pool.take now).1 = .ok target →
          target.type = cls.type ∧ ∀ lent ∈ pool.loans past, lent.id ≠ target.id) ↔
    ∀ past now target, Dialogue.Asks setup.perform course start past now (.giveBack pool target) →
      (now.poolRecord id).Welcomes cls.type limit (pool.loans past) target := by
  obtain ⟨rfl, rfl⟩ := pooled_built built
  let pool : Source σ := ⟨id, cls, .pooled cls.type limit maker⟩
  have kind : pool.kind = .pooled cls.type limit maker := rfl
  have fresh : (start.poolRecord id).InOrder cls.type limit [] := by
    constructor <;> simp [State.poolRecord, unused]
  have throughout := Dialogue.holds_throughout_iff pool.account pool.Alone
    (fun loans state => (state.poolRecord id).InOrder cls.type limit loans)
    (fun loans state operation => ∀ target, operation = .giveBack pool target →
      (state.poolRecord id).Welcomes cls.type limit loans target)
    (fun loans operation state alone order => perform_inOrder_iff kind order operation alone)
    course [] start fresh sole
  constructor
  · intro orderly past now target asks
    exact throughout.1 (fun past now moment => (orderly past now moment).1) _ _ _ asks target rfl
  · intro welcome past now moment
    have order := throughout.2 (fun past now operation asks target same =>
      welcome past now target (same ▸ asks)) past now moment
    exact ⟨order, fun target taken => taken_new kind order taken⟩

def Course.each : List (Operation σ) → Course σ Unit
  | [] => .done ()
  | operation :: rest => .ask operation fun _ => each rest

end Weave

namespace Weave.Echo

def borrowed : Target := ⟨0, type⟩

def stray : Target := ⟨7, ⟨"Stray"⟩⟩

/-- A target is lent, comes back, and is lent again. -/
theorem single_relent :
    let course := Course.each [.fetch single, .giveBack single borrowed, .fetch single]
    Source.pooled 0 cls type 1 (fun _ memory => (.ok (), memory)) = .ok single ∧
      ∀ past now, Dialogue.Reaches (setup single).perform course fresh past now →
        (now.poolRecord 0).active = (single.loans past).length := by
  intro course
  have sole : ∀ exchange ∈ course.transcript (setup single).perform fresh,
      single.Alone exchange.1 := by
    simp [course, Course.each, Dialogue.transcript, Source.Alone]
  have welcome : ∀ past now target,
      Dialogue.Asks (setup single).perform course fresh past now (.giveBack single target) →
        (now.poolRecord 0).Welcomes cls.type 1 (single.loans past) target := by
    intro past now target asks
    change Dialogue.Asks _ (.ask _ fun _ => .ask _ fun _ => .ask _ fun _ => .done ()) _ _ _ _ at asks
    cases asks with
    | later asks =>
      cases asks with
      | now => exact .inl List.mem_cons_self
      | later asks =>
        cases asks with
        | later asks => contradiction
  have orderly := (pool_in_order_iff_welcome (setup single) course 0 cls type 1 _ single rfl fresh rfl
    sole).2 welcome
  exact ⟨rfl, fun past now moment => (orderly past now moment).1.active⟩

/-- A stray object that comes back is counted in place of the target on loan, is handed out, and makes
room beyond the limit; a target that comes back twice is lent while it is on loan. -/
theorem strays_break_books :
    let ran operations := (Course.each operations).run (setup single).perform fresh
    let loans operations :=
      single.loans ((Course.each operations).transcript (setup single).perform fresh)
    let misled := [.fetch single, .giveBack single stray]
    let overfull := misled ++ [.giveBack single borrowed]
    let returned := [.fetch single, .giveBack single borrowed, .giveBack single borrowed, .fetch single]
    (loans misled = [borrowed] ∧ single.counts (ran misled).2.stock = .pooled 0 1 1) ∧
      ((single.take (ran misled).2).1 = .ok stray ∧ stray.type ≠ cls.type) ∧
      single.counts (ran overfull).2.stock = .pooled 0 2 1 ∧
      (loans returned = [borrowed] ∧ (single.take (ran returned).2).1 = .ok borrowed) :=
  ⟨⟨rfl, rfl⟩, ⟨rfl, by decide⟩, rfl, ⟨rfl, rfl⟩⟩

end Weave.Echo
