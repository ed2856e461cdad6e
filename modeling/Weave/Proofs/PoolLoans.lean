import Mathlib.Data.List.Nodup
import Weave.Proofs.CallNesting

/-! What a pool lends. At every moment of a run of calls, the pool's count of active targets is the
number of targets that calls under way have from it, no target is lent twice or lent while it is
idle, and the limit is kept; when all calls are over, every target ever made is idle again. -/

namespace Weave

/-! ### The pool's own books -/

/-- What there is to know about a pool: its idle targets, the number of active ones, how many
targets its maker has made, and which addresses are taken. -/
structure PoolRecord where
  idle : List Target
  active : Nat
  made : Nat
  allocated : Nat

/-- What a pool answers to a request for a target, and its record then. -/
inductive PoolRecord.Lends (type : ObjectType) (limit : Nat) (before : PoolRecord) :
    Except Fault Target → PoolRecord → Prop
  | reused {target : Target} {rest : List Target} (waiting : before.idle = target :: rest) :
      Lends type limit before (.ok target)
        { before with idle := rest, active := before.active + 1 }
  | exhausted (empty : before.idle = []) (full : limit ≤ before.active) :
      Lends type limit before (.error (.invocation (.poolExhausted limit))) before
  | made (empty : before.idle = []) (room : before.active < limit) :
      Lends type limit before (.ok ⟨before.allocated, type⟩)
        { before with
          active := before.active + 1
          made := before.made + 1
          allocated := before.allocated + 1 }
  | failed (fault : Fault) (empty : before.idle = []) (room : before.active < limit) :
      Lends type limit before (.error fault) { before with allocated := before.allocated + 1 }

/-- Between these records nothing was done to the pool itself. -/
structure PoolRecord.Spared (before after : PoolRecord) : Prop where
  idle : after.idle = before.idle
  active : after.active = before.active
  made : after.made = before.made
  allocated : before.allocated ≤ after.allocated

theorem PoolRecord.Spared.refl (record : PoolRecord) : record.Spared record :=
  ⟨rfl, rfl, rfl, Nat.le_refl _⟩

/-! ### Sound books -/

/-- The record of a pool with these loans. -/
structure PoolRecord.Sound (limit : Nat) (loans : List Target) (record : PoolRecord) : Prop where
  active : record.active = loans.length
  bounded : record.active + record.idle.length ≤ limit
  distinct : ((loans ++ record.idle).map (·.id)).Nodup
  known : ∀ target ∈ loans ++ record.idle, target.id < record.allocated
  kept : loans.length + record.idle.length = record.made

namespace PoolRecord.Sound

variable {limit : Nat} {loans : List Target} {before after : PoolRecord}

theorem spared (sound : before.Sound limit loans) (spared : before.Spared after) :
    after.Sound limit loans := by
  obtain ⟨idle, active, made, allocated⟩ := spared
  constructor
  · rw [active, sound.active]
  · rw [active, idle]
    exact sound.bounded
  · rw [idle]
    exact sound.distinct
  · rw [idle]
    exact fun target member => Nat.lt_of_lt_of_le (sound.known target member) allocated
  · rw [idle, made]
    exact sound.kept

def withLoan (loans : List Target) : Except Fault Target → List Target
  | .ok target => target :: loans
  | .error _ => loans

theorem lends (sound : before.Sound limit loans) {type : ObjectType}
    {answer : Except Fault Target} (lends : before.Lends type limit answer after) :
    after.Sound limit (withLoan loans answer) := by
  obtain ⟨active, bounded, distinct, known, kept⟩ := sound
  cases lends with
  | @reused target rest waiting =>
    rw [waiting] at bounded distinct known kept
    have moved : (loans ++ target :: rest).Perm (target :: loans ++ rest) := List.perm_middle
    simp only [List.length_cons] at bounded kept
    refine ⟨?_, ?_, (moved.map _).nodup_iff.1 distinct, fun other member =>
      known other (moved.mem_iff.2 member), ?_⟩
    · simp only [active, withLoan, List.length_cons]
    · change before.active + 1 + rest.length ≤ limit
      omega
    · simp only [withLoan, List.length_cons]
      omega
  | exhausted empty full => exact ⟨active, bounded, distinct, known, kept⟩
  | made empty room =>
    have unused : before.allocated ∉ (loans ++ before.idle).map (·.id) := by
      intro used
      obtain ⟨target, member, same⟩ := List.mem_map.1 used
      exact Nat.ne_of_lt (known target member) same
    refine ⟨?_, ?_, List.nodup_cons.2 ⟨unused, distinct⟩, ?_, ?_⟩
    · simp only [active, withLoan, List.length_cons]
    · change before.active + 1 + before.idle.length ≤ limit
      rw [empty, List.length_nil]
      omega
    · intro target member
      rcases List.mem_cons.1 member with rfl | earlier
      · exact Nat.lt_succ_self _
      · exact Nat.lt_succ_of_lt (known target earlier)
    · change loans.length + 1 + before.idle.length = before.made + 1
      omega
  | failed fault empty room =>
    exact ⟨active, bounded, distinct, fun target member => Nat.lt_succ_of_lt (known target member),
      kept⟩

theorem takenBack (sound : before.Sound limit loans) {target : Target} (lent : target ∈ loans) :
    ({ before with idle := target :: before.idle, active := before.active - 1 } :
      PoolRecord).Sound limit (loans.erase target) := by
  obtain ⟨active, bounded, distinct, known, kept⟩ := sound
  have moved : (loans.erase target ++ target :: before.idle).Perm (loans ++ before.idle) :=
    List.perm_middle.trans ((List.perm_cons_erase lent).symm.append_right _)
  have fewer := List.length_erase_of_mem lent
  have some := List.length_pos_of_mem lent
  refine ⟨?_, ?_, (moved.map _).nodup_iff.2 distinct, fun other member =>
    known other (moved.mem_iff.1 member), ?_⟩
  · rw [fewer, active]
  · simp only [List.length_cons]
    omega
  · rw [fewer, List.length_cons]
    change _ = before.made
    omega

theorem apart (sound : before.Sound limit loans) :
    loans.Nodup ∧ ∀ target ∈ loans, target ∉ before.idle := by
  obtain ⟨lent, -, disjoint⟩ := List.nodup_append.1 (List.Nodup.of_map _ sound.distinct)
  exact ⟨lent, fun target member idle => disjoint target member target idle rfl⟩

end PoolRecord.Sound

/-! ### The pool in the state -/

variable [ValueTypes] {σ : Type}

def State.poolRecord (state : State σ) (id : SourceId) : PoolRecord :=
  ⟨(state.stock.pool id).idle, (state.stock.pool id).active, state.stock.createdBy id,
    state.allocated⟩

/-- Creating a target for a pool makes one at a fresh address or leaves its record as it was, but
for the address. -/
theorem createPooled_lends (pool : Source σ) (type : ObjectType) {limit : Nat} (maker : Maker σ)
    (state : State σ) (empty : (state.poolRecord pool.id).idle = [])
    (room : (state.poolRecord pool.id).active < limit) :
    (state.poolRecord pool.id).Lends type limit
      (pool.createPooled type maker (state.stock.pool pool.id) state).1
      ((pool.createPooled type maker (state.stock.pool pool.id) state).2.poolRecord pool.id) := by
  cases made : maker state.allocated state.memory with
  | mk outcome memory =>
    cases outcome with
    | ok =>
      have lends : (state.poolRecord pool.id).Lends type limit _ _ := .made empty room
      simpa [Source.createPooled, State.make, State.allocate, State.withMemory, State.restock,
        State.emit, made, State.poolRecord, Except.map] using lends
    | error fault =>
      have lends : (state.poolRecord pool.id).Lends type limit _ _ := .failed fault empty room
      simpa [Source.createPooled, State.make, State.allocate, State.withMemory, State.restock,
        State.emit, made, State.poolRecord, Except.map] using lends

section
variable {pool : Source σ} {type : ObjectType} {limit : Nat} {maker : Maker σ}
  (kind : pool.kind = .pooled type limit maker)
include kind

theorem take_lends (state : State σ) :
    (state.poolRecord pool.id).Lends type limit (pool.take state).1
      ((pool.take state).2.poolRecord pool.id) := by
  simp only [Source.take, kind]
  cases waiting : (state.stock.pool pool.id).idle with
  | cons target rest =>
    have lends : (state.poolRecord pool.id).Lends type limit (.ok target) _ := .reused waiting
    simpa [State.poolRecord, State.restock] using lends
  | nil =>
    by_cases full : limit ≤ (state.stock.pool pool.id).active
    · simp only [full, if_true]
      exact .exhausted waiting full
    · simp only [full, if_false]
      exact createPooled_lends pool type maker state waiting (Nat.lt_of_not_le full)

theorem putBack_pooled (target : Target) (state : State σ) :
    (pool.putBack target state).2.poolRecord pool.id =
      { state.poolRecord pool.id with
        idle := target :: (state.poolRecord pool.id).idle
        active := (state.poolRecord pool.id).active - 1 } := by
  simp [Source.putBack, kind, State.poolRecord, State.restock]

end

section
variable {id : SourceId}

theorem createPooled_spares {source : Source σ} (other : id ≠ source.id) (type : ObjectType)
    (maker : Maker σ) (pool : Pool) (state : State σ) :
    (state.poolRecord id).Spared ((source.createPooled type maker pool state).2.poolRecord id) := by
  cases made : maker state.allocated state.memory with
  | mk outcome memory =>
    cases outcome <;>
      constructor <;>
        simp [Source.createPooled, State.make, State.allocate, State.withMemory, State.restock,
          State.emit, made, State.poolRecord, Except.map, other]

theorem take_spares {source : Source σ} (other : id ≠ source.id) (state : State σ) :
    (state.poolRecord id).Spared ((source.take state).2.poolRecord id) := by
  obtain ⟨own, cls, kind⟩ := source
  cases kind with
  | singleton | swappable | custom => exact .refl _
  | prototype type maker =>
    cases made : maker state.allocated state.memory with
    | mk outcome memory =>
      cases outcome <;>
        constructor <;>
          simp [Source.take, State.make, State.allocate, State.withMemory, State.restock,
            State.emit, made, State.poolRecord, Except.map, other]
  | pooled type limit maker =>
    simp only [Source.take]
    cases (state.stock.pool own).idle with
    | cons target rest =>
      constructor <;> simp [State.poolRecord, State.restock, other]
    | nil =>
      by_cases full : limit ≤ (state.stock.pool own).active
      · simp only [full, if_true]
        exact .refl _
      · simp only [full, if_false]
        exact createPooled_spares other type maker _ state

theorem putBack_spares {source : Source σ} (other : id ≠ source.id) (target : Target)
    (state : State σ) :
    (state.poolRecord id).Spared ((source.putBack target state).2.poolRecord id) := by
  obtain ⟨own, cls, kind⟩ := source
  cases kind with
  | pooled type limit maker =>
    constructor <;> simp [Source.putBack, State.poolRecord, State.restock, other]
  | singleton | prototype | swappable | custom => exact .refl _

theorem perform_spares (setup : Setup σ) (operation : Operation σ)
    (unmoved : operation.movesTarget = false) (state : State σ) :
    (state.poolRecord id).Spared ((setup.perform operation state).2.poolRecord id) := by
  cases operation with
  | fetch | giveBack => contradiction
  | findChain snapshot method =>
    simp only [Setup.perform, Setup.chainFor]
    split <;> exact .refl _
  | advise => exact .refl _
  | dispatch cls target method args =>
    simp only [Setup.perform, TargetClass.dispatch]
    split
    · exact .refl _
    · split <;> exact .refl _
  | query query =>
    cases query with
    | update | view | counts | readClock | emit => exact .refl _
    | allocate => exact ⟨rfl, rfl, rfl, Nat.le_succ _⟩
    | swap source target =>
      simp only [Setup.perform, Setup.answer, Source.swap]
      split
      · split <;> exact .refl _
      · exact .refl _

end

/-! ### Loans -/

/-- The targets on loan from a pool after one more exchange, the last one lent first. -/
def Source.account (pool : Source σ) (loans : List Target) : Exchange σ → List Target
  | ⟨.fetch source, .ok target⟩ => if source.id = pool.id then target :: loans else loans
  | ⟨.giveBack source target, _⟩ => if source.id = pool.id then loans.erase target else loans
  | _ => loans

def Source.loans (pool : Source σ) (past : List (Exchange σ)) : List Target :=
  past.foldl pool.account []

/-- The pool is not mistaken for another source, and takes back only what it has lent. -/
def Source.Permits (pool : Source σ) (loans : List Target) : Exchange σ → Prop
  | ⟨.fetch source, _⟩ => source.id = pool.id → source = pool
  | ⟨.giveBack source target, _⟩ => source.id = pool.id → source = pool ∧ target ∈ loans
  | _ => True

section
variable {pool : Source σ} {exchange : Exchange σ}

theorem account_unmoved (unmoved : exchange.1.movesTarget = false) (loans : List Target) :
    pool.account loans exchange = loans := by
  obtain ⟨operation, answer⟩ := exchange
  cases operation with
  | fetch | giveBack => contradiction
  | findChain | advise | dispatch | query => rfl

theorem permits_unmoved (unmoved : exchange.1.movesTarget = false) (loans : List Target) :
    pool.Permits loans exchange := by
  obtain ⟨operation, answer⟩ := exchange
  cases operation with
  | fetch | giveBack => contradiction
  | findChain | advise | dispatch | query => trivial

end

def Source.Alone (source : Source σ) : Operation σ → Prop
  | .fetch other | .giveBack other _ | .query (.swap other _) => other.id = source.id → other = source
  | _ => True

theorem Setup.Nested.alone {setup : Setup σ} {pool : Source σ}
    (sole : ∀ source, setup.Proxied source → source.id = pool.id → source = pool)
    {exchanges : List (Exchange σ)} (nested : setup.Nested exchanges) :
    ∀ exchange ∈ exchanges, exchange.1.movesTarget = true → pool.Alone exchange.1 := by
  induction nested with
  | nil => exact List.forall_mem_nil _
  | plain unmoved onwards ih =>
    refine List.forall_mem_cons.2 ⟨fun moved => ?_, ih⟩
    rw [unmoved] at moved
    contradiction
  | refused proxied onwards ih | lent proxied static onwards ih =>
    refine List.forall_mem_cons.2 ⟨fun _ => ?_, ih⟩
    exact sole _ proxied
  | returned proxied moving inside onwards ihInside ih =>
    rw [List.cons_append]
    refine List.forall_mem_cons.2 ⟨fun _ => ?_, List.forall_mem_append.2 ⟨ihInside,
      List.forall_mem_cons.2 ⟨fun _ => ?_, ih⟩⟩⟩
    · exact sole _ proxied
    · exact sole _ proxied

/-- Nested calls leave the loans as they found them, and give back what they have. -/
theorem Setup.Nested.conforms_alone {setup : Setup σ} {pool : Source σ}
    (moving : pool.isStatic = false) {exchanges : List (Exchange σ)}
    (nested : setup.Nested exchanges)
    (alone : ∀ exchange ∈ exchanges, exchange.1.movesTarget = true → pool.Alone exchange.1)
    (loans : List Target) :
    Dialogue.Conforms pool.Permits pool.account loans exchanges ∧
      exchanges.foldl pool.account loans = loans := by
  induction nested generalizing loans with
  | nil => exact ⟨trivial, rfl⟩
  | plain unmoved onwards ih =>
    have rest := ih (List.forall_mem_cons.1 alone).2 loans
    rw [Dialogue.Conforms, List.foldl_cons, account_unmoved unmoved]
    exact ⟨⟨permits_unmoved unmoved loans, rest.1⟩, rest.2⟩
  | refused proxied onwards ih =>
    obtain ⟨sole, others⟩ := List.forall_mem_cons.1 alone
    have rest := ih others loans
    exact ⟨⟨sole rfl, rest.1⟩, rest.2⟩
  | @lent source target rest proxied static onwards ih =>
    obtain ⟨sole, others⟩ := List.forall_mem_cons.1 alone
    have other : source.id ≠ pool.id := by
      intro same
      rw [sole rfl same, moving] at static
      contradiction
    have unlent : pool.account loans ⟨.fetch source, .ok target⟩ = loans := if_neg other
    rw [Dialogue.Conforms, List.foldl_cons, unlent]
    exact ⟨⟨sole rfl, (ih others loans).1⟩, (ih others loans).2⟩
  | @returned source target answer during rest proxied _ inside onwards ihInside ih =>
    obtain ⟨sole, others⟩ := List.forall_mem_cons.1 alone
    obtain ⟨within, further⟩ := List.forall_mem_append.1 others
    have inside := ihInside within
    have behind := ih (List.forall_mem_cons.1 further).2 loans
    -- What happens inside leaves the loans as they were when the target had just been fetched.
    rw [List.cons_append, Dialogue.Conforms, List.foldl_cons, Dialogue.conforms_append,
      List.foldl_append, (inside _).2, Dialogue.Conforms, List.foldl_cons]
    by_cases same : source.id = pool.id
    · have lent : pool.account loans ⟨.fetch source, .ok target⟩ = target :: loans := if_pos same
      have back : pool.account (target :: loans) ⟨.giveBack source target, answer⟩ = loans := by
        simp [Source.account, same]
      rw [lent, back]
      exact ⟨⟨sole rfl, (inside _).1, fun same => ⟨sole rfl same, List.mem_cons_self⟩, behind.1⟩,
        behind.2⟩
    · have unlent : pool.account loans ⟨.fetch source, .ok target⟩ = loans := if_neg same
      have unmoved : pool.account loans ⟨.giveBack source target, answer⟩ = loans := if_neg same
      rw [unlent, unmoved]
      exact ⟨⟨sole rfl, (inside _).1, fun again => absurd again same, behind.1⟩, behind.2⟩

theorem Setup.Nested.conforms {setup : Setup σ} {pool : Source σ}
    (sole : ∀ source, setup.Proxied source → source.id = pool.id → source = pool)
    (moving : pool.isStatic = false) {exchanges : List (Exchange σ)}
    (nested : setup.Nested exchanges) (loans : List Target) :
    Dialogue.Conforms pool.Permits pool.account loans exchanges ∧
      exchanges.foldl pool.account loans = loans :=
  nested.conforms_alone moving (nested.alone sole) loans

/-! ### Runs -/

/-- What an operation makes of the loans and of the record of a pool: it lends a target, takes one
back, or spares the pool. -/
inductive Source.Moves (pool : Source σ) (type : ObjectType) (limit : Nat) (loans : List Target)
    (before : PoolRecord) : Operation σ → List Target → PoolRecord → Prop
  | spares {operation : Operation σ} {after : PoolRecord} (spared : before.Spared after)
      (elsewhere : ∀ target, operation ≠ .giveBack pool target) :
      Moves pool type limit loans before operation loans after
  | lends {answer : Except Fault Target} {after : PoolRecord}
      (lends : before.Lends type limit answer after) :
      Moves pool type limit loans before (.fetch pool) (PoolRecord.Sound.withLoan loans answer) after
  | takesBack (target : Target) :
      Moves pool type limit loans before (.giveBack pool target) (loans.erase target)
        { before with idle := target :: before.idle, active := before.active - 1 }

section
variable {setup : Setup σ} {pool : Source σ} {type : ObjectType} {limit : Nat} {maker : Maker σ}
  (kind : pool.kind = .pooled type limit maker)
include kind

/-- No operation does anything else. -/
theorem perform_moves (setup : Setup σ) (loans : List Target) (operation : Operation σ) (state : State σ)
    (alone : operation.movesTarget = true → pool.Alone operation) :
    pool.Moves type limit loans (state.poolRecord pool.id) operation
      (pool.account loans ⟨operation, (setup.perform operation state).1⟩)
      ((setup.perform operation state).2.poolRecord pool.id) := by
  cases operation with
  | findChain | advise | dispatch | query =>
    rw [account_unmoved rfl]
    exact .spares (perform_spares setup _ rfl state) nofun
  | fetch source =>
    change pool.Moves type limit loans _ (.fetch source)
      (pool.account loans ⟨.fetch source, (source.take state).1⟩)
      ((source.take state).2.poolRecord pool.id)
    by_cases same : source.id = pool.id
    · obtain rfl := alone rfl same
      have lent (answer : Except Fault Target) : source.account loans ⟨.fetch source, answer⟩ =
          PoolRecord.Sound.withLoan loans answer := by
        cases answer with
        | ok target => exact if_pos rfl
        | error fault => rfl
      rw [lent]
      exact .lends (take_lends kind state)
    · have unlent (answer : Except Fault Target) :
          pool.account loans ⟨.fetch source, answer⟩ = loans := by
        cases answer with
        | ok target => exact if_neg same
        | error fault => rfl
      rw [unlent]
      exact .spares (take_spares (Ne.symm same) state) nofun
  | giveBack source target =>
    change pool.Moves type limit loans _ (.giveBack source target)
      (if source.id = pool.id then loans.erase target else loans)
      ((source.putBack target state).2.poolRecord pool.id)
    by_cases same : source.id = pool.id
    · obtain rfl := alone rfl same
      rw [putBack_pooled kind, if_pos rfl]
      exact .takesBack target
    · rw [if_neg same]
      refine .spares (putBack_spares (Ne.symm same) target state) ?_
      rintro _ ⟨⟩
      exact same rfl

theorem perform_sound (loans : List Target) (operation : Operation σ) (state : State σ)
    (permitted : pool.Permits loans ⟨operation, (setup.perform operation state).1⟩)
    (sound : (state.poolRecord pool.id).Sound limit loans) :
    ((setup.perform operation state).2.poolRecord pool.id).Sound limit
      (pool.account loans ⟨operation, (setup.perform operation state).1⟩) := by
  have alone (moved : operation.movesTarget = true) : pool.Alone operation := by
    cases operation with
    | fetch => exact permitted
    | giveBack => exact fun same => (permitted same).1
    | findChain | advise | dispatch | query => contradiction
  have moves := perform_moves kind setup loans operation state alone
  generalize (setup.perform operation state).2.poolRecord pool.id = after at moves
  generalize pool.account loans ⟨operation, (setup.perform operation state).1⟩ = next at moves
  cases moves with
  | spares spared => exact sound.spared spared
  | lends lends => exact sound.lends lends
  | takesBack target => exact sound.takenBack (permitted rfl).2

/-- A sound pool refuses exactly when its limit is on loan. Its maker may fail with the same error,
but not without having taken an address. -/
theorem take_exhausted_iff {loans : List Target} {state : State σ}
    (sound : (state.poolRecord pool.id).Sound limit loans) :
    pool.take state = (.error (.invocation (.poolExhausted limit)), state) ↔
      (state.stock.pool pool.id).active = limit := by
  obtain ⟨active, bounded, distinct, known, kept⟩ := sound
  have lends := take_lends kind state
  constructor
  · intro refused
    generalize answered : (pool.take state).1 = answer at lends
    generalize booked : (pool.take state).2.poolRecord pool.id = after at lends
    rw [refused] at answered booked
    cases lends with
    | reused | made => contradiction
    | exhausted empty full => exact Nat.le_antisymm (Nat.le_trans (Nat.le_add_right _ _) bounded) full
    | failed => exact absurd (congrArg PoolRecord.allocated booked) (Nat.succ_ne_self _).symm
  · intro full
    have empty : (state.stock.pool pool.id).idle = [] := by
      change (state.stock.pool pool.id).active + (state.stock.pool pool.id).idle.length ≤ limit at bounded
      exact List.eq_nil_of_length_eq_zero (by omega)
    simp only [Source.take, kind, empty, full, Nat.le_refl, if_true]

end

/-- Whatever calls a client makes on whatever proxies, and however advice fails, retries or calls
again: at every moment as many targets are active as calls under way have from the pool, the limit is
kept, the targets on loan are distinct and none is idle, and the pool refuses exactly when its limit
is on loan. When the client is done, nothing is on loan and every target made is idle. That `pool` is
the `sole` source of its identity means that the proxies that share its books share the pool. -/
theorem pool_accounts_for_loans {α : Type} (setup : Setup σ) (depth : Nat) (client : Action σ α)
    (pool : Source σ) (type : ObjectType) (limit : Nat) (maker : Maker σ)
    (kind : pool.kind = .pooled type limit maker)
    (sole : ∀ source, setup.Proxied source → source.id = pool.id → source = pool)
    (start : State σ) (untouched : start.stock.pool pool.id = {})
    (unmade : start.stock.createdBy pool.id = 0) :
    let course := client.course (setup.call depth)
    (∀ past now, Dialogue.Reaches setup.perform course start past now →
      let books := now.stock.pool pool.id
      let loans := pool.loans past
      books.active = loans.length ∧ books.active + books.idle.length ≤ limit ∧ loans.Nodup ∧
        (∀ target ∈ loans, target ∉ books.idle) ∧
        (pool.take now = (.error (.invocation (.poolExhausted limit)), now) ↔
          books.active = limit)) ∧
      let atEnd := (course.run setup.perform start).2.stock
      (atEnd.pool pool.id).active = 0 ∧
        (atEnd.pool pool.id).idle.length = atEnd.createdBy pool.id := by
  intro course
  have moving : pool.isStatic = false := by simp only [Source.isStatic, kind]
  have fresh : (start.poolRecord pool.id).Sound limit [] := by
    constructor <;> simp [State.poolRecord, untouched, unmade]
  have nested : setup.Nested (course.transcript setup.perform start) :=
    (amid_action setup (call_nested setup depth) client start).nested fun _ nested => nested
  obtain ⟨conforms, returned⟩ := nested.conforms sole moving []
  have sound (past : List (Exchange σ)) (now : State σ)
      (moment : Dialogue.Reaches setup.perform course start past now) :
      (now.poolRecord pool.id).Sound limit (pool.loans past) :=
    moment.invariant pool.Permits pool.account
      (fun loans state => (state.poolRecord pool.id).Sound limit loans)
      (fun loans operation state permitted sound =>
        perform_sound kind loans operation state permitted sound) [] conforms fresh
  refine ⟨fun past now moment => ?_, ?_⟩
  · have books := sound past now moment
    exact ⟨books.active, books.bounded, books.apart.1, books.apart.2, take_exhausted_iff kind books⟩
  · have books := sound _ _ (Dialogue.reaches_end setup.perform course start)
    rw [Source.loans, returned] at books
    have kept := books.kept
    rw [List.length_nil, Nat.zero_add] at kept
    exact ⟨books.active, kept⟩

end Weave

namespace Weave.Echo

def single : Source Nat := ⟨0, cls, .pooled type 1 fun _ memory => (.ok (), memory)⟩

def twice : Action Nat Outcome := do
  let _ ← Action.call proxy method {}
  Action.call proxy method {}

theorem single_accounted :
    let course := twice.course ((setup single).call 2)
    let atEnd := (course.run (setup single).perform fresh).2.stock.pool single.id
    (∀ past now, Dialogue.Reaches (setup single).perform course fresh past now →
      (now.stock.pool single.id).active = (single.loans past).length) ∧
      atEnd.active = 0 ∧ atEnd.idle = [⟨0, type⟩] := by
  intro course atEnd
  have sole : ∀ source, (setup single).Proxied source → source.id = single.id → source = single := by
    rintro source ⟨id, rfl⟩ _
    rfl
  obtain ⟨always, returned, -⟩ := pool_accounts_for_loans (setup single) 2 twice single type 1 _ rfl
    sole fresh rfl rfl
  exact ⟨fun past now moment => (always past now moment).1, returned, rfl⟩

end Weave.Echo
