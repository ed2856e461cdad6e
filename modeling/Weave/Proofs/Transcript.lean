import Weave.Dialogue

/-! Transcripts of runs. A run of a dialogue is the sequence of its exchanges, and it goes through
one world after another. What each permitted exchange keeps holds at every moment of a run whose
transcript conforms to the rules, and a dialogue that only asks more than another runs as that one
does. -/

namespace Weave.Dialogue

variable {Question : Type} {Answer : Question → Type} {α β ω : Type}

abbrev Exchange (Question : Type) (Answer : Question → Type) : Type :=
  (question : Question) × Answer question

section
variable (reply : (question : Question) → ω → Answer question × ω)

def transcript : Dialogue Question Answer α → ω → List (Exchange Question Answer)
  | done _, _ => []
  | ask question next, world =>
    let answered := reply question world
    ⟨question, answered.1⟩ :: transcript (next answered.1) answered.2

/-- A moment of a run: what has been exchanged by then, and the world at that point. -/
inductive Reaches : Dialogue Question Answer α → ω → List (Exchange Question Answer) → ω → Prop
  | now (dialogue : Dialogue Question Answer α) (world : ω) : Reaches dialogue world [] world
  | later {question : Question} {next : Answer question → Dialogue Question Answer α} {world : ω}
      {past : List (Exchange Question Answer)} {reached : ω}
      (rest : Reaches (next (reply question world).1) (reply question world).2 past reached) :
      Reaches (ask question next) world (⟨question, (reply question world).1⟩ :: past) reached

@[simp] theorem transcript_pure (result : α) (world : ω) :
    transcript reply (pure result : Dialogue Question Answer α) world = [] := rfl

theorem transcript_bind (dialogue : Dialogue Question Answer α)
    (next : α → Dialogue Question Answer β) (world : ω) :
    transcript reply (dialogue >>= next) world =
      transcript reply dialogue world ++
        transcript reply (next (run reply dialogue world).1) (run reply dialogue world).2 := by
  induction dialogue generalizing world with
  | done result => rfl
  | ask question rest ih =>
    simp only [ask_bind, transcript, run, List.cons_append]
    rw [ih]

theorem transcript_bind_pure (dialogue : Dialogue Question Answer α) (next : α → β) (world : ω) :
    transcript reply (dialogue >>= fun result => pure (next result)) world =
      transcript reply dialogue world := by
  rw [transcript_bind, transcript_pure, List.append_nil]

theorem reaches_end (dialogue : Dialogue Question Answer α) (world : ω) :
    Reaches reply dialogue world (transcript reply dialogue world) (run reply dialogue world).2 := by
  induction dialogue generalizing world with
  | done result => exact .now _ world
  | ask question next ih => exact .later (ih _ _)

theorem Reaches.bind {reply : (question : Question) → ω → Answer question × ω}
    {dialogue : Dialogue Question Answer α} {world reached : ω}
    {past : List (Exchange Question Answer)} (moment : Reaches reply dialogue world past reached)
    (next : α → Dialogue Question Answer β) :
    Reaches reply (dialogue >>= next) world past reached := by
  induction moment with
  | now dialogue world => exact .now _ world
  | later rest ih => exact .later ih

theorem Reaches.behind {next : α → Dialogue Question Answer β}
    {past : List (Exchange Question Answer)} {reached : ω} (dialogue : Dialogue Question Answer α)
    (world : ω)
    (moment : Reaches reply (next (run reply dialogue world).1) (run reply dialogue world).2 past
      reached) :
    Reaches reply (dialogue >>= next) world (transcript reply dialogue world ++ past) reached := by
  induction dialogue generalizing world with
  | done result => exact moment
  | ask question rest ih => exact .later (ih _ _ moment)

/-- Lists of exchanges closed under concatenation contain the transcript of a translated dialogue
if they contain those of all its parts. -/
theorem transcript_translate {Own : Type} {Reply : Own → Type} {τ : Type}
    (part : (question : Own) → τ → Dialogue Question Answer (Reply question × τ))
    (closed : List (Exchange Question Answer) → Prop) (empty : closed [])
    (append : ∀ first second, closed first → closed second → closed (first ++ second))
    (parts : ∀ question inner world, closed (transcript reply (part question inner) world))
    (dialogue : Dialogue Own Reply α) (inner : τ) (world : ω) :
    closed (transcript reply (translate part dialogue inner) world) := by
  induction dialogue generalizing inner world with
  | done result => exact empty
  | ask question next ih =>
    change closed (transcript reply (part question inner >>= fun answered =>
      translate part (next answered.1) answered.2) world)
    rw [transcript_bind]
    exact append _ _ (parts question inner world) (ih _ _ _)

end

/-! ### Rules for exchanges -/

section
variable {γ : Type} (permitted : γ → Exchange Question Answer → Prop)
  (account : γ → Exchange Question Answer → γ)

/-- Every exchange is permitted by the account of those before it. -/
def Conforms : γ → List (Exchange Question Answer) → Prop
  | _, [] => True
  | ledger, exchange :: rest => permitted ledger exchange ∧ Conforms (account ledger exchange) rest

theorem conforms_append (ledger : γ) (first second : List (Exchange Question Answer)) :
    Conforms permitted account ledger (first ++ second) ↔
      Conforms permitted account ledger first ∧
        Conforms permitted account (first.foldl account ledger) second := by
  induction first generalizing ledger with
  | nil => simp [Conforms]
  | cons exchange rest ih => simp only [List.cons_append, Conforms, List.foldl_cons, ih, and_assoc]

theorem conforms_and (each : Exchange Question Answer → Prop) (ledger : γ)
    {exchanges : List (Exchange Question Answer)}
    (conforms : Conforms permitted account ledger exchanges)
    (all : ∀ exchange ∈ exchanges, each exchange) :
    Conforms (fun ledger exchange => permitted ledger exchange ∧ each exchange) account ledger
      exchanges := by
  induction exchanges generalizing ledger with
  | nil => trivial
  | cons exchange rest ih =>
    obtain ⟨first, others⟩ := List.forall_mem_cons.1 all
    exact ⟨⟨conforms.1, first⟩, ih _ conforms.2 others⟩

theorem Reaches.invariant {reply : (question : Question) → ω → Answer question × ω}
    (holds : γ → ω → Prop)
    (kept : ∀ ledger question world, permitted ledger ⟨question, (reply question world).1⟩ →
      holds ledger world →
        holds (account ledger ⟨question, (reply question world).1⟩) (reply question world).2)
    {dialogue : Dialogue Question Answer α} {world reached : ω}
    {past : List (Exchange Question Answer)} (moment : Reaches reply dialogue world past reached)
    (ledger : γ) (conforms : Conforms permitted account ledger (transcript reply dialogue world))
    (start : holds ledger world) : holds (past.foldl account ledger) reached := by
  induction moment generalizing ledger with
  | now dialogue world => exact start
  | later rest ih =>
    obtain ⟨allowed, conforming⟩ := conforms
    exact ih _ conforming (kept _ _ _ allowed start)

theorem conforms_of_kept {reply : (question : Question) → ω → Answer question × ω}
    (each : Question → Prop) (holds : γ → ω → Prop)
    (kept : ∀ ledger question world, each question → holds ledger world →
      permitted ledger ⟨question, (reply question world).1⟩ ∧
        holds (account ledger ⟨question, (reply question world).1⟩) (reply question world).2)
    (dialogue : Dialogue Question Answer α) (ledger : γ) (world : ω) (start : holds ledger world)
    (all : ∀ exchange ∈ transcript reply dialogue world, each exchange.1) :
    Conforms permitted account ledger (transcript reply dialogue world) := by
  induction dialogue generalizing ledger world with
  | done result => trivial
  | ask question next ih =>
    obtain ⟨first, others⟩ := List.forall_mem_cons.1 all
    obtain ⟨allowed, still⟩ := kept ledger question world first start
    exact ⟨allowed, ih _ _ _ still others⟩

end

/-! ### Extra questions -/

section
variable (extra : Question → Bool)

/-- The left dialogue is the right one with extra questions put in between, whose answers it passes
over; the results agree. -/
inductive Padded (agree : α → β → Prop) :
    Dialogue Question Answer α → Dialogue Question Answer β → Prop
  | done {left : α} {right : β} (agreed : agree left right) : Padded agree (done left) (done right)
  | ask (question : Question) {left : Answer question → Dialogue Question Answer α}
      {right : Answer question → Dialogue Question Answer β}
      (rest : ∀ answer, Padded agree (left answer) (right answer)) :
      Padded agree (ask question left) (ask question right)
  | pad (question : Question) (padding : extra question = true)
      {left : Answer question → Dialogue Question Answer α} {right : Dialogue Question Answer β}
      (rest : ∀ answer, Padded agree (left answer) right) : Padded agree (ask question left) right

variable {extra} {agree : α → β → Prop}

theorem Padded.refl (dialogue : Dialogue Question Answer α) :
    Padded extra Eq dialogue dialogue := by
  induction dialogue with
  | done result => exact .done rfl
  | ask question next ih => exact .ask question ih

theorem Padded.bind {γ δ : Type} {left : Dialogue Question Answer α}
    {right : Dialogue Question Answer β} {onLeft : α → Dialogue Question Answer γ}
    {onRight : β → Dialogue Question Answer δ} {atEnd : γ → δ → Prop}
    (first : Padded extra agree left right)
    (second : ∀ x y, agree x y → Padded extra atEnd (onLeft x) (onRight y)) :
    Padded extra atEnd (left >>= onLeft) (right >>= onRight) := by
  induction first with
  | done agreed => exact second _ _ agreed
  | ask question rest ih => exact .ask question ih
  | pad question padding rest ih => exact .pad question padding ih

theorem Padded.translate {Own : Type} {Reply : Own → Type} {σ τ : Type} (linked : σ → τ → Prop)
    {onLeft : (question : Own) → σ → Dialogue Question Answer (Reply question × σ)}
    {onRight : (question : Own) → τ → Dialogue Question Answer (Reply question × τ)}
    (parts : ∀ question inner outer, linked inner outer →
      Padded extra (fun left right => left.1 = right.1 ∧ linked left.2 right.2)
        (onLeft question inner) (onRight question outer))
    (dialogue : Dialogue Own Reply α) (inner : σ) (outer : τ) (start : linked inner outer) :
    Padded extra (fun left right => left.1 = right.1 ∧ linked left.2 right.2)
      (translate onLeft dialogue inner) (translate onRight dialogue outer) := by
  induction dialogue generalizing inner outer with
  | done result => exact .done ⟨rfl, start⟩
  | ask question next ih =>
    refine (parts question inner outer start).bind ?_
    rintro ⟨answer, inner⟩ ⟨_, outer⟩ ⟨rfl, still⟩
    exact ih answer inner outer still

/-- Worlds that no question tells apart, and that extra questions do not lead apart, stay so along
padded dialogues, and the same is exchanged but for extra questions. -/
theorem Padded.run (reply : (question : Question) → ω → Answer question × ω)
    {alike : ω → ω → Prop}
    (answered : ∀ question first second, alike first second →
      (reply question first).1 = (reply question second).1 ∧
        alike (reply question first).2 (reply question second).2)
    (passed : ∀ question first second, extra question = true → alike first second →
      alike (reply question first).2 second)
    {left : Dialogue Question Answer α} {right : Dialogue Question Answer β}
    (padded : Padded extra agree left right) (first second : ω) (start : alike first second) :
    agree (Dialogue.run reply left first).1 (Dialogue.run reply right second).1 ∧
      alike (Dialogue.run reply left first).2 (Dialogue.run reply right second).2 ∧
      (transcript reply left first).filter (fun exchange => !extra exchange.1) =
        (transcript reply right second).filter (fun exchange => !extra exchange.1) := by
  induction padded generalizing first second with
  | done agreed => exact ⟨agreed, start, rfl⟩
  | ask question rest ih =>
    obtain ⟨same, still⟩ := answered question first second start
    obtain ⟨results, worlds, exchanges⟩ := ih (reply question first).1 _ _ still
    simp only [Dialogue.run, transcript, ← same]
    exact ⟨results, worlds, by rw [List.filter_cons, List.filter_cons, exchanges]⟩
  | pad question padding rest ih =>
    obtain ⟨results, worlds, exchanges⟩ :=
      ih _ _ second (passed _ first second padding start)
    refine ⟨results, worlds, ?_⟩
    rw [transcript, List.filter_cons_of_neg (by simp [padding])]
    exact exchanges

end

end Weave.Dialogue
