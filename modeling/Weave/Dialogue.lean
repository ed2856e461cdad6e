/-! Programs that ask questions. A dialogue either ends with a result or asks a question and goes on
with the answer; what a question does to the world is left to whoever runs it. Advice is written
as a dialogue, so that every effect it has passes through the engine, and a dialogue is a
well-founded tree, so that running one ends whatever the answers are. -/

namespace Weave

inductive Dialogue (Question : Type) (Answer : Question → Type) (α : Type) where
  | done (result : α)
  | ask (question : Question) (next : Answer question → Dialogue Question Answer α)

namespace Dialogue

variable {Question : Type} {Answer : Question → Type} {α β ω : Type}

def bind : Dialogue Question Answer α → (α → Dialogue Question Answer β) →
    Dialogue Question Answer β
  | done result, next => next result
  | ask question rest, next => ask question fun answer => (rest answer).bind next

instance : Monad (Dialogue Question Answer) where
  pure := done
  bind := bind

@[simp] theorem done_bind (result : α) (next : α → Dialogue Question Answer β) :
    done result >>= next = next result := rfl

@[simp] theorem ask_bind (question : Question) (rest : Answer question → Dialogue Question Answer α)
    (next : α → Dialogue Question Answer β) :
    ask question rest >>= next = ask question fun answer => rest answer >>= next := rfl

instance : LawfulMonad (Dialogue Question Answer) := LawfulMonad.mk' _
  (by
    intro α dialogue
    change dialogue >>= done = dialogue
    induction dialogue with
    | done result => rfl
    | ask question rest ih => simp only [ask_bind, ih])
  (by intros; rfl)
  (by
    intro α β γ dialogue first second
    induction dialogue with
    | done result => rfl
    | ask question rest ih => simp only [ask_bind, ih])

def question (question : Question) : Dialogue Question Answer (Answer question) := ask question done

/-- Puts every question as a whole dialogue of its own; a world is carried along. -/
def translate {Other : Type} {Reply : Other → Type}
    (reply : (question : Question) → ω → Dialogue Other Reply (Answer question × ω)) :
    Dialogue Question Answer α → ω → Dialogue Other Reply (α × ω)
  | done result, world => done (result, world)
  | ask question next, world =>
    (reply question world).bind fun answered => translate reply (next answered.1) answered.2

theorem translate_ask {Other : Type} {Reply : Other → Type}
    (reply : (question : Question) → ω → Dialogue Other Reply (Answer question × ω))
    (question : Question) (next : Answer question → Dialogue Question Answer α) (world : ω) :
    translate reply (ask question next) world =
      reply question world >>= fun answered => translate reply (next answered.1) answered.2 := rfl

/-- Worlds that lie in another sort of worlds may be carried along as what they are there. -/
theorem translate_embedded {Other : Type} {Reply : Other → Type} {τ : Type} (embed : τ → ω)
    {outer : (question : Question) → ω → Dialogue Other Reply (Answer question × ω)}
    {inner : (question : Question) → τ → Dialogue Other Reply (Answer question × τ)}
    (same : ∀ question world, outer question (embed world) = (do
      let answered ← inner question world
      return (answered.1, embed answered.2)))
    (dialogue : Dialogue Question Answer α) (world : τ) :
    translate outer dialogue (embed world) = (do
      let ended ← translate inner dialogue world
      return (ended.1, embed ended.2)) := by
  induction dialogue generalizing world with
  | done result => rfl
  | ask question next ih =>
    rw [translate_ask, translate_ask, same]
    simp only [bind_assoc, pure_bind, ih]

def run (reply : (question : Question) → ω → Answer question × ω) :
    Dialogue Question Answer α → ω → α × ω
  | done result, world => (result, world)
  | ask question next, world =>
    let (answer, world) := reply question world
    run reply (next answer) world

@[simp] theorem run_pure (reply : (question : Question) → ω → Answer question × ω) (result : α)
    (world : ω) : run reply (pure result) world = (result, world) := rfl

theorem run_bind (reply : (question : Question) → ω → Answer question × ω)
    (dialogue : Dialogue Question Answer α) (next : α → Dialogue Question Answer β) (world : ω) :
    run reply (dialogue >>= next) world =
      run reply (next (run reply dialogue world).1) (run reply dialogue world).2 := by
  induction dialogue generalizing world with
  | done result => rfl
  | ask question rest ih =>
    show run reply (Dialogue.bind (ask question rest) next) world = _
    simp only [Dialogue.bind, run]
    exact ih _ _

end Dialogue

end Weave
