import Mathlib.Data.List.Basic
import Weave.Regex.Parser

/-! Reading a text that is not the end. A reader sees its text to the end, and a pattern between anchors
has a closing parenthesis and more behind it. A reader that comes to an end within the text reads the same
with anything behind the parenthesis. Otherwise it fails, or it is a comment that took the rest of the
text, and in both cases what it can still read with more behind takes the parenthesis along. -/

namespace Weave.Regex

/-- Results of readers. They hold the text that is left. -/
class Leftover (β : Type) where
  left : β → List Char
  put : β → List Char → β
  left_put : ∀ result text, left (put result text) = text
  put_left : ∀ result, put result (left result) = result
  put_put : ∀ result text other, put (put result text) other = put result other

open Leftover

instance : Leftover (List Char) where
  left text := text
  put _ text := text
  left_put _ _ := rfl
  put_left _ := rfl
  put_put _ _ _ := rfl

instance {α β : Type} [Leftover β] : Leftover (α × β) where
  left result := left result.2
  put result text := (result.1, put result.2 text)
  left_put result := left_put result.2
  put_left result := congrArg (result.1, ·) (put_left result.2)
  put_put result text other := congrArg (result.1, ·) (put_put result.2 text other)

instance {α β : Type} [Leftover α] [Leftover β] : Leftover (α ⊕ β) where
  left := Sum.elim left left
  put
    | .inl result, text => .inl (put result text)
    | .inr result, text => .inr (put result text)
  left_put
    | .inl result => left_put result
    | .inr result => left_put result
  put_left
    | .inl result => congrArg Sum.inl (put_left result)
    | .inr result => congrArg Sum.inr (put_left result)
  put_put
    | .inl result, text, other => congrArg Sum.inl (put_put result text other)
    | .inr result, text, other => congrArg Sum.inr (put_put result text other)

def onto {β : Type} [Leftover β] (result : β) (behind : List Char) : β := put result (left result ++ behind)

/-- With a closing parenthesis and more behind the text, a reader that succeeds leaves some of what is
behind the parenthesis. -/
def Overruns {β : Type} [Leftover β] (read : List Char → Option β) (text : List Char) : Prop :=
  ∀ more result, read (text ++ ')' :: more) = some result → left result <:+ more

/-- What a reader does on a text, by itself and with a closing parenthesis and more behind it. -/
inductive ReadsOn {β : Type} [Leftover β] (read : List Char → Option β) (text : List Char) : Prop where
  | within (result : β) (alone : read text = some result) (suffix : left result <:+ text)
      (behind : ∀ more, read (text ++ ')' :: more) = some (onto result (')' :: more)))
  | drained (result : β) (alone : read text = some result) (emptied : left result = [])
      (closed : read (text ++ [')']) = some result) (overruns : Overruns read text)
  | short (alone : read text = none) (overruns : Overruns read text)

section

variable {α β γ : Type} [Leftover β] [Leftover γ]
variable {read other : List Char → Option β} {text : List Char}

theorem left_onto (result : β) (behind : List Char) : left (onto result behind) = left result ++ behind :=
  left_put result _

theorem overruns_of_none (fails : ∀ more, read (text ++ ')' :: more) = none) : Overruns read text := by
  intro more result found
  rw [fails more] at found
  contradiction

namespace ReadsOn

theorem failing (alone : read text = none) (fails : ∀ more, read (text ++ ')' :: more) = none) :
    ReadsOn read text :=
  .short alone (overruns_of_none fails)

theorem suffix (reads : ReadsOn read text) {result : β} (found : read text = some result) :
    left result <:+ text := by
  cases reads with
  | within only alone suffix _ =>
    obtain rfl := Option.some.inj (alone.symm.trans found)
    exact suffix
  | drained only alone emptied _ _ =>
    obtain rfl := Option.some.inj (alone.symm.trans found)
    rw [emptied]
    exact List.nil_suffix
  | short alone _ => exact nomatch alone.symm.trans found

/-- A reader that leaves the closing parenthesis does not need it. -/
theorem inward (reads : ReadsOn read text) {more kept : List Char} {result : β}
    (found : read (text ++ ')' :: more) = some result) (leaves : left result = kept ++ ')' :: more) :
    read text = some (put result kept) ∧
      ∀ others, read (text ++ ')' :: others) = some (put result (kept ++ ')' :: others)) := by
  have outside : ¬ Overruns read text := by
    intro overruns
    have short := (overruns more result found).length_le
    rw [leaves, List.length_append, List.length_cons] at short
    omega
  cases reads with
  | within inner alone _ behind =>
    have same := Option.some.inj ((behind more).symm.trans found)
    have rest : left inner = kept := by
      rw [← same, left_onto] at leaves
      exact List.append_cancel_right leaves
    have given (behind : List Char) : put result behind = put inner behind := by
      rw [← same]
      exact put_put inner _ _
    refine ⟨?_, fun others => ?_⟩
    · rw [given, ← rest, put_left, alone]
    · rw [given, ← rest, behind]
      rfl
  | drained _ _ _ _ overruns => exact (outside overruns).elim
  | short _ overruns => exact (outside overruns).elim

theorem congr (reads : ReadsOn read text) (alone : other text = read text)
    (behind : ∀ more, other (text ++ ')' :: more) = read (text ++ ')' :: more)) : ReadsOn other text := by
  have overruns (passes : Overruns read text) : Overruns other text := fun more result found =>
    passes more result ((behind more).symm.trans found)
  cases reads with
  | within result inner suffix whole =>
    exact .within result (alone.trans inner) suffix fun more => (behind more).trans (whole more)
  | drained result inner emptied closed passes =>
    exact .drained result (alone.trans inner) emptied ((behind []).trans closed) (overruns passes)
  | short inner passes => exact .short (alone.trans inner) (overruns passes)

theorem after (reads : ReadsOn read text) {c : Char} (alone : other (c :: text) = read text)
    (behind : ∀ more, other (c :: (text ++ ')' :: more)) = read (text ++ ')' :: more)) :
    ReadsOn other (c :: text) := by
  have overruns (passes : Overruns read text) : Overruns other (c :: text) := fun more result found =>
    passes more result ((behind more).symm.trans found)
  cases reads with
  | within result inner suffix whole =>
    exact .within result (alone.trans inner) (suffix.trans (List.suffix_cons _ _))
      fun more => (behind more).trans (whole more)
  | drained result inner emptied closed passes =>
    exact .drained result (alone.trans inner) emptied ((behind []).trans closed) (overruns passes)
  | short inner passes => exact .short (alone.trans inner) (overruns passes)

theorem cons (reads : ReadsOn read text) {c : Char} (same : ∀ rest, other (c :: rest) = read rest) :
    ReadsOn other (c :: text) :=
  reads.after (same text) fun _ => same _

/-- One reader after another, on what the first has left. -/
theorem bind {next : β → Option γ} (first : ReadsOn read text)
    (second : ∀ result, read text = some result → ReadsOn (fun rest => next (put result rest)) (left result))
    (shortens : ∀ result after, next result = some after → left after <:+ left result) :
    ReadsOn (fun text => (read text).bind next) text := by
  have overruns (passes : Overruns read text) : Overruns (fun text => (read text).bind next) text := by
    intro more after found
    obtain ⟨result, early, late⟩ := Option.bind_eq_some_iff.1 found
    exact (shortens result after late).trans (passes more result early)
  cases first with
  | within result alone suffix behind =>
    have later := second result alone
    have here : (read text).bind next = next (put result (left result)) := by
      rw [alone, Option.bind_some, put_left]
    have there (more : List Char) :
        (read (text ++ ')' :: more)).bind next = next (put result (left result ++ ')' :: more)) := by
      rw [behind, Option.bind_some]
      rfl
    cases later with
    | within after inner shorter whole =>
      exact .within after (here.trans inner) (shorter.trans suffix) fun more => (there more).trans (whole more)
    | drained after inner emptied closed passes =>
      exact .drained after (here.trans inner) emptied ((there []).trans closed) fun more final found =>
        passes more final ((there more).symm.trans found)
    | short inner passes =>
      exact .short (here.trans inner) fun more final found => passes more final ((there more).symm.trans found)
  | drained result alone emptied closed passes =>
    have here : (read text).bind next = next result := by rw [alone, Option.bind_some]
    cases outcome : next result with
    | none => exact .short (here.trans outcome) (overruns passes)
    | some after =>
      have nothing := shortens result after outcome
      rw [emptied] at nothing
      refine .drained after (here.trans outcome) (List.suffix_nil.1 nothing) ?_ (overruns passes)
      rw [closed, Option.bind_some, outcome]
  | short alone passes => exact .short (by rw [alone, Option.bind_none]) (overruns passes)

theorem andThen {next : β → Option γ} (first : ReadsOn read text)
    (second : ∀ result text, ReadsOn (fun rest => next (put result rest)) text) :
    ReadsOn (fun text => (read text).bind next) text := by
  refine first.bind (fun result _ => second result _) fun result after found => ?_
  have given : next (put result (left result)) = some after := by rw [put_left, found]
  exact (second result (left result)).suffix given

theorem returning {result : List Char → β} (same : ∀ text other, put (result text) other = result other)
    (text : List Char) : ReadsOn (fun text => some (result text)) text := by
  have leaves (text : List Char) : left (result text) = text := by rw [← same [] text, left_put]
  refine .within (result text) rfl ?_ fun more => ?_
  · exact (leaves text).symm ▸ List.suffix_rfl
  · rw [onto, leaves, same]

theorem giving {value : Option α} {result : α → List Char → β}
    (same : ∀ value text other, put (result value text) other = result value other) (text : List Char) :
    ReadsOn (fun text => value.map fun value => result value text) text := by
  cases value with
  | none => exact .failing rfl fun _ => rfl
  | some value => exact returning (same value) text

theorem mapped {form : β → γ} (same : ∀ result text, form (put result text) = put (form result) text)
    (reads : ReadsOn read text) : ReadsOn (fun text => (read text).map form) text := by
  have leaves (result : β) : left (form result) = left result := by
    rw [← put_left result, same, left_put, put_left]
  have split : (fun text => (read text).map form) =
      fun text => (read text).bind fun result => some (form result) :=
    funext fun text => Option.map_eq_bind ..
  rw [split]
  refine reads.bind (fun result _ => ?_) fun result after found => ?_
  · refine returning (fun text other => ?_) _
    rw [same, same, put_put]
  · obtain rfl := Option.some.inj found
    exact (leaves result).symm ▸ List.suffix_rfl

theorem head {c : Char} (reads : ReadsOn (fun rest => read (c :: rest)) text) : ReadsOn read (c :: text) :=
  reads.cons fun _ => rfl

end ReadsOn

/-! ### Rounds -/

abbrev Round (γ σ : Type) : Type := γ ⊕ σ × List Char

def rounds {σ : Type} (step : σ → List Char → Option (Round γ σ)) : Nat → σ → List Char → Option γ
  | 0, _, _ => none
  | bound + 1, state, text =>
    (step state text).bind (Sum.elim some fun next => rounds step bound next.1 next.2)

variable {σ : Type} {step : σ → List Char → Option (Round γ σ)}

def Advances (step : σ → List Char → Option (Round γ σ)) : Prop :=
  ∀ state text next, step state text = some (.inr next) → next.2.length < text.length

omit [Leftover γ] in
/-- More rounds than there are characters are never needed. -/
theorem rounds_enough (advances : Advances step) {bound : Nat} (state : σ) (text : List Char)
    (enough : text.length < bound) :
    rounds step bound state text = rounds step (text.length + 1) state text := by
  induction bound using Nat.strongRecOn generalizing state text with
  | ind bound ih =>
    obtain ⟨bound, rfl⟩ := Nat.exists_eq_add_one_of_ne_zero (Nat.ne_of_gt (Nat.zero_lt_of_lt enough))
    unfold rounds
    cases outcome : step state text with
    | none => rfl
    | some result =>
      cases result with
      | inl => rfl
      | inr next =>
        have shorter := advances state text next outcome
        change rounds step bound next.1 next.2 = rounds step text.length next.1 next.2
        calc rounds step bound next.1 next.2
          _ = rounds step (next.2.length + 1) next.1 next.2 := ih bound (by omega) next.1 next.2 (by omega)
          _ = rounds step text.length next.1 next.2 := (ih text.length (by omega) next.1 next.2 shorter).symm

def readRounds (step : σ → List Char → Option (Round γ σ)) (state : σ) (text : List Char) : Option γ :=
  rounds step (text.length + 1) state text

omit [Leftover γ] in
theorem readRounds_eq (advances : Advances step) (state : σ) (text : List Char) :
    readRounds step state text =
      (step state text).bind (Sum.elim some fun next => readRounds step next.1 next.2) := by
  unfold readRounds
  rw [rounds]
  cases outcome : step state text with
  | none => rfl
  | some result =>
    cases result with
    | inl => rfl
    | inr next => exact rounds_enough advances next.1 next.2 (advances state text next outcome)

theorem readsOn_rounds (advances : Advances step) (reads : ∀ state text, ReadsOn (step state) text)
    (state : σ) (text : List Char) : ReadsOn (readRounds step state) text := by
  have shortens (bound : Nat) : ∀ state text after, rounds step bound state text = some after →
      left after <:+ text := by
    induction bound with
    | zero => exact fun _ _ _ found => nomatch found
    | succ bound ih =>
      intro state text after found
      obtain ⟨result, early, late⟩ := Option.bind_eq_some_iff.1 found
      have taken := (reads state text).suffix early
      cases result with
      | inl result =>
        obtain rfl := Option.some.inj late
        exact taken
      | inr next => exact (ih next.1 next.2 after late).trans taken
  induction size : text.length using Nat.strongRecOn generalizing state text with
  | ind size ih =>
    have split := funext fun text => readRounds_eq advances state text
    rw [split]
    refine (reads state text).bind (fun result found => ?_) fun result after found => ?_
    · cases result with
      | inl result => exact .within result (congrArg some (put_left result)) List.suffix_rfl fun _ => rfl
      | inr next => exact ih next.2.length (size ▸ advances state text next found) next.1 next.2 rfl
    · cases result with
      | inl result =>
        obtain rfl := Option.some.inj found
        exact List.suffix_rfl
      | inr next => exact shortens _ next.1 next.2 after found

end

end Weave.Regex
