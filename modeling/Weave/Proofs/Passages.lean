import Mathlib.Data.List.Intervals
import Weave.Completion

/-! Passages here and back. A call goes inward along a chain, up to the target or to a place where it
is refused, and outward again past the places it left behind. Advice has its turns on the way in or
on the way out, and may raise errors; the last error raised is what comes of the passage. -/

namespace Weave

variable [ValueTypes]

/-- A turn of advice: in which place, for what outcome if it comes on the way out, and with what
result. -/
structure Turn where
  place : Nat
  came : Option Outcome
  result : Except Fault Unit

def Turn.raised (turn : Turn) : Option Fault :=
  match turn.result with
  | .ok _ => none
  | .error fault => some fault

/-- The turns that a call gives to advice on its way in and on its way out, and what the target
answers if the call gets there. -/
structure Passage where
  inward : List Turn
  target : Option Outcome
  outward : List Turn

namespace Passage

def errors (passage : Passage) : List Fault :=
  passage.inward.filterMap Turn.raised ++
    (match passage.target with
      | some (.error fault) => [fault]
      | _ => []) ++
    passage.outward.filterMap Turn.raised

def outcome (passage : Passage) : Option Outcome :=
  match passage.errors.getLast? with
  | some fault => some (.error fault)
  | none => passage.target

/-- What comes out of the places behind this one. -/
def arriving (passage : Passage) (place : Nat) : Option Outcome :=
  { passage with outward := passage.outward.filter (place < ·.place) }.outcome

def admitted (passage : Passage) (place : Nat) : Passage :=
  { passage with inward := ⟨place, none, .ok ()⟩ :: passage.inward }

def answered (passage : Passage) (place : Nat) (result : Except Fault Unit) : Passage :=
  { passage with outward := passage.outward ++ [⟨place, passage.outcome, result⟩] }

/-- A passage in order: it starts in the place `first` and turns in the place `turned`, where the call
is refused or the chain of this length ends. `responds` says which places have a turn on the way in,
when nothing has come yet, and which have one on the way out for what comes from further in. -/
structure Orderly (responds : Nat → Option Outcome → Bool) (length first turned : Nat)
    (passage : Passage) : Prop where
  starts : first ≤ turned
  within : turned ≤ length
  inward : passage.inward.map Turn.place =
    (List.Ico first (turned + 1)).filter fun place => responds place none
  entering : ∀ turn ∈ passage.inward,
    turn.came = none ∧ (turn.raised.isSome ↔ turn.place = turned)
  refused : turned < length → responds turned none
  target : passage.target.isSome ↔ turned = length
  outward : passage.outward.map Turn.place =
    (List.Ico first turned).reverse.filter fun place => responds place (passage.arriving place)
  leaving : ∀ turn ∈ passage.outward, turn.came = passage.arriving turn.place

theorem arrived_outcome (answer : Outcome) : outcome ⟨[], some answer, []⟩ = some answer := by
  cases answer <;> rfl

theorem admitted_arriving (passage : Passage) (place further : Nat) :
    (passage.admitted place).arriving further = passage.arriving further := rfl

theorem answered_outcome (passage : Passage) (place : Nat) (result : Except Fault Unit) :
    (passage.answered place result).outcome =
      match result with
      | .ok _ => passage.outcome
      | .error fault => some (.error fault) := by
  cases result <;> simp [outcome, errors, answered, Turn.raised]

theorem answered_arriving (passage : Passage) {place further : Nat} (result : Except Fault Unit)
    (behind : place ≤ further) :
    (passage.answered place result).arriving further = passage.arriving further := by
  have apart : ¬ further < place := by omega
  simp [arriving, answered, List.filter_append, apart]

section
variable {responds : Nat → Option Outcome → Bool} {length first turned : Nat} {passage : Passage}

theorem orderly_arrived (answer : Outcome) (silent : responds length none = false) :
    Orderly responds length length length ⟨[], some answer, []⟩ where
  starts := le_rfl
  within := le_rfl
  inward := by simp [List.Ico.succ_singleton, silent]
  entering := by simp
  refused := by simp
  target := by simp
  outward := by simp
  leaving := by simp

theorem orderly_refused (fault : Fault) (within : first < length) (responding : responds first none) :
    Orderly responds length first first ⟨[⟨first, none, .error fault⟩], none, []⟩ where
  starts := le_rfl
  within := within.le
  inward := by simp [List.Ico.succ_singleton, responding]
  entering := by simp [Turn.raised]
  refused _ := responding
  target := by simp [within.ne]
  outward := by simp
  leaving := by simp

/-! A passage in order from the next place on is one from this place on, if the place lets the call
in, or acts on what comes out, or does neither. -/

namespace Orderly

variable (inner : Orderly responds length (first + 1) turned passage)
include inner

theorem behind {turn : Turn} (member : turn ∈ passage.outward) : first < turn.place := by
  have place : turn.place ∈ passage.outward.map Turn.place := List.mem_map_of_mem member
  rw [inner.outward] at place
  simp only [List.mem_filter, List.mem_reverse, List.Ico.mem] at place
  exact place.1.1

theorem arriving_first : passage.arriving first = passage.outcome := by
  have all : passage.outward.filter (first < ·.place) = passage.outward :=
    List.filter_eq_self.2 fun turn member => decide_eq_true (inner.behind member)
  rw [arriving, all]

theorem inward_first :
    ((List.Ico first (turned + 1)).filter fun place => responds place none) =
      (if responds first none then [first] else []) ++ passage.inward.map Turn.place := by
  have starts := inner.starts
  rw [List.Ico.eq_cons (by omega), List.filter_cons, ← inner.inward]
  cases responds first none <;> rfl

theorem outward_first {outer : Passage}
    (same : ∀ place, first ≤ place → outer.arriving place = passage.arriving place) :
    ((List.Ico first turned).reverse.filter fun place => responds place (outer.arriving place)) =
      passage.outward.map Turn.place ++ if responds first passage.outcome then [first] else [] := by
  have further : ((List.Ico (first + 1) turned).reverse.filter fun place =>
      responds place (outer.arriving place)) = passage.outward.map Turn.place := by
    rw [inner.outward]
    refine List.filter_congr fun place member => ?_
    have above := (List.Ico.mem.1 (List.mem_reverse.1 member)).1
    rw [same place (by omega)]
  rw [List.Ico.eq_cons inner.starts, List.reverse_cons, List.filter_append, further]
  simp [same first le_rfl, inner.arriving_first, List.filter_cons]

theorem admitted (responding : responds first none)
    (silent : responds first passage.outcome = false) :
    Orderly responds length first turned (passage.admitted first) where
  starts := (Nat.le_succ first).trans inner.starts
  within := inner.within
  inward := by
    rw [inner.inward_first, if_pos responding]
    rfl
  entering := by
    have starts := inner.starts
    refine List.forall_mem_cons.2 ⟨⟨rfl, ?_⟩, inner.entering⟩
    simp only [Turn.raised, Option.isSome_none, Bool.false_eq_true, false_iff]
    omega
  refused := inner.refused
  target := inner.target
  outward := by
    rw [inner.outward_first fun place _ => passage.admitted_arriving first place, silent]
    exact (List.append_nil _).symm
  leaving := inner.leaving

theorem passed (silent : responds first none = false)
    (still : responds first passage.outcome = false) :
    Orderly responds length first turned passage where
  starts := (Nat.le_succ first).trans inner.starts
  within := inner.within
  inward := by
    rw [inner.inward_first, silent]
    rfl
  entering := inner.entering
  refused := inner.refused
  target := inner.target
  outward := by
    rw [inner.outward_first fun _ _ => rfl, still]
    exact (List.append_nil _).symm
  leaving := inner.leaving

theorem answered (silent : responds first none = false)
    (responding : responds first passage.outcome) (result : Except Fault Unit) :
    Orderly responds length first turned (passage.answered first result) where
  starts := (Nat.le_succ first).trans inner.starts
  within := inner.within
  inward := by
    rw [inner.inward_first, silent]
    rfl
  entering := inner.entering
  refused := inner.refused
  target := inner.target
  outward := by
    rw [inner.outward_first fun _ above => passage.answered_arriving result above, if_pos responding]
    exact List.map_append
  leaving := by
    intro turn member
    rcases List.mem_append.1 member with member | member
    · rw [passage.answered_arriving result (inner.behind member).le]
      exact inner.leaving turn member
    · rw [List.mem_singleton.1 member, passage.answered_arriving result le_rfl,
        inner.arriving_first]

end Orderly

end

end Passage

end Weave
