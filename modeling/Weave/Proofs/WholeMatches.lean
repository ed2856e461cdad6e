import Mathlib.Data.List.Basic
import Weave.Regex.Build

/-! Matches of whole texts. Putting sequences into a normal form does not change what they match, matches
end within the text, and so a regular expression between anchors is found in a text exactly if it matches
the text from its first character to its last. A choice is found where one of its branches is. -/

namespace Weave

namespace Positions

variable {bound : Nat}

def Within (bound : Nat) (positions : Positions) : Prop := ∀ position ∈ positions, position ≤ bound

theorem mem_of_merge {position : Nat} {left right : Positions} (member : position ∈ left.merge right) :
    position ∈ left ∨ position ∈ right := by
  induction left, right using Positions.merge.induct with
  | case1 right => exact .inr (by rwa [Positions.merge] at member)
  | case2 left filled =>
    cases left with
    | nil => exact (filled rfl).elim
    | cons => exact .inl (by rwa [Positions.merge] at member; exact filled)
  | case3 a left b right less ih =>
    rw [Positions.merge, if_pos less] at member
    rcases List.mem_cons.1 member with rfl | later
    · exact .inl List.mem_cons_self
    · exact (ih later).imp_left (List.mem_cons_of_mem a)
  | case4 a left b right unordered less ih =>
    rw [Positions.merge, if_neg unordered, if_pos less] at member
    rcases List.mem_cons.1 member with rfl | later
    · exact .inr List.mem_cons_self
    · exact (ih later).imp_right (List.mem_cons_of_mem b)
  | case5 a left b right unordered same ih =>
    rw [Positions.merge, if_neg unordered, if_neg same] at member
    rcases List.mem_cons.1 member with rfl | later
    · exact .inl List.mem_cons_self
    · exact (ih later).imp (List.mem_cons_of_mem a) (List.mem_cons_of_mem b)

theorem merge_eq_nil {left right : Positions} : left.merge right = [] ↔ left = [] ∧ right = [] := by
  cases left with
  | nil => simp only [Positions.merge, true_and]
  | cons a left =>
    refine iff_of_false (fun empty => ?_) fun both => List.cons_ne_nil _ _ both.1
    cases right with
    | nil =>
      rw [Positions.merge] at empty
      · contradiction
      · exact List.cons_ne_nil _ _
    | cons b right =>
      rw [Positions.merge] at empty
      split at empty
      · contradiction
      · split at empty <;> contradiction

theorem Within.merge {left right : Positions} (first : Within bound left) (second : Within bound right) :
    Within bound (left.merge right) :=
  fun position member => (mem_of_merge member).elim (first position) (second position)

theorem Within.iterate {step : Positions → Positions}
    (kept : ∀ positions, Within bound positions → Within bound (step positions))
    (count : Nat) {positions : Positions} (inside : Within bound positions) :
    Within bound (Positions.iterate step count positions) := by
  induction count generalizing positions with
  | zero => exact inside
  | succ count ih =>
    unfold Positions.iterate
    simp only
    split
    · exact inside
    · exact ih (kept _ inside)

theorem Within.closure {step : Positions → Positions}
    (kept : ∀ positions, Within bound positions → Within bound (step positions))
    (count : Nat) {positions : Positions} (inside : Within bound positions) :
    Within bound (Positions.closure step count positions) := by
  induction count generalizing positions with
  | zero => exact inside
  | succ count ih =>
    unfold Positions.closure
    simp only
    split
    · exact inside
    · exact ih (inside.merge (kept _ inside))

end Positions

namespace Regex

open Positions

variable (text : Array Char)

theorem advance_within (accepts : Char → Bool) (starts : Positions) :
    Within text.size (advance text accepts starts) := by
  intro position member
  obtain ⟨start, -, taken⟩ := List.mem_filterMap.1 member
  split at taken
  · obtain rfl := Option.some.inj taken
    obtain ⟨c, read, -⟩ := (Option.any_eq_true ..).1 ‹_›
    exact (Array.getElem?_eq_some_iff.1 read).1
  · contradiction

theorem ends_within (regex : Regex) {starts : Positions} (inside : Within text.size starts) :
    Within text.size (regex.ends text starts) := by
  induction regex generalizing starts with
  | empty => exact inside
  | literal chars =>
    unfold ends
    induction chars generalizing starts with
    | nil => exact inside
    | cons c rest ih => exact ih (advance_within text _ _)
  | set chars => exact advance_within text _ _
  | look condition => exact fun position member => inside position (List.mem_filter.1 member).1
  | repeated body least most greedy ih =>
    have kept (positions : Positions) (inside : Within text.size positions) :
        Within text.size (body.ends text positions) := ih inside
    have required := inside.iterate kept least
    unfold ends
    cases most with
    | none => exact required.closure kept _
    | some most => exact required.closure kept _
  | group index body ih => exact ih inside
  | concat first rest head tail => exact tail (head inside)
  | alternate first rest head tail => exact (head inside).merge (tail inside)

/-! ### Sequences -/

def endsOfAll (parts : List Regex) (starts : Positions) : Positions :=
  parts.foldl (fun reached part => part.ends text reached) starts

theorem endsOfAll_append (first rest : List Regex) (starts : Positions) :
    endsOfAll text (first ++ rest) starts = endsOfAll text rest (endsOfAll text first starts) :=
  List.foldl_append ..

theorem endsOfAll_factors (regex : Regex) (starts : Positions) :
    endsOfAll text regex.factors starts = regex.ends text starts := by
  induction regex generalizing starts with
  | concat first rest _ ih => exact ih _
  | _ => rfl

theorem endsOfAll_mergeLiterals (parts : List Regex) (starts : Positions) :
    endsOfAll text (mergeLiterals parts) starts = endsOfAll text parts starts := by
  induction parts using mergeLiterals.induct generalizing starts with
  | case1 => rfl
  | case2 chars rest more others merged ih =>
    have joined : mergeLiterals (literal chars :: rest) = literal (chars ++ more) :: others := by
      rw [mergeLiterals, merged]
    have split : (literal (chars ++ more)).ends text starts =
        (literal more).ends text ((literal chars).ends text starts) := List.foldl_append ..
    calc endsOfAll text (mergeLiterals (literal chars :: rest)) starts
      _ = endsOfAll text others ((literal (chars ++ more)).ends text starts) := by rw [joined]; rfl
      _ = endsOfAll text (mergeLiterals rest) ((literal chars).ends text starts) := by rw [split, merged]; rfl
      _ = endsOfAll text rest ((literal chars).ends text starts) := ih _
  | case3 chars rest unmerged ih =>
    have apart : mergeLiterals (literal chars :: rest) = literal chars :: mergeLiterals rest := by
      rw [mergeLiterals]
      split
      · rename_i merged
        exact (unmerged _ _ merged).elim
      · rfl
    rw [apart]
    exact ih _
  | case4 part rest other ih =>
    have apart : mergeLiterals (part :: rest) = part :: mergeLiterals rest := by
      rw [mergeLiterals]
      exact other
    rw [apart]
    exact ih _

theorem ends_ofFactors (parts : List Regex) (starts : Positions) :
    (ofFactors parts).ends text starts = endsOfAll text parts starts := by
  induction parts generalizing starts with
  | nil => rfl
  | cons part rest ih =>
    cases rest with
    | nil => rfl
    | cons => exact ih _

theorem ends_sequenceOf (parts : List Regex) (starts : Positions) :
    (sequenceOf parts).ends text starts = endsOfAll text parts starts := by
  rw [sequenceOf, ends_ofFactors, endsOfAll_mergeLiterals]
  induction parts generalizing starts with
  | nil => rfl
  | cons part rest ih => rw [List.flatMap_cons, endsOfAll_append, endsOfAll_factors, ih]; rfl

def between (regex : Regex) : Regex := sequenceOf [.look .textStart, regex, .look .textEnd]

theorem starts_textStart : (look .textStart).ends text (List.range (text.size + 1)) = [0] := by
  have later (position : Nat) (member : position ∈ (List.range text.size).map (· + 1)) :
      ¬ (Look.textStart.holds (charBefore text position) text[position]?) = true := by
    obtain ⟨before, inside, rfl⟩ := List.mem_map.1 member
    change ¬ (text[before]?.isNone = true)
    rw [Array.getElem?_eq_getElem (List.mem_range.1 inside)]
    exact Bool.false_ne_true
  rw [List.range_succ_eq_map]
  change (0 :: (List.range text.size).map (· + 1)).filter _ = _
  rw [List.filter_cons_of_pos rfl, List.filter_eq_nil_iff.2 later]

/-- Between anchors, only matches of the whole text are found. -/
theorem occursIn_between (regex : Regex) (name : String) :
    regex.between.occursIn name = regex.matchesAll name := by
  unfold occursIn matchesAll between
  generalize name.toList.toArray = text
  simp only
  rw [ends_sequenceOf]
  change (!((look .textEnd).ends text (regex.ends text ((look .textStart).ends text _))).isEmpty) = _
  rw [starts_textStart]
  have inside : Within text.size (regex.ends text [0]) :=
    ends_within text regex fun position member => by
      obtain rfl := List.mem_singleton.1 member
      exact Nat.zero_le _
  rw [Bool.eq_iff_iff, Bool.not_eq_true', List.isEmpty_eq_false_iff_exists_mem, List.contains_iff_mem]
  constructor
  · rintro ⟨position, member⟩
    obtain ⟨reached, ended⟩ := List.mem_filter.1 member
    have outside : text.size ≤ position := by
      change text[position]?.isNone = true at ended
      exact Array.getElem?_eq_none_iff.1 (Option.isNone_iff_eq_none.1 ended)
    have last : position = text.size := Nat.le_antisymm (inside position reached) outside
    exact last ▸ reached
  · intro reached
    refine ⟨text.size, List.mem_filter.2 ⟨reached, ?_⟩⟩
    change text[text.size]?.isNone = true
    rw [Array.getElem?_eq_none (Nat.le_refl _)]
    rfl

theorem occursIn_alternate (first rest : Regex) (name : String) :
    (alternate first rest).occursIn name = (first.occursIn name || rest.occursIn name) := by
  unfold occursIn
  simp only [ends]
  rw [Bool.eq_iff_iff]
  simp only [Bool.not_eq_true', Bool.or_eq_true, List.isEmpty_eq_false_iff, ne_eq, merge_eq_nil, not_and_or]

end Regex

end Weave
