import Mathlib.Data.List.Basic
import Weave.Glob

/-! What a pattern with stars takes. The texts are those that come of the pattern when each star is
replaced by some run of characters. The matcher tries only one place for each piece between two stars,
the leftmost; that is enough, because every other place leaves less of the text to the pieces behind
it, and a star takes up what is left over. -/

namespace Weave.Glob

/-- A pattern with its stars replaced by the given runs, from the left. -/
def replaceStars : List Char → List (List Char) → List Char
  | [], _ => []
  | c :: pattern, runs =>
    if c = '*' then runs.headD [] ++ replaceStars pattern runs.tail
    else c :: replaceStars pattern runs

/-- A text in which the pieces occur one behind another, each after a run of any characters, and which
ends with the last of them. -/
inductive Covers : List (List Char) → List Char → Prop
  | nothing : Covers [] []
  | behind (run : List Char) {piece : List Char} {more : List (List Char)} {rest : List Char}
      (onwards : Covers more rest) : Covers (piece :: more) (run ++ (piece ++ rest))

theorem covers_nil {target : List Char} : Covers [] target ↔ target = [] := by
  constructor
  · rintro ⟨⟩
    rfl
  · rintro rfl
    exact .nothing

theorem covers_cons {piece : List Char} {more : List (List Char)} {target : List Char} :
    Covers (piece :: more) target ↔
      ∃ run rest, target = run ++ (piece ++ rest) ∧ Covers more rest := by
  constructor
  · rintro (_ | ⟨run, onwards⟩)
    exact ⟨run, _, rfl, onwards⟩
  · rintro ⟨run, rest, rfl, onwards⟩
    exact .behind run onwards

theorem Covers.longer {piece : List Char} {more : List (List Char)} {target longer : List Char}
    (covers : Covers (piece :: more) target) (suffix : target <:+ longer) :
    Covers (piece :: more) longer := by
  obtain ⟨ahead, rfl⟩ := suffix
  obtain ⟨run, rest, rfl, onwards⟩ := covers_cons.1 covers
  rw [← List.append_assoc]
  exact .behind (ahead ++ run) onwards

/-! ### The leftmost place of a piece -/

theorem eq_append_drop {piece target : List Char} (starts : piece.isPrefixOf target = true) :
    target = piece ++ target.drop piece.length :=
  (List.prefix_iff_eq_append.1 (List.isPrefixOf_iff_prefix.1 starts)).symm

theorem after?_eq_some {piece target left : List Char} (found : after? piece target = some left) :
    ∃ run, target = run ++ (piece ++ left) := by
  induction target with
  | nil =>
    cases piece with
    | nil => exact ⟨[], Option.some.inj found⟩
    | cons => contradiction
  | cons c rest ih =>
    rw [after?] at found
    split at found
    · next starts =>
      obtain rfl := Option.some.inj found
      exact ⟨[], eq_append_drop starts⟩
    · obtain ⟨run, same⟩ := ih found
      exact ⟨c :: run, congrArg (c :: ·) same⟩

/-- Wherever a piece occurs, what is left behind its leftmost occurrence ends with what is left
there. -/
theorem after?_append (run piece rest : List Char) :
    ∃ left, after? piece (run ++ (piece ++ rest)) = some left ∧ rest <:+ left := by
  induction run with
  | nil =>
    have starts : piece.isPrefixOf (piece ++ rest) = true :=
      List.isPrefixOf_iff_prefix.2 (List.prefix_append piece rest)
    refine ⟨rest, ?_, List.suffix_refl rest⟩
    rw [List.nil_append]
    cases target : piece ++ rest with
    | nil =>
      obtain ⟨rfl, rfl⟩ := List.append_eq_nil_iff.1 target
      rfl
    | cons c others =>
      rw [after?, ← target, if_pos starts, List.drop_left]
  | cons c run ih =>
    obtain ⟨left, found, suffix⟩ := ih
    rw [List.cons_append, after?]
    split
    · next starts =>
      refine ⟨_, rfl, ?_⟩
      -- The piece already occurs at the front, so that more is left than behind the place given.
      have whole : rest <:+ c :: (run ++ (piece ++ rest)) := ⟨c :: (run ++ piece), by simp⟩
      refine List.suffix_of_suffix_length_le whole (List.drop_suffix _ _) ?_
      simp only [List.length_drop, List.length_cons, List.length_append]
      omega
    · exact ⟨left, found, suffix⟩

theorem matchPieces_cons (piece next : List Char) (more : List (List Char)) (target : List Char) :
    matchPieces (piece :: next :: more) target =
      match after? piece target with
      | some left => matchPieces (next :: more) left
      | none => false := rfl

theorem matchPieces_iff (pieces : List (List Char)) (target : List Char) :
    matchPieces pieces target = true ↔ Covers pieces target := by
  induction pieces generalizing target with
  | nil => rw [matchPieces, List.isEmpty_iff, covers_nil]
  | cons piece more ih =>
    cases more with
    | nil =>
      rw [matchPieces, List.isSuffixOf_iff_suffix, covers_cons]
      constructor
      · rintro ⟨run, rfl⟩
        exact ⟨run, [], by rw [List.append_nil], .nothing⟩
      · rintro ⟨run, rest, rfl, onwards⟩
        rw [covers_nil.1 onwards, List.append_nil]
        exact List.suffix_append run piece
    | cons next more =>
      rw [matchPieces_cons, covers_cons]
      constructor
      · intro matched
        split at matched
        · next left found =>
          obtain ⟨run, rfl⟩ := after?_eq_some found
          exact ⟨run, left, rfl, (ih left).1 matched⟩
        · contradiction
      · rintro ⟨run, rest, rfl, onwards⟩
        obtain ⟨left, found, suffix⟩ := after?_append run piece rest
        rw [found]
        exact (ih left).2 (onwards.longer suffix)

/-! ### Patterns and their pieces -/

theorem pieces_star (pattern : List Char) :
    pieces ('*' :: pattern) = ([], (pieces pattern).1 :: (pieces pattern).2) := rfl

theorem pieces_plain {c : Char} (plain : c ≠ '*') (pattern : List Char) :
    pieces (c :: pattern) = (c :: (pieces pattern).1, (pieces pattern).2) := if_neg plain

theorem pieces_of_plain {pattern : List Char} (plain : '*' ∉ pattern) :
    pieces pattern = (pattern, []) := by
  induction pattern with
  | nil => rfl
  | cons c pattern ih =>
    rw [List.mem_cons, not_or] at plain
    rw [pieces_plain (Ne.symm plain.1), ih plain.2]

theorem accepts_of_plain {pattern : String} (plain : '*' ∉ pattern.toList) (target : String) :
    accepts pattern target = true ↔ target = pattern := by
  simp only [accepts, matchChars, pieces_of_plain plain, beq_iff_eq, String.toList_inj]
  exact eq_comm

theorem matchChars_iff (pattern target : List Char) :
    matchChars pattern target = true ↔
      ∃ rest, target = (pieces pattern).1 ++ rest ∧ Covers (pieces pattern).2 rest := by
  unfold matchChars
  obtain ⟨first, others⟩ := pieces pattern
  cases others with
  | nil =>
    simp only [beq_iff_eq, covers_nil, exists_eq_right, List.append_nil]
    exact eq_comm
  | cons piece more =>
    simp only [Bool.and_eq_true, matchPieces_iff]
    constructor
    · rintro ⟨starts, covers⟩
      exact ⟨_, eq_append_drop starts, covers⟩
    · rintro ⟨rest, rfl, covers⟩
      rw [List.drop_left]
      exact ⟨List.isPrefixOf_iff_prefix.2 (List.prefix_append first rest), covers⟩

/-- A text comes of a pattern by replacing stars if the pieces of the pattern cover it. -/
theorem replaced_iff (pattern target : List Char) :
    (∃ runs, runs.length = pattern.count '*' ∧ replaceStars pattern runs = target) ↔
      ∃ rest, target = (pieces pattern).1 ++ rest ∧ Covers (pieces pattern).2 rest := by
  induction pattern generalizing target with
  | nil =>
    simp only [pieces, covers_nil, exists_eq_right, List.append_nil, replaceStars, List.count_nil]
    exact ⟨fun ⟨_, _, same⟩ => same.symm, fun same => ⟨[], rfl, same.symm⟩⟩
  | cons c pattern ih =>
    by_cases star : c = '*'
    · subst star
      simp only [pieces_star, List.nil_append, exists_eq_left', covers_cons, replaceStars, if_true,
        List.count_cons_self]
      constructor
      · rintro ⟨runs, count, rfl⟩
        obtain ⟨run, runs, rfl⟩ := List.exists_cons_of_length_eq_add_one count
        obtain ⟨rest, same, covers⟩ := (ih _).1 ⟨runs, Nat.succ.inj count, rfl⟩
        exact ⟨run, rest, congrArg (run ++ ·) same, covers⟩
      · rintro ⟨run, rest, rfl, covers⟩
        obtain ⟨runs, count, same⟩ := (ih _).2 ⟨rest, rfl, covers⟩
        exact ⟨run :: runs, congrArg (· + 1) count, congrArg (run ++ ·) same⟩
    · simp only [pieces_plain star, replaceStars, if_neg star, List.count_cons_of_ne star]
      constructor
      · rintro ⟨runs, count, rfl⟩
        obtain ⟨rest, same, covers⟩ := (ih _).1 ⟨runs, count, rfl⟩
        exact ⟨rest, congrArg (c :: ·) same, covers⟩
      · rintro ⟨rest, rfl, covers⟩
        obtain ⟨runs, count, same⟩ := (ih _).2 ⟨rest, rfl, covers⟩
        exact ⟨runs, count, congrArg (c :: ·) same⟩

/-- A pattern accepts exactly the texts that come of it when each of its stars is replaced by a run of
characters, which may be empty. -/
theorem accepts_iff_replaced (pattern target : String) :
    accepts pattern target = true ↔
      ∃ runs : List (List Char), runs.length = pattern.toList.count '*' ∧
        String.ofList (replaceStars pattern.toList runs) = target := by
  rw [accepts, matchChars_iff, ← replaced_iff]
  simp only [← String.toList_inj, String.toList_ofList]

/-- The last piece may not share characters with the ones before it. -/
example : accepts "ab*ba" "aba" = false ∧ accepts "ab*ba" "abba" = true := by decide +kernel

end Weave.Glob
