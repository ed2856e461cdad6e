import Weave.NameRule
import Weave.Proofs.StarPatterns

/-! Name rules beside patterns with stars. A rule knows one star, at its beginning or at its end, and takes
any other for an ordinary character. As a pattern it accepts all that it selects, since each of the
other stars may stand for itself; it accepts no more exactly if there is no other star. -/

namespace Weave

namespace Glob

theorem matchChars_iff_runs (pattern target : List Char) :
    matchChars pattern target = true ↔
      ∃ runs, runs.length = pattern.count '*' ∧ replaceStars pattern runs = target :=
  (matchChars_iff pattern target).trans (replaced_iff pattern target).symm

theorem replaceStars_append (front back : List Char) {runs : List (List Char)}
    (count : runs.length = front.count '*') (more : List (List Char)) :
    replaceStars (front ++ back) (runs ++ more) = replaceStars front runs ++ replaceStars back more := by
  induction front generalizing runs with
  | nil =>
    rw [List.count_nil, List.length_eq_zero_iff] at count
    rw [count, List.nil_append, List.nil_append, replaceStars, List.nil_append]
  | cons c front ih =>
    by_cases star : c = '*'
    · subst star
      rw [List.count_cons_self] at count
      obtain ⟨run, runs, rfl⟩ := List.exists_cons_of_length_eq_add_one count
      calc
        replaceStars ('*' :: (front ++ back)) (run :: (runs ++ more))
          = run ++ replaceStars (front ++ back) (runs ++ more) := rfl
        _ = run ++ (replaceStars front runs ++ replaceStars back more) := by rw [ih (Nat.succ.inj count)]
        _ = replaceStars ('*' :: front) (run :: runs) ++ replaceStars back more :=
          (List.append_assoc ..).symm
    · rw [List.count_cons_of_ne star] at count
      rw [List.cons_append, replaceStars, if_neg star, ih count, replaceStars, if_neg star,
        List.cons_append]

theorem replaceStars_replicate (pattern run : List Char) :
    replaceStars pattern (List.replicate (pattern.count '*') run) =
      pattern.flatMap fun c => if c = '*' then run else [c] := by
  induction pattern with
  | nil => rfl
  | cons c pattern ih =>
    by_cases star : c = '*'
    · subst star
      rw [List.count_cons_self, List.replicate_succ, List.flatMap_cons, if_pos rfl, ← ih]
      rfl
    · rw [List.count_cons_of_ne star, replaceStars, if_neg star, ih, List.flatMap_cons, if_neg star]
      rfl

/-- A star may stand for itself. -/
theorem replaceStars_own (pattern : List Char) :
    replaceStars pattern (List.replicate (pattern.count '*') ['*']) = pattern := by
  have kept (c : Char) : (if c = '*' then ['*'] else [c]) = [c] := by
    by_cases star : c = '*'
    · rw [if_pos star, star]
    · rw [if_neg star]
  rw [replaceStars_replicate]
  simp only [kept, List.flatMap_singleton']

theorem replaceStars_plain {text : List Char} (plain : '*' ∉ text) : replaceStars text [] = text := by
  have own := replaceStars_own text
  rwa [List.count_eq_zero_of_not_mem plain] at own

theorem not_mem_replaceStars_nil (pattern : List Char) :
    '*' ∉ replaceStars pattern (List.replicate (pattern.count '*') []) := by
  rw [replaceStars_replicate, List.mem_flatMap]
  rintro ⟨c, -, inside⟩
  by_cases star : c = '*'
  · rw [if_pos star] at inside
    contradiction
  · rw [if_neg star, List.mem_singleton] at inside
    exact star inside.symm

/-! ### What a pattern accepts -/

theorem matchChars_replicate (pattern run : List Char) :
    matchChars pattern (replaceStars pattern (List.replicate (pattern.count '*') run)) = true :=
  (matchChars_iff_runs _ _).2 ⟨_, List.length_replicate, rfl⟩

theorem matchChars_own (pattern : List Char) : matchChars pattern pattern = true := by
  have matched := matchChars_replicate pattern ['*']
  rwa [replaceStars_own] at matched

theorem matchChars_stem (stem tail : List Char) : matchChars (stem ++ ['*']) (stem ++ tail) = true := by
  refine (matchChars_iff_runs _ _).2 ⟨List.replicate (stem.count '*') ['*'] ++ [tail], ?_, ?_⟩
  · rw [List.length_append, List.length_replicate, List.count_append]
    rfl
  · rw [replaceStars_append _ _ List.length_replicate, replaceStars_own]
    exact congrArg (stem ++ ·) (List.append_nil tail)

theorem matchChars_ending (ending front : List Char) :
    matchChars ('*' :: ending) (front ++ ending) = true := by
  refine (matchChars_iff_runs _ _).2 ⟨front :: List.replicate (ending.count '*') ['*'], ?_, ?_⟩
  · rw [List.length_cons, List.length_replicate, List.count_cons_self]
  · exact congrArg (front ++ ·) (replaceStars_own ending)

theorem stem_of_matchChars {stem target : List Char} (plain : '*' ∉ stem)
    (matched : matchChars (stem ++ ['*']) target = true) : ∃ tail, target = stem ++ tail := by
  obtain ⟨runs, -, rfl⟩ := (matchChars_iff_runs _ _).1 matched
  have none : ([] : List (List Char)).length = stem.count '*' :=
    (List.count_eq_zero_of_not_mem plain).symm
  refine ⟨replaceStars ['*'] runs, ?_⟩
  calc
    replaceStars (stem ++ ['*']) runs = replaceStars stem [] ++ replaceStars ['*'] runs :=
      replaceStars_append stem ['*'] none runs
    _ = stem ++ replaceStars ['*'] runs := by rw [replaceStars_plain plain]

theorem ending_of_matchChars {ending target : List Char} (plain : '*' ∉ ending)
    (matched : matchChars ('*' :: ending) target = true) : ∃ front, target = front ++ ending := by
  obtain ⟨runs, count, rfl⟩ := (matchChars_iff_runs _ _).1 matched
  rw [List.count_cons_self, List.count_eq_zero_of_not_mem plain] at count
  obtain ⟨run, rfl⟩ := List.length_eq_one_iff.1 count
  exact ⟨run, congrArg (run ++ ·) (replaceStars_plain plain)⟩

end Glob

namespace NameRule

theorem matchesStem_iff (rule name : List Char) :
    matchesStem rule name = true ↔ ∃ stem tail, rule = stem ++ ['*'] ∧ name = stem ++ tail := by
  simp only [matchesStem, Bool.and_eq_true, beq_iff_eq, List.isPrefixOf_iff_prefix]
  constructor
  · rintro ⟨star, tail, same⟩
    exact ⟨rule.dropLast, tail, (List.dropLast_append_getLast? _ star).symm, same.symm⟩
  · rintro ⟨stem, tail, rfl, rfl⟩
    rw [List.dropLast_concat]
    exact ⟨List.getLast?_concat, List.prefix_append stem tail⟩

theorem matchesEnding_iff (rule name : List Char) :
    matchesEnding rule name = true ↔ ∃ ending front, rule = '*' :: ending ∧ name = front ++ ending := by
  constructor
  · intro matched
    unfold matchesEnding at matched
    split at matched
    · obtain ⟨front, same⟩ := List.isSuffixOf_iff_suffix.1 matched
      exact ⟨_, front, rfl, same.symm⟩
    · contradiction
  · rintro ⟨ending, front, rfl, rfl⟩
    exact List.isSuffixOf_iff_suffix.2 (List.suffix_append front ending)

theorem selects_iff (rule name : String) :
    selects rule name = true ↔
      name.toList = rule.toList ∨
        (∃ stem tail, rule.toList = stem ++ ['*'] ∧ name.toList = stem ++ tail) ∨
        ∃ ending front, rule.toList = '*' :: ending ∧ name.toList = front ++ ending := by
  rw [selects, covers, Bool.or_eq_true, Bool.or_eq_true, beq_iff_eq, matchesStem_iff, matchesEnding_iff,
    String.toList_inj]

/-- A name part alone, or with one star behind it or in front of it. -/
inductive Simple : List Char → Prop
  | plain {part : List Char} (unstarred : '*' ∉ part) : Simple part
  | stem {part : List Char} (unstarred : '*' ∉ part) : Simple (part ++ ['*'])
  | ending {part : List Char} (unstarred : '*' ∉ part) : Simple ('*' :: part)

theorem accepts_of_selects {rule name : String} (selected : selects rule name = true) :
    Glob.accepts rule name = true := by
  rw [Glob.accepts]
  rcases (selects_iff rule name).1 selected with
    same | ⟨stem, tail, shape, same⟩ | ⟨ending, front, shape, same⟩
  · rw [same]
    exact Glob.matchChars_own _
  · rw [shape, same]
    exact Glob.matchChars_stem stem tail
  · rw [shape, same]
    exact Glob.matchChars_ending ending front

theorem selects_of_accepts {rule name : String} (simple : Simple rule.toList)
    (accepted : Glob.accepts rule name = true) : selects rule name = true := by
  rw [selects_iff]
  rw [Glob.accepts] at accepted
  generalize rule.toList = text at simple accepted
  cases simple with
  | plain unstarred =>
    obtain ⟨rest, same, covers⟩ := (Glob.matchChars_iff _ _).1 accepted
    rw [Glob.pieces_of_plain unstarred] at same covers
    rw [Glob.covers_nil.1 covers, List.append_nil] at same
    exact .inl same
  | stem unstarred =>
    obtain ⟨tail, same⟩ := Glob.stem_of_matchChars unstarred accepted
    exact .inr (.inl ⟨_, tail, rfl, same⟩)
  | ending unstarred =>
    obtain ⟨front, same⟩ := Glob.ending_of_matchChars unstarred accepted
    exact .inr (.inr ⟨_, front, rfl, same⟩)

/-- The rule's own text without its stars tells the two apart. -/
theorem simple_of_agrees {rule : String} (agrees : ∀ name, selects rule name = Glob.accepts rule name) :
    Simple rule.toList := by
  let name := Glob.replaceStars rule.toList (List.replicate (rule.toList.count '*') [])
  have unstarred : '*' ∉ name := Glob.not_mem_replaceStars_nil rule.toList
  have accepted : Glob.accepts rule (String.ofList name) = true := by
    rw [Glob.accepts, String.toList_ofList]
    exact Glob.matchChars_replicate rule.toList []
  rw [← agrees, selects_iff, String.toList_ofList] at accepted
  rcases accepted with same | ⟨stem, tail, shape, same⟩ | ⟨ending, front, shape, same⟩
  · exact same ▸ .plain unstarred
  · rw [same, List.mem_append, not_or] at unstarred
    exact shape ▸ .stem unstarred.1
  · rw [same, List.mem_append, not_or] at unstarred
    exact shape ▸ .ending unstarred.2

/-- As a pattern, a rule accepts every name that it selects, and accepts no other names exactly if it is a
name part alone or with one star, first or last. -/
theorem selects_within_pattern (rule : String) :
    (∀ name, selects rule name = true → Glob.accepts rule name = true) ∧
      ((∀ name, selects rule name = Glob.accepts rule name) ↔ Simple rule.toList) := by
  refine ⟨fun name => accepts_of_selects, simple_of_agrees, fun simple name => ?_⟩
  exact Bool.eq_iff_iff.2 ⟨accepts_of_selects, selects_of_accepts simple⟩

example : selects "get*by*" "get*by_id" = true ∧ selects "get*by*" "get_by_id" = false ∧
    Glob.accepts "get*by*" "get_by_id" = true := by decide +kernel

end NameRule

end Weave
