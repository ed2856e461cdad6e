import Weave.BasicTypes
import Weave.Pointcut.Matchers
import Weave.Proofs.PatternRounds
import Weave.Proofs.WholeMatches

/-! Patterns between anchors. A pattern is compiled by putting its text into a larger one, `^(?:…)$`, and
only that text is read. If no closing parenthesis in it stands behind a complete pattern, the text is read
there as it is by itself and matches whole names. Otherwise the group is closed too early: a text that is
no pattern can be compiled, and its alternatives are not anchored. -/

namespace Weave

namespace Regex

open Leftover

/-- A text is a pattern to its end: it is one, and a closing parenthesis behind it is one too many. In a
comment that is still open it would not be. -/
def IsWhole (text : String) : Prop :=
  (Pattern.read? text).isSome = true ∧ Pattern.read? (text ++ ")") = none

/-- No closing parenthesis of a text stands behind a whole pattern. -/
def Contained (text : String) : Prop :=
  ∀ before after, text = before ++ ")" ++ after → ¬ IsWhole before

def anchorGroup : List (GroupKind × Level) := [(.plain {}, ({} : Level).push (.mark .lineStart))]

def Pattern.anchored (body : Pattern) : Pattern :=
  .sequence [.mark .lineStart, .group (.plain {}) body, .mark .lineEnd]

theorem read_toList (text : String) : Pattern.read? text = ({} : Progress).read? text.toList :=
  patternLoop_eq _ _ _

theorem read_anchored (text : String) :
    Pattern.read? ("^(?:" ++ text ++ ")$") =
      (({} : Progress).within anchorGroup).read? (text.toList ++ [')', '$']) := by
  have spelled : ("^(?:" ++ text ++ ")$").toList =
      '^' :: '(' :: '?' :: ':' :: (text.toList ++ [')', '$']) := by
    rw [String.toList_append, String.toList_append]
    rfl
  rw [read_toList, spelled, Progress.read_turn (c := '^') rfl]
  change (({} : Progress).push (.mark .lineStart)).read? _ = _
  rw [Progress.read_turn (c := '(') rfl]
  rfl

namespace Progress

theorem within_nil (progress : Progress) : progress.within [] = progress := by
  unfold within
  rw [List.append_nil]

variable {text : List Char} {last : Progress}

theorem Ends.whole (ends : Ends {} text last) (outermost : last.outer = []) :
    (({} : Progress).read? text).isSome = true ∧
      ∀ more, ({} : Progress).read? (text ++ ')' :: more) = none := by
  constructor
  · rw [ends.alone, finish?, outermost]
    rfl
  · intro more
    have ahead : skip last.level.verbose (')' :: more) = ')' :: more := settled_closing _ more
    rw [← within_nil {}, ends.behind, within_nil, read_turn ahead]
    change (last.leave?.map _).bind _ = none
    rw [leave?, outermost]
    rfl

theorem Ends.anchored (ends : Ends {} text last) (outermost : last.outer = []) :
    (({} : Progress).within anchorGroup).read? (text ++ [')', '$']) = some last.level.pattern.anchored := by
  have ahead : skip (last.within anchorGroup).level.verbose [')', '$'] = [')', '$'] := settled_closing _ ['$']
  obtain ⟨level, outer, groups, names⟩ := last
  subst outermost
  rw [ends.behind, read_turn ahead]
  change Progress.read? _ ['$'] = _
  rw [read_turn (c := '$') rfl]
  change Progress.read? _ [] = _
  rw [read_ended rfl]
  rfl

theorem Ends.unclosed (ends : Ends {} text last) (opened : last.outer ≠ []) :
    ({} : Progress).read? text = none ∧
      (({} : Progress).within anchorGroup).read? (text ++ [')', '$']) = none := by
  constructor
  · rw [ends.alone]
    exact if_neg fun empty => opened (List.isEmpty_iff.1 empty)
  · have ahead : skip (last.within anchorGroup).level.verbose [')', '$'] = [')', '$'] :=
      settled_closing _ ['$']
    rw [ends.behind, read_step ahead, step_within anchorGroup fun _ => opened]
    cases turned : last.step? ['$'] (turnKind ')') with
    | none => rfl
    | some next =>
      have dollar := (last.readsOn_step (turnKind ')') ['$']).suffix turned
      exact read_unclosed (List.cons_ne_nil _ _) dollar

end Progress

/-- The ways in which a text is not whole: a group stays open, or too many are closed, or it is lost. -/
theorem isWhole_iff {text : String} : IsWhole text ↔
    ∃ last, Progress.Ends {} text.toList last ∧ last.outer = [] := by
  constructor
  · rintro ⟨alone, closed⟩
    rw [read_toList] at alone closed
    rw [String.toList_append] at closed
    cases Progress.outcome {} text.toList with
    | ends last ends =>
      by_cases outermost : last.outer = []
      · exact ⟨last, ends, outermost⟩
      · rw [(ends.unclosed outermost).1] at alone
        contradiction
    | overcloses before after last split ends outermost =>
      rw [split, (ends.whole outermost).2 after] at alone
      contradiction
    | lost missing around =>
      rcases missing with missing | same
      · rw [missing] at alone
        contradiction
      · rw [← same] at alone
        exact nomatch (congrArg Option.isSome closed).symm.trans alone
  · rintro ⟨last, ends, outermost⟩
    obtain ⟨alone, behind⟩ := ends.whole outermost
    refine ⟨(congrArg Option.isSome (read_toList text)).trans alone, ?_⟩
    rw [read_toList, String.toList_append]
    exact behind []

/-- A pattern is contained: all its closing parentheses end groups of its own. -/
theorem contained_of_read {text : String} (read : (Pattern.read? text).isSome = true) : Contained text := by
  rintro before after rfl whole
  obtain ⟨last, ends, outermost⟩ := isWhole_iff.1 whole
  have split : (before ++ ")" ++ after).toList = before.toList ++ ')' :: after.toList := by
    rw [String.toList_append, String.toList_append, List.append_assoc]
    rfl
  rw [read_toList, split, (ends.whole outermost).2 after.toList] at read
  contradiction

/-- Between anchors, a contained text is read as by itself, if it is a pattern to its end, and else refused. -/
theorem read_anchored_iff {text : String} (contained : Contained text) (pattern : Pattern) :
    Pattern.read? ("^(?:" ++ text ++ ")$") = some pattern ↔
      IsWhole text ∧ ∃ body, Pattern.read? text = some body ∧ pattern = body.anchored := by
  rw [read_anchored]
  by_cases whole : IsWhole text
  · obtain ⟨last, ends, outermost⟩ := isWhole_iff.1 whole
    have alone : Pattern.read? text = some last.level.pattern := by
      rw [read_toList, ends.alone, Progress.finish?, outermost]
      rfl
    rw [ends.anchored outermost, alone]
    constructor
    · intro same
      exact ⟨whole, _, rfl, (Option.some.inj same).symm⟩
    · rintro ⟨-, body, found, rfl⟩
      obtain rfl := Option.some.inj found
      rfl
  · refine iff_of_false (fun read => ?_) fun both => whole both.1
    cases Progress.outcome {} text.toList with
    | ends last ends =>
      by_cases outermost : last.outer = []
      · exact whole (isWhole_iff.2 ⟨last, ends, outermost⟩)
      · exact nomatch (ends.unclosed outermost).2.symm.trans read
    | overcloses before after last split ends outermost =>
      refine contained (String.ofList before) (String.ofList after) ?_ (isWhole_iff.2 ⟨last, ?_, outermost⟩)
      · rw [← String.toList_inj, split]
        simp only [String.toList_append, String.toList_ofList, List.append_assoc]
        rfl
      · rwa [String.toList_ofList]
    | lost _ around => exact nomatch (around anchorGroup (List.cons_ne_nil _ _)).symm.trans read

/-! ### Compiling -/

/-- What a text spells, whatever its size. -/
structure Spells (text : String) (body : Pattern) (regex : Regex) : Prop where
  read : Pattern.read? text = some body
  meaning : ∃ flags, body.regex? {} = some (regex, flags)

def IsSmall (body : Pattern) (regex : Regex) : Prop :=
  body.depth ≤ deepestNesting ∧ (regex.isWordSearch || regex.fitsAutomata) = true

theorem parse_eq_some {text : String} {regex : Regex} :
    parse? text = some regex ↔ ∃ body, Spells text body regex ∧ IsSmall body regex := by
  have holds {condition : Prop} [Decidable condition] {given : Unit}
      (kept : (guard condition : Option Unit) = some given) : condition := by
    unfold guard at kept
    split at kept
    · assumption
    · contradiction
  unfold parse?
  constructor
  · intro found
    obtain ⟨body, read, found⟩ := Option.bind_eq_some_iff.1 found
    obtain ⟨_, shallow, found⟩ := Option.bind_eq_some_iff.1 found
    obtain ⟨⟨other, flags⟩, meaning, found⟩ := Option.bind_eq_some_iff.1 found
    obtain ⟨_, fits, found⟩ := Option.bind_eq_some_iff.1 found
    obtain rfl := Option.some.inj found
    exact ⟨body, ⟨read, flags, meaning⟩, holds shallow, holds fits⟩
  · rintro ⟨body, ⟨read, flags, meaning⟩, shallow, fits⟩
    simp only [read, meaning, Option.bind_eq_bind, Option.bind_some, guard, if_pos shallow, if_pos fits]
    rfl

theorem depth_anchored (body : Pattern) : body.anchored.depth = body.depth + 2 := by
  unfold Pattern.anchored
  simp only [Pattern.depth, Pattern.depthOfAll]
  omega

theorem regex_anchored (body : Pattern) :
    body.anchored.regex? {} = (body.regex? {}).map fun inner => (inner.1.between, {}) := by
  have unchanged : ({} : Flags).change {} = {} := rfl
  unfold Pattern.anchored
  simp only [Pattern.regex?, Pattern.regexes?, Option.bind_eq_bind, Option.bind_some, unchanged]
  cases body.regex? {} <;> rfl

theorem spells_anchored {text : String} {body : Pattern} {regex compiled : Regex}
    (spells : Spells text body regex) :
    (∃ flags, body.anchored.regex? {} = some (compiled, flags)) ↔ compiled = regex.between := by
  obtain ⟨flags, meaning⟩ := spells.meaning
  rw [regex_anchored, meaning]
  constructor
  · rintro ⟨_, same⟩
    exact (congrArg Prod.fst (Option.some.inj same)).symm
  · rintro rfl
    exact ⟨{}, rfl⟩

/-- What a text comes to between anchors, where two more levels of nesting and the anchors count. -/
structure Compiles (text : String) (body : Pattern) (regex : Regex) : Prop where
  whole : IsWhole text
  spells : Spells text body regex
  shallow : body.depth + 2 ≤ deepestNesting
  fits : (regex.between.isWordSearch || regex.between.fitsAutomata) = true

theorem anchored_eq_some {text : String} (contained : Contained text) {compiled : Regex} :
    anchored? text = some compiled ↔ ∃ body regex, Compiles text body regex ∧ compiled = regex.between := by
  unfold anchored?
  rw [parse_eq_some]
  constructor
  · rintro ⟨pattern, ⟨read, meaning⟩, shallow, fits⟩
    obtain ⟨whole, body, alone, rfl⟩ := (read_anchored_iff contained pattern).1 read
    obtain ⟨regex, flags, inner⟩ : ∃ regex flags, body.regex? {} = some (regex, flags) := by
      obtain ⟨_, meaning⟩ := meaning
      rw [regex_anchored] at meaning
      obtain ⟨inner, found, -⟩ := Option.map_eq_some_iff.1 meaning
      exact ⟨inner.1, inner.2, found⟩
    have spells : Spells text body regex := ⟨alone, flags, inner⟩
    obtain rfl := (spells_anchored spells).1 meaning
    rw [depth_anchored] at shallow
    exact ⟨body, regex, ⟨whole, spells, shallow, fits⟩, rfl⟩
  · rintro ⟨body, regex, ⟨whole, spells, shallow, fits⟩, rfl⟩
    have read := (read_anchored_iff contained body.anchored).2 ⟨whole, body, spells.read, rfl⟩
    refine ⟨body.anchored, ⟨read, (spells_anchored spells).2 rfl⟩, ?_, fits⟩
    rwa [depth_anchored]

end Regex

/-! ### Matchers of one pattern -/

namespace RegexRules

open Regex

def refusal (text : String) : ConfigError := .invalidPointcut ("invalid regex '" ++ text ++ "'")

variable {text : String}

theorem readAll_compiled {regex : Regex} (compiled : anchored? text = some regex) :
    readAll anchored? [text] = .ok [regex] := by
  rw [readAll, compiled]
  rfl

theorem readAll_refused (refused : anchored? text = none) :
    readAll anchored? [text] = .error (refusal text) := by
  rw [readAll, refused]
  rfl

theorem read_excluding {patterns : List String} {rules : RegexRules}
    (read : RegexRules.read patterns = .ok rules) :
    rules.excluded = [] ∧ ∀ excluded, RegexRules.read patterns excluded =
      (readAll anchored? excluded).map fun excluded => ⟨rules.patterns, excluded⟩ := by
  unfold RegexRules.read at read ⊢
  cases included : readAll anchored? patterns with
  | error error =>
    rw [included] at read
    contradiction
  | ok regexes =>
    rw [included] at read
    obtain rfl := Except.ok.inj read
    refine ⟨rfl, fun excluded => ?_⟩
    cases readAll anchored? excluded <;> rfl

theorem read_compiled {regex : Regex} (compiled : anchored? text = some regex) :
    RegexRules.read [text] = .ok ⟨[regex], []⟩ := by
  unfold RegexRules.read
  rw [readAll_compiled compiled]
  rfl

theorem read_refused (refused : anchored? text = none) : RegexRules.read [text] = .error (refusal text) := by
  unfold RegexRules.read
  rw [readAll_refused refused]
  rfl

theorem acceptsName_between (regex : Regex) (name : String) :
    acceptsName ⟨[regex.between], []⟩ name = regex.matchesAll name := by
  rw [acceptsName, ← occursIn_between]
  simp only [List.any_cons, List.any_nil, Bool.or_false, Bool.not_false, Bool.and_true]

theorem exclusion_compiled {regex : Regex} (compiled : anchored? text = some regex.between)
    {patterns : List String} {rules : RegexRules} (read : RegexRules.read patterns = .ok rules) :
    ∃ fewer, RegexRules.read patterns [text] = .ok fewer ∧
      ∀ name, fewer.acceptsName name = (rules.acceptsName name && !regex.matchesAll name) := by
  obtain ⟨none, excluding⟩ := read_excluding read
  refine ⟨⟨rules.patterns, [regex.between]⟩, ?_, fun name => ?_⟩
  · rw [excluding, readAll_compiled compiled]
    rfl
  · rw [acceptsName, acceptsName, none, ← occursIn_between]
    simp only [List.any_cons, List.any_nil, Bool.or_false, Bool.not_false, Bool.and_true]

theorem exclusion_refused (refused : anchored? text = none) {patterns : List String} {rules : RegexRules}
    (read : RegexRules.read patterns = .ok rules) :
    RegexRules.read patterns [text] = .error (refusal text) := by
  rw [(read_excluding read).2, readAll_refused refused]
  rfl

section
variable [ValueTypes]

theorem pointcut_compiled {regex : Regex} (compiled : anchored? text = some regex.between) :
    ∃ pointcut, Pointcut.regex [text] = .ok pointcut ∧ ∀ method cls, pointcut.matchesMethod method cls =
      (regex.matchesAll (qualified method.declaringType method) ||
        (cls.name != method.declaringType && regex.matchesAll (qualified cls.name method))) := by
  refine ⟨⟨fun _ => true, matcher ⟨[regex.between], []⟩⟩, ?_, fun method cls => ?_⟩
  · rw [Pointcut.regex, read_compiled compiled]
    rfl
  · rw [← acceptsName_between, ← acceptsName_between]
    rfl

/-- A text that closes no group but its own is compiled exactly if it spells a regular expression to its
end, within the limits of size. It then accepts the names that the regular expression by itself matches
from the first character to the last; as an exclusion it takes those away. Every regular expression by
itself is such a text, and spells what it is. -/
theorem pattern_compiled (text : String) :
    (Contained text →
      (∀ body regex, Compiles text body regex →
        (∃ rules, RegexRules.read [text] = .ok rules ∧
          ∀ name, rules.acceptsName name = regex.matchesAll name) ∧
        (∃ pointcut, Pointcut.regex [text] = .ok pointcut ∧
          ∀ method cls, pointcut.matchesMethod method cls =
            (regex.matchesAll (qualified method.declaringType method) ||
              (cls.name != method.declaringType && regex.matchesAll (qualified cls.name method)))) ∧
        ∀ patterns rules, RegexRules.read patterns = .ok rules →
          ∃ fewer, RegexRules.read patterns [text] = .ok fewer ∧
            ∀ name, fewer.acceptsName name = (rules.acceptsName name && !regex.matchesAll name)) ∧
      ((¬ ∃ body regex, Compiles text body regex) →
        RegexRules.read [text] = .error (refusal text) ∧ Pointcut.regex [text] = .error (refusal text) ∧
        ∀ patterns rules, RegexRules.read patterns = .ok rules →
          RegexRules.read patterns [text] = .error (refusal text))) ∧
    (∀ regex, parse? text = some regex → Contained text ∧ ∃ body, Spells text body regex) := by
  refine ⟨fun contained => ⟨fun body regex compiles => ?_, fun missing => ?_⟩, fun regex alone => ?_⟩
  · have compiled := (anchored_eq_some contained).2 ⟨body, regex, compiles, rfl⟩
    refine ⟨?_, pointcut_compiled compiled, fun patterns rules read => exclusion_compiled compiled read⟩
    exact ⟨_, read_compiled compiled, acceptsName_between regex⟩
  · have refused : anchored? text = none := by
      cases outcome : anchored? text with
      | none => rfl
      | some compiled =>
        obtain ⟨body, regex, compiles, -⟩ := (anchored_eq_some contained).1 outcome
        exact (missing ⟨body, regex, compiles⟩).elim
    refine ⟨read_refused refused, ?_, fun patterns rules read => exclusion_refused refused read⟩
    rw [Pointcut.regex, read_refused refused]
    rfl
  · obtain ⟨body, spells, -⟩ := parse_eq_some.1 alone
    exact ⟨contained_of_read (Option.isSome_of_eq_some spells.read), body, spells⟩

end

namespace Parentheses

def grouped : String := "(Alpha)::run"

theorem grouped_compiled : ∃ rules, ∃ regex : Regex, RegexRules.read [grouped] = .ok rules ∧
    (∀ name, rules.acceptsName name = regex.matchesAll name) ∧
    rules.acceptsName "Alpha::run" = true ∧ rules.acceptsName "Alpha::runner" = false := by
  have contained : Contained grouped := contained_of_read (by decide +kernel)
  obtain ⟨compiled, refused⟩ := (pattern_compiled grouped).1 contained
  have verdicts : (RegexRules.read [grouped]).toOption.any (fun rules =>
      rules.acceptsName "Alpha::run" && !rules.acceptsName "Alpha::runner") = true := by
    decide +kernel
  by_cases compiles : ∃ body regex, Compiles grouped body regex
  · obtain ⟨body, regex, compiles⟩ := compiles
    obtain ⟨⟨rules, read, names⟩, -⟩ := compiled body regex compiles
    rw [read] at verdicts
    obtain ⟨taken, left⟩ := Bool.and_eq_true_iff.1 verdicts
    exact ⟨rules, regex, read, names, taken, (Bool.not_eq_true' _).mp left⟩
  · rw [(refused compiles).1] at verdicts
    contradiction

/-- A group is closed that is not open, and another is opened that is not closed. -/
def crossed : String := "Alpha::run)|(?:Beta::stop"

/-- By itself this is no regular expression. Between anchors it is one, and the beginning of a name is
enough for it. -/
theorem crossed_compiled : parse? crossed = none ∧
    ∃ rules, RegexRules.read [crossed] = .ok rules ∧ rules.acceptsName "Alpha::runner" = true := by
  have alone : Pattern.read? crossed = none := by
    rw [← Option.isNone_iff_eq_none]
    decide +kernel
  have beginning :
      (concat (.look .textStart) (.literal "Alpha::run".toList)).occursIn "Alpha::runner" = true := by
    decide +kernel
  obtain ⟨regex, anchored, accepts⟩ :
      ∃ regex, anchored? crossed = some regex ∧ regex.occursIn "Alpha::runner" = true := by
    refine ⟨.alternate (.concat (.look .textStart) (.literal "Alpha::run".toList))
      (.concat (.literal "Beta::stop".toList) (.look .textEnd)), by decide +kernel, ?_⟩
    rw [occursIn_alternate, beginning, Bool.true_or]
  constructor
  · rw [parse?, alone]
    rfl
  · refine ⟨⟨[regex], []⟩, read_compiled anchored, ?_⟩
    rw [acceptsName, List.any_cons, accepts]
    rfl

end Parentheses

end RegexRules

end Weave
