import Weave.Proofs.GroupReading

/-! The main loop with more behind the text. A pattern is read to its end, or up to a closing parenthesis
that ends no group of its own. Or else it cannot be read, or a comment takes the rest of the text; then a
closing parenthesis behind it and the end of a line do not make it a pattern. -/

namespace Weave.Regex

open Leftover

/-! ### Rounds -/

inductive TurnKind where
  | group
  | close
  | bar
  | set
  | repetition (least : Nat) (most : Option Nat)
  | counts
  | escape
  | item (item : Primitive)

def turnKind : Char → TurnKind
  | '(' => .group
  | ')' => .close
  | '|' => .bar
  | '[' => .set
  | '?' => .repetition 0 (some 1)
  | '*' => .repetition 0 none
  | '+' => .repetition 1 none
  | '\x7b' => .counts
  | '\\' => .escape
  | '.' => .item .dot
  | '^' => .item (.mark .lineStart)
  | '$' => .item (.mark .lineEnd)
  | c => .item (.literal ⟨c, false⟩)

namespace Progress

def add (progress : Progress) (read : Primitive × List Char) : Progress × List Char :=
  (progress.push read.1.pattern, read.2)

def repeat? (progress : Progress) (least : Nat) (most : Option Nat) (text : List Char) :
    Option (Progress × List Char) :=
  (progress.level.repeatLast? least most (greediness text).1).map
    fun level => ({ progress with level }, (greediness text).2)

def counted? (progress : Progress) (text : List Char) : Option (Progress × List Char) :=
  (counts? progress.level.verbose text).bind fun read =>
    progress.repeat? read.1 read.2.1 (skip progress.level.verbose read.2.2)

def turn? (progress : Progress) (text : List Char) : TurnKind → Option (Progress × List Char)
  | .group => (opening? progress.level.verbose progress.names text).map progress.openGroup
  | .close => progress.leave?.map (·, text)
  | .bar => some ({ progress with level := progress.level.bar }, text)
  | .set => (bracket? progress.level.verbose text).map fun read => (progress.push read.1, read.2)
  | .repetition least most => progress.repeat? least most text
  | .counts => progress.counted? text
  | .escape => (escape? progress.level.verbose text).map progress.add
  | .item item => some (progress.push item.pattern, text)

def round? (progress : Progress) : List Char → Option (Round Pattern Progress)
  | [] => progress.finish?.map .inl
  | c :: rest => (progress.turn? rest (turnKind c)).map .inr

def settledRound? (progress : Progress) (text : List Char) : Option (Round Pattern Progress) :=
  progress.round? (skip progress.level.verbose text)

end Progress

theorem patternLoop_eq (bound : Nat) (progress : Progress) (text : List Char) :
    patternLoop? bound progress text = rounds Progress.settledRound? bound progress text := by
  induction bound generalizing progress text with
  | zero => rfl
  | succ bound ih =>
    have repeated (least : Nat) (most : Option Nat) (text : List Char) {other : Option Pattern}
        (refuses : progress.level.repeatLast? least most (greediness text).1 = none → other = none)
        (goes : ∀ level, progress.level.repeatLast? least most (greediness text).1 = some level →
          other = patternLoop? bound { progress with level } (greediness text).2) :
        other = ((progress.repeat? least most text).map .inr).bind (Sum.elim some fun next =>
          rounds Progress.settledRound? bound next.1 next.2) := by
      unfold Progress.repeat?
      cases given : progress.level.repeatLast? least most (greediness text).1 with
      | none => exact refuses given
      | some level => exact (goes level given).trans (ih _ _)
    rw [patternLoop?, rounds, Progress.settledRound?]
    generalize skip progress.level.verbose text = settled
    split
    · unfold Progress.round?
      cases progress.finish? <;> rfl
    · rename_i rest
      change _ = (((opening? _ _ rest).map _).map _).bind _
      cases opening? progress.level.verbose progress.names rest with
      | none => rfl
      | some opening => exact ih _ _
    · change _ = ((progress.leave?.map _).map _).bind _
      cases progress.leave? with
      | none => rfl
      | some progress => exact ih _ _
    · exact ih _ _
    · rename_i rest
      change _ = (((bracket? _ rest).map _).map _).bind _
      cases bracket? progress.level.verbose rest with
      | none => rfl
      | some read => exact ih _ _
    · exact repeated 0 (some 1) _ (fun refused => by simp only [refused]) fun _ found => by simp only [found]
    · exact repeated 0 none _ (fun refused => by simp only [refused]) fun _ found => by simp only [found]
    · exact repeated 1 none _ (fun refused => by simp only [refused]) fun _ found => by simp only [found]
    · rename_i rest
      change _ = ((progress.counted? rest).map _).bind _
      unfold Progress.counted?
      cases counts? progress.level.verbose rest with
      | none => rfl
      | some read =>
        exact repeated read.1 read.2.1 _ (fun refused => by simp only [refused])
          fun _ found => by simp only [found]
    · rename_i rest
      change _ = (((escape? _ rest).map _).map _).bind _
      cases escape? progress.level.verbose rest with
      | none => rfl
      | some read => exact ih _ _
    · exact ih _ _
    · exact ih _ _
    · exact ih _ _
    · rename_i c rest _ _ _ _ _ _ _ _ _ _ _ _
      have kind : turnKind c = .item (.literal ⟨c, false⟩) := by
        unfold turnKind
        split <;> first | contradiction | rfl
      rw [Progress.round?, kind]
      exact ih _ _

/-! ### One turn with more behind the text -/

namespace Progress

variable (progress : Progress)

theorem readsOn_repeat (least : Nat) (most : Option Nat) (text : List Char) :
    ReadsOn (progress.repeat? least most) text := by
  have plain (greedy : Bool) (text : List Char) : ReadsOn (fun text =>
      (progress.level.repeatLast? least most greedy).map fun level => ({ progress with level }, text)) text :=
    .giving (fun _ _ _ => rfl) text
  cases text with
  | nil => exact (plain true []).congr rfl fun _ => rfl
  | cons c rest =>
    by_cases question : c = '?'
    · subst question
      exact (plain false rest).cons fun _ => rfl
    · have greedy (rest : List Char) : greediness (c :: rest) = (true, c :: rest) := by
        simp only [greediness, List.cons.injEq, question, false_and, imp_self, implies_true]
      refine (plain true (c :: rest)).as fun rest => ?_
      rw [repeat?, greedy]

theorem readsOn_counted (text : List Char) : ReadsOn progress.counted? text :=
  (readsOn_counts progress.level.verbose text).andThen fun read text =>
    ReadsOn.skipping progress.level.verbose (progress.readsOn_repeat read.1 read.2.1) text

/-- What follows an escape: a count behind it is read along with it, as only there it shows whether a
boundary has a name in braces. -/
def followed? (read : Primitive × List Char) : Option (Progress × List Char) :=
  if read.2.head? = some '\x7b' then (progress.push read.1.pattern).counted? read.2.tail
  else some (progress.add read)

def step? (text : List Char) : TurnKind → Option (Progress × List Char)
  | .group => progress.turn? text .group
  | .close => progress.turn? text .close
  | .bar => progress.turn? text .bar
  | .set => progress.turn? text .set
  | .repetition least most => progress.turn? text (.repetition least most)
  | .counts => progress.turn? text .counts
  | .escape => (escape? progress.level.verbose text).bind progress.followed?
  | .item item => progress.turn? text (.item item)

theorem readsOn_followed (item : Primitive) (text : List Char) :
    ReadsOn (fun rest => progress.followed? (item, rest)) text := by
  have plain (text : List Char) : ReadsOn (fun rest => some (progress.push item.pattern, rest)) text :=
    .returning (fun _ _ => rfl) text
  cases text with
  | nil => exact (plain []).congr rfl fun _ => rfl
  | cons c rest =>
    by_cases brace : c = '\x7b'
    · subst brace
      exact ((progress.push item.pattern).readsOn_counted rest).cons fun _ => rfl
    · have other (rest : List Char) : ¬ (c :: rest).head? = some '\x7b' := fun same =>
        brace (Option.some.inj same)
      exact (plain (c :: rest)).as fun rest => if_neg (other rest)

theorem readsOn_escapeStep (text : List Char) : ReadsOn (fun text => progress.step? text .escape) text := by
  by_cases firm : Dangling progress.level.verbose text
  · obtain ⟨rest, rfl, blank⟩ := firm
    obtain ⟨alone, behind⟩ := escape_dangling progress.level.verbose blank
    have uncounted (item : Primitive) : Overruns (progress.push item.pattern).counted? rest := by
      have counts : counts? progress.level.verbose rest = none := by
        unfold counts?
        rw [blank]
      have missing : (progress.push item.pattern).counted? rest = none := congrArg (Option.bind · _) counts
      cases (progress.push item.pattern).readsOn_counted rest with
      | within _ found _ _ => exact nomatch missing.symm.trans found
      | drained _ found _ _ _ => exact nomatch missing.symm.trans found
      | short _ overruns => exact overruns
    refine .short ?_ fun more result found => ?_
    · exact congrArg (Option.bind · _) alone
    · obtain ⟨read, early, late⟩ := Option.bind_eq_some_iff.1 found
      rcases behind more read early with brace | passed
      · obtain ⟨item, left⟩ := read
        obtain rfl := brace
        exact uncounted item more result late
      · exact ((progress.readsOn_followed read.1 read.2).suffix late).trans passed
  · exact (readsOn_escape progress.level.verbose firm).andThen fun read text =>
      progress.readsOn_followed read.1 text

theorem readsOn_step (kind : TurnKind) (text : List Char) :
    ReadsOn (fun text => progress.step? text kind) text := by
  cases kind with
  | group =>
    refine .mapped (fun opening text => ?_) (readsOn_opening progress.level.verbose progress.names text)
    cases opening <;> rfl
  | close => exact .giving (fun _ _ _ => rfl) text
  | bar => exact .returning (fun _ _ => rfl) text
  | set => exact .mapped (fun _ _ => rfl) (readsOn_bracket progress.level.verbose text)
  | repetition least most => exact progress.readsOn_repeat least most text
  | counts => exact progress.readsOn_counted text
  | escape => exact progress.readsOn_escapeStep text
  | item item => exact .returning (fun _ _ => rfl) text

theorem turn_suffix {kind : TurnKind} {text : List Char} {next : Progress × List Char}
    (found : progress.turn? text kind = some next) : next.2 <:+ text := by
  cases kind with
  | escape =>
    obtain ⟨read, escaped, rfl⟩ := Option.map_eq_some_iff.1 found
    by_cases firm : Dangling progress.level.verbose text
    · obtain ⟨rest, rfl, blank⟩ := firm
      exact nomatch (escape_dangling progress.level.verbose blank).1.symm.trans escaped
    · exact (readsOn_escape progress.level.verbose firm).suffix escaped
  | group => exact (progress.readsOn_step .group text).suffix found
  | close => exact (progress.readsOn_step .close text).suffix found
  | bar => exact (progress.readsOn_step .bar text).suffix found
  | set => exact (progress.readsOn_step .set text).suffix found
  | repetition least most => exact (progress.readsOn_step (.repetition least most) text).suffix found
  | counts => exact (progress.readsOn_step .counts text).suffix found
  | item item => exact (progress.readsOn_step (.item item) text).suffix found

/-! ### Reading on -/

def read? (text : List Char) : Option Pattern := readRounds settledRound? progress text

theorem read_eq (text : List Char) : progress.read? text =
    (progress.round? (skip progress.level.verbose text)).bind
      (Sum.elim some fun next => next.1.read? next.2) := by
  refine readRounds_eq (fun progress text next found => ?_) progress text
  unfold settledRound? at found
  have settled := (skip_suffix progress.level.verbose text).length_le
  cases ahead : skip progress.level.verbose text with
  | nil =>
    rw [ahead] at found
    obtain ⟨_, _, same⟩ := Option.map_eq_some_iff.1 found
    contradiction
  | cons c rest =>
    rw [ahead] at found settled
    obtain ⟨_, turned, same⟩ := Option.map_eq_some_iff.1 found
    obtain rfl := Sum.inr.inj same
    have shorter := (progress.turn_suffix turned).length_le
    rw [List.length_cons] at settled
    omega

variable {progress}

theorem read_ended {text : List Char} (ended : skip progress.level.verbose text = []) :
    progress.read? text = progress.finish? := by
  rw [read_eq, ended, round?]
  cases progress.finish? <;> rfl

theorem read_turn {text : List Char} {c : Char} {rest : List Char}
    (ahead : skip progress.level.verbose text = c :: rest) :
    progress.read? text = (progress.turn? rest (turnKind c)).bind fun next => next.1.read? next.2 := by
  rw [read_eq, ahead, round?]
  cases progress.turn? rest (turnKind c) <;> rfl

theorem read_step {text : List Char} {c : Char} {rest : List Char}
    (ahead : skip progress.level.verbose text = c :: rest) :
    progress.read? text = (progress.step? rest (turnKind c)).bind fun next => next.1.read? next.2 := by
  rw [read_turn ahead]
  cases turnKind c with
  | escape =>
    change ((escape? _ rest).map _).bind _ = ((escape? _ rest).bind _).bind _
    cases escape? progress.level.verbose rest with
    | none => rfl
    | some read =>
      rw [Option.map_some, Option.bind_some, Option.bind_some, followed?]
      split
      · rename_i brace
        obtain ⟨item, text⟩ := read
        obtain ⟨rest, rfl⟩ := List.head?_eq_some_iff.1 brace
        have settled : skip (progress.push item.pattern).level.verbose ('\x7b' :: rest) = '\x7b' :: rest := by
          change skip progress.level.verbose _ = _
          cases progress.level.verbose <;> rfl
        exact read_turn settled
      · rfl
  | group => rfl
  | close => rfl
  | bar => rfl
  | set => rfl
  | repetition least most => rfl
  | counts => rfl
  | item item => rfl

/-! ### To the end of the text -/

def within (progress : Progress) (around : List (GroupKind × Level)) : Progress :=
  { progress with outer := progress.outer ++ around }

theorem repeat_within (around : List (GroupKind × Level)) (least : Nat) (most : Option Nat)
    (text : List Char) : (progress.within around).repeat? least most text =
      (progress.repeat? least most text).map fun next => (next.1.within around, next.2) := by
  change (progress.level.repeatLast? least most (greediness text).1).map _ =
    ((progress.level.repeatLast? least most (greediness text).1).map _).map _
  cases progress.level.repeatLast? least most (greediness text).1 <;> rfl

theorem counted_within (around : List (GroupKind × Level)) (text : List Char) :
    (progress.within around).counted? text =
      (progress.counted? text).map fun next => (next.1.within around, next.2) := by
  change (counts? progress.level.verbose text).bind _ = ((counts? progress.level.verbose text).bind _).map _
  cases counts? progress.level.verbose text with
  | none => rfl
  | some read => exact repeat_within around read.1 read.2.1 _

/-- The groups around have no part in a turn that does not end them. -/
theorem step_within (around : List (GroupKind × Level)) {kind : TurnKind}
    (inner : kind = .close → progress.outer ≠ []) (text : List Char) :
    (progress.within around).step? text kind =
      (progress.step? text kind).map fun next => (next.1.within around, next.2) := by
  cases kind with
  | group =>
    change (opening? progress.level.verbose progress.names text).map _ =
      ((opening? progress.level.verbose progress.names text).map _).map _
    cases opening? progress.level.verbose progress.names text with
    | none => rfl
    | some opening => cases opening <;> rfl
  | close =>
    obtain ⟨level, outer, groups, names⟩ := progress
    cases outer with
    | nil => exact (inner rfl rfl).elim
    | cons => rfl
  | bar => rfl
  | set =>
    change (bracket? progress.level.verbose text).map _ = ((bracket? progress.level.verbose text).map _).map _
    cases bracket? progress.level.verbose text <;> rfl
  | repetition least most => exact repeat_within around least most text
  | counts => exact counted_within around text
  | escape =>
    change (escape? progress.level.verbose text).bind _ = ((escape? progress.level.verbose text).bind _).map _
    cases escape? progress.level.verbose text with
    | none => rfl
    | some read =>
      rw [Option.bind_some, Option.bind_some, followed?, followed?]
      split
      · exact (progress.push read.1.pattern).counted_within around _
      · rfl
  | item item => rfl

/-- Reading comes to the end of a text, and would come to a closing parenthesis behind it, whatever groups
are open around it. -/
structure Ends (progress : Progress) (text : List Char) (last : Progress) : Prop where
  alone : progress.read? text = last.finish?
  behind : ∀ around more, (progress.within around).read? (text ++ ')' :: more) =
    (last.within around).read? (')' :: more)

theorem Ends.here {text : List Char} (ended : skip progress.level.verbose text = [])
    (behind : ∀ more, skip progress.level.verbose (text ++ ')' :: more) = ')' :: more) :
    Ends progress text progress where
  alone := read_ended ended
  behind around more := by
    rw [read_eq, read_eq]
    change (round? _ (skip progress.level.verbose _)).bind _ =
      (round? _ (skip progress.level.verbose _)).bind _
    rw [behind, settled_closing]

theorem Ends.ofLayout {layout after : List Char}
    (ahead : skip progress.level.verbose (layout ++ ')' :: after) = ')' :: after) :
    Ends progress layout progress := by
  obtain ⟨ended, behind⟩ := (readsOn_skip progress.level.verbose layout).inward (congrArg some ahead)
    (List.nil_append _).symm
  exact .here (Option.some.inj ended) fun more => Option.some.inj (behind more)

theorem Ends.step {text : List Char} {c : Char} {rest : List Char} {next last : Progress} {left : List Char}
    (ahead : skip progress.level.verbose text = c :: rest)
    (inner : turnKind c = .close → progress.outer ≠ [])
    (turned : progress.step? rest (turnKind c) = some (next, left))
    (behind : ∀ more, progress.step? (rest ++ ')' :: more) (turnKind c) = some (next, left ++ ')' :: more))
    (ends : Ends next left last) : Ends progress text last where
  alone := by rw [read_step ahead, turned, Option.bind_some, ends.alone]
  behind around more := by
    have further : skip (progress.within around).level.verbose (text ++ ')' :: more) =
        c :: (rest ++ ')' :: more) := skip_behind progress.level.verbose ahead more
    rw [read_step further, step_within around inner, behind, Option.map_some, Option.bind_some, ends.behind]

/-- What becomes of a text: it comes to its end, or in front of a closing parenthesis that ends no group
begun in it, or else it is no pattern, or not one that a closing parenthesis would end. -/
inductive Outcome (progress : Progress) (text : List Char) : Prop where
  | ends (last : Progress) (ends : Ends progress text last)
  | overcloses (before after : List Char) (last : Progress) (split : text = before ++ ')' :: after)
      (ends : Ends progress before last) (outermost : last.outer = [])
  | lost (alone : progress.read? text = none ∨ progress.read? (text ++ [')']) = progress.read? text)
      (around : ∀ groups, groups ≠ [] → (progress.within groups).read? (text ++ [')', '$']) = none)

theorem finish_within {groups : List (GroupKind × Level)} (opened : groups ≠ []) :
    (progress.within groups).finish? = none := by
  have outer : ¬ (progress.outer ++ groups).isEmpty = true := by
    simpa only [List.isEmpty_iff, List.append_eq_nil_iff, not_and] using fun _ => opened
  exact if_neg outer

theorem read_unclosed {groups : List (GroupKind × Level)} (opened : groups ≠ []) {text : List Char}
    (dollar : text <:+ ['$']) : (progress.within groups).read? text = none := by
  have ended (progress : Progress) : (progress.within groups).read? [] = none := by
    rw [read_ended (by cases (progress.within groups).level.verbose <;> rfl), finish_within opened]
  rcases List.suffix_cons_iff.1 dollar with rfl | short
  · have ahead : skip (progress.within groups).level.verbose ['$'] = ['$'] := by
      cases (progress.within groups).level.verbose <;> rfl
    rw [read_turn ahead]
    exact ended (progress.push (.mark .lineEnd))
  · obtain rfl := List.suffix_nil.1 short
    exact ended progress

theorem lost_of_overruns {text : List Char} {c : Char} {rest : List Char}
    (ahead : skip progress.level.verbose text = c :: rest) (inner : turnKind c = .close → progress.outer ≠ [])
    (overruns : Overruns (fun rest => progress.step? rest (turnKind c)) rest)
    {groups : List (GroupKind × Level)} (opened : groups ≠ []) :
    (progress.within groups).read? (text ++ [')', '$']) = none := by
  have further : skip (progress.within groups).level.verbose (text ++ [')', '$']) =
      c :: (rest ++ [')', '$']) := skip_behind progress.level.verbose ahead ['$']
  rw [read_step further, step_within groups inner]
  cases turned : progress.step? (rest ++ [')', '$']) (turnKind c) with
  | none => rfl
  | some next => exact read_unclosed opened (overruns ['$'] next turned)

theorem turnKind_close {c : Char} (closes : turnKind c = .close) : c = ')' := by
  unfold turnKind at closes
  split at closes <;> first | rfl | contradiction

theorem read_skip (text : List Char) :
    progress.read? (skip progress.level.verbose text) = progress.read? text := by
  rw [read_eq, read_eq, skip_skip]

theorem Ends.inward {layout taken before after : List Char} {c : Char} {next last : Progress}
    (ahead : skip progress.level.verbose (layout ++ c :: (taken ++ (before ++ ')' :: after))) =
      c :: (taken ++ (before ++ ')' :: after)))
    (inner : turnKind c = .close → progress.outer ≠ [])
    (turned : progress.step? (taken ++ (before ++ ')' :: after)) (turnKind c) =
      some (next, before ++ ')' :: after))
    (ends : Ends next before last) : Ends progress (layout ++ c :: (taken ++ before)) last := by
  have regrouped : layout ++ c :: (taken ++ (before ++ ')' :: after)) =
      (layout ++ c :: (taken ++ before)) ++ ')' :: after := by
    simp only [List.append_assoc, List.cons_append]
  rw [regrouped] at ahead
  rw [← List.append_assoc] at ahead turned
  have skipped := ((readsOn_skip progress.level.verbose _).inward (congrArg some ahead)
    List.cons_append.symm).1
  obtain ⟨alone, behind⟩ := (progress.readsOn_step (turnKind c) (taken ++ before)).inward turned rfl
  exact ends.step (Option.some.inj skipped) inner alone behind

theorem outcome (progress : Progress) (text : List Char) : Outcome progress text := by
  induction size : text.length using Nat.strongRecOn generalizing progress text with
  | ind bound ih =>
    cases readsOn_skip progress.level.verbose text with
    | short alone _ => contradiction
    | drained settled alone emptied closed overruns =>
      obtain rfl := Option.some.inj alone
      have blank : skip progress.level.verbose (text ++ [')']) = [] := (Option.some.inj closed).trans emptied
      refine .lost (.inr ((read_ended blank).trans (read_ended emptied).symm)) fun groups opened => ?_
      rw [← read_skip]
      exact read_unclosed opened (overruns ['$'] _ rfl)
    | within settled alone suffix behind =>
      obtain rfl := Option.some.inj alone
      cases ahead : skip progress.level.verbose text with
      | nil =>
        refine .ends progress (.here ahead fun more => ?_)
        rw [Option.some.inj (behind more), ahead]
        rfl
      | cons c rest =>
        obtain ⟨layout, split⟩ : c :: rest <:+ text := ahead ▸ suffix
        by_cases outermost : turnKind c = .close ∧ progress.outer = []
        · obtain rfl := turnKind_close outermost.1
          exact .overcloses layout rest progress split.symm (.ofLayout (split ▸ ahead)) outermost.2
        have inner (closes : turnKind c = .close) : progress.outer ≠ [] := fun empty =>
          outermost ⟨closes, empty⟩
        cases progress.readsOn_step (turnKind c) rest with
        | short refused overruns =>
          refine .lost (.inl ?_) fun groups opened => lost_of_overruns ahead inner overruns opened
          rw [read_step ahead, refused]
          rfl
        | drained next turned emptied closed overruns =>
          refine .lost (.inr ?_) fun groups opened => lost_of_overruns ahead inner overruns opened
          rw [read_step ahead, read_step (skip_behind progress.level.verbose ahead []), closed, turned]
        | within next turned shorter behind =>
          obtain ⟨next, left⟩ := next
          have smaller : left.length < bound := by
            have whole := congrArg List.length split
            have taken := shorter.length_le
            rw [List.length_append, List.length_cons] at whole
            change left.length ≤ rest.length at taken
            omega
          cases ih left.length smaller next left rfl with
          | ends last ends => exact .ends last (ends.step ahead inner turned behind)
          | overcloses before after last cut ends outermost =>
            subst cut
            obtain ⟨taken, rfl⟩ := shorter
            subst split
            refine .overcloses (layout ++ c :: (taken ++ before)) after last ?_
              (ends.inward ahead inner turned) outermost
            simp only [List.append_assoc, List.cons_append]
            rfl
          | lost alone around =>
            refine .lost ?_ fun groups opened => ?_
            · rw [read_step ahead, turned, Option.bind_some]
              refine alone.imp_right fun same => ?_
              rw [read_step (skip_behind progress.level.verbose ahead []), behind]
              exact same
            · have further : skip (progress.within groups).level.verbose (text ++ [')', '$']) =
                  c :: (rest ++ [')', '$']) := skip_behind progress.level.verbose ahead ['$']
              rw [read_step further, step_within groups inner, behind]
              exact around groups opened

end Progress

end Weave.Regex
