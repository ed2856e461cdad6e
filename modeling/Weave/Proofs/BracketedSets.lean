import Weave.Proofs.Escapes

/-! Bracketed sets with more behind the text. A set that is closed within the text is the same with
anything behind it. A set that is not closed fails by itself, and with more behind it reads over the closing
parenthesis, which is a character like any other between brackets. -/

namespace Weave.Regex

open Leftover

variable (verbose : Bool)

/-! ### Named ASCII classes -/

theorem splitAtText_none {c : Char} {text : List Char} (missing : c ∉ text) :
    splitAtText [c] text = none := by
  induction text with
  | nil => rfl
  | cons d rest ih =>
    obtain ⟨differs, missing⟩ := not_or.1 (mt List.mem_cons.2 missing)
    have unmatched : ¬ [c].isPrefixOf (d :: rest) = true := by
      simpa only [List.isPrefixOf, Bool.and_true, beq_iff_eq] using differs
    rw [splitAtText, if_neg unmatched, ih missing, Option.map_none]

theorem splitAtText_first {c : Char} {before : List Char} (missing : c ∉ before) (after : List Char) :
    splitAtText [c] (before ++ c :: after) = some (before, after) := by
  induction before with
  | nil =>
    have matched : [c].isPrefixOf (c :: after) = true := by
      simp only [List.isPrefixOf, Bool.and_true, beq_self_eq_true]
    rw [List.nil_append, splitAtText, if_pos matched]
    rfl
  | cons d before ih =>
    obtain ⟨differs, missing⟩ := not_or.1 (mt List.mem_cons.2 missing)
    have unmatched : ¬ [c].isPrefixOf (d :: (before ++ c :: after)) = true := by
      simpa only [List.isPrefixOf, Bool.and_true, beq_iff_eq] using differs
    rw [List.cons_append, splitAtText, if_neg unmatched, ih missing, Option.map_some]

def asciiEnd? (negated : Bool) (name : String) : List Char → Option (SetItem × List Char)
  | [] => none
  | c :: rest => if c = ']' ∧ (Property.ascii? name).isSome then some (.ascii name negated, rest) else none

def asciiNamed? (negated : Bool) (text : List Char) : Option (SetItem × List Char) :=
  (splitAtText [':'] text).bind fun divided => asciiEnd? negated (String.ofList divided.1) divided.2

theorem ascii_letters {name : String} (known : (Property.ascii? name).isSome = true) : ')' ∉ name.toList := by
  rw [Property.ascii?, Option.isSome_map] at known
  unfold Property.asciiRanges? at known
  split at known
  all_goals first | decide | contradiction

/-- A closing parenthesis is in no name, so a class is read within the text or not at all. -/
theorem asciiNamed_behind (negated : Bool) (text more : List Char) :
    asciiNamed? negated (text ++ ')' :: more) =
      (asciiNamed? negated text).map fun read => (read.1, read.2 ++ ')' :: more) := by
  by_cases colon : ':' ∈ text
  · obtain ⟨before, after, rfl, missing⟩ := List.eq_append_cons_of_mem colon
    rw [List.append_assoc, List.cons_append, asciiNamed?, asciiNamed?, splitAtText_first missing,
      splitAtText_first missing]
    rw [Option.bind_some, Option.bind_some]
    cases after with
    | nil => rfl
    | cons d after =>
      rw [List.cons_append, asciiEnd?, asciiEnd?]
      split <;> rfl
  · have alone : asciiNamed? negated text = none := by
      rw [asciiNamed?, splitAtText_none colon]
      rfl
    rw [alone, Option.map_none]
    by_cases later : ':' ∈ more
    · obtain ⟨before, after, rfl, missing⟩ := List.eq_append_cons_of_mem later
      have early : ':' ∉ text ++ ')' :: before := by
        rw [List.mem_append, List.mem_cons, not_or, not_or]
        exact ⟨colon, by decide, missing⟩
      have regrouped : text ++ ')' :: (before ++ ':' :: after) = (text ++ ')' :: before) ++ ':' :: after := by
        rw [List.append_assoc, List.cons_append]
      have unknown : ¬ (Property.ascii? (String.ofList (text ++ ')' :: before))).isSome = true := by
        intro known
        apply ascii_letters known
        rw [String.toList_ofList]
        exact List.mem_append_right _ List.mem_cons_self
      rw [regrouped, asciiNamed?, splitAtText_first early]
      rw [Option.bind_some]
      cases after with
      | nil => rfl
      | cons d after => exact if_neg fun both => unknown both.2
    · have nowhere : ':' ∉ text ++ ')' :: more := by
        rw [List.mem_append, List.mem_cons, not_or, not_or]
        exact ⟨colon, by decide, later⟩
      rw [asciiNamed?, splitAtText_none nowhere]
      rfl

theorem asciiNamed_suffix {negated : Bool} {text : List Char} {read : SetItem × List Char}
    (found : asciiNamed? negated text = some read) : read.2 <:+ text := by
  obtain ⟨⟨name, rest⟩, divided, named⟩ := Option.bind_eq_some_iff.1 found
  have behind : rest <:+ text := by
    by_cases colon : ':' ∈ text
    · obtain ⟨before, after, rfl, missing⟩ := List.eq_append_cons_of_mem colon
      rw [splitAtText_first missing] at divided
      obtain ⟨rfl, rfl⟩ := Prod.mk.inj (Option.some.inj divided)
      exact (List.suffix_cons _ _).trans (List.suffix_append _ _)
    · exact nomatch (splitAtText_none colon).symm.trans divided
  cases rest with
  | nil => contradiction
  | cons c rest =>
    rw [asciiEnd?] at named
    split at named
    · obtain rfl := Option.some.inj named
      exact (List.suffix_cons c rest).trans behind
    · contradiction

def caretFirst : List Char → Bool × List Char
  | [] => (false, [])
  | c :: rest => if c = '^' then (true, rest) else (false, c :: rest)

theorem bind_asciiEnd {negated : Bool} {divided : Option (List Char × List Char)}
    {next : List Char × List Char → Option (SetItem × List Char)} (ends : ∀ name, next (name, []) = none)
    (closes : ∀ name rest, next (name, ']' :: rest) = if (Property.ascii? (String.ofList name)).isSome then
      some (.ascii (String.ofList name) negated, rest) else none)
    (fails : ∀ name c rest, ¬ c = ']' → next (name, c :: rest) = none) :
    divided.bind next = divided.bind fun divided => asciiEnd? negated (String.ofList divided.1) divided.2 := by
  refine congrArg divided.bind (funext fun (name, rest) => ?_)
  cases rest with
  | nil => exact ends name
  | cons c rest =>
    by_cases bracket : c = ']'
    · rw [bracket, closes, asciiEnd?]
      simp only [true_and]
    · rw [fails name c rest bracket, asciiEnd?, if_neg fun both => bracket both.1]

theorem asciiClass_eq (text : List Char) :
    asciiClass? text = asciiNamed? (caretFirst text).1 (caretFirst text).2 := by
  cases text with
  | nil => rfl
  | cons c rest =>
    by_cases caret : c = '^'
    · subst caret
      refine bind_asciiEnd (fun _ => rfl) (fun _ _ => rfl) fun name c rest other => ?_
      simp only [List.cons.injEq, other, false_and, imp_self, implies_true]
    · rw [caretFirst, if_neg caret]
      simp only [asciiClass?, List.cons.injEq, caret, false_and, imp_self, implies_true]
      refine bind_asciiEnd (fun _ => rfl) (fun _ _ => rfl) fun name c rest other => ?_
      simp only [List.cons.injEq, other, false_and, imp_self, implies_true]

theorem caretFirst_behind (text more : List Char) :
    caretFirst (text ++ ')' :: more) = ((caretFirst text).1, (caretFirst text).2 ++ ')' :: more) := by
  cases text with
  | nil => rfl
  | cons c rest =>
    rw [List.cons_append, caretFirst, caretFirst]
    split <;> rfl

theorem caretFirst_suffix (text : List Char) : (caretFirst text).2 <:+ text := by
  cases text with
  | nil => exact List.suffix_rfl
  | cons c rest =>
    rw [caretFirst]
    split
    · exact List.suffix_cons c rest
    · exact List.suffix_rfl

theorem asciiClass_behind (text more : List Char) : asciiClass? (text ++ ')' :: more) =
    (asciiClass? text).map fun read => (read.1, read.2 ++ ')' :: more) := by
  rw [asciiClass_eq, asciiClass_eq, caretFirst_behind, asciiNamed_behind]

theorem asciiClass_suffix {text : List Char} {read : SetItem × List Char}
    (found : asciiClass? text = some read) : read.2 <:+ text := by
  rw [asciiClass_eq] at found
  exact (asciiNamed_suffix found).trans (caretFirst_suffix text)

/-! ### Beginnings of sets -/

def hyphenAfter? (items : List SetItem) (c : Char) : Option (List SetItem) :=
  if c = '-' then some (hyphen :: items) else none

theorem leadingHyphens_eq {bound : Nat} (items : List SetItem) {text : List Char}
    (enough : text.length ≤ bound) : rounds (runRound verbose hyphenAfter?) (bound + 1) items text =
      some (leadingHyphens verbose bound items text) := by
  induction bound generalizing items text with
  | zero =>
    obtain rfl := List.eq_nil_of_length_eq_zero (Nat.le_zero.1 enough)
    rfl
  | succ bound ih =>
    cases text with
    | nil => rfl
    | cons c rest =>
      rw [rounds, runRound, hyphenAfter?]
      by_cases sign : c = '-'
      · subst sign
        have shorter := (skip_suffix verbose rest).length_le
        rw [if_pos rfl]
        exact ih (hyphen :: items) (Nat.le_trans shorter (Nat.le_of_succ_le_succ enough))
      · rw [if_neg sign, leadingHyphens]
        · rfl
        · rintro _ _ ⟨⟩ ⟨⟩
          exact sign rfl

theorem readsOn_hyphens (text : List Char) :
    ReadsOn (fun text => some (leadingHyphens verbose text.length [] text)) text := by
  have same (text : List Char) : some (leadingHyphens verbose text.length [] text) =
      readRounds (runRound verbose hyphenAfter?) [] text :=
    (leadingHyphens_eq verbose [] (Nat.le_refl _)).symm
  simp only [same]
  exact readsOn_run verbose hyphenAfter? (fun _ => rfl) [] text

def negation (text : List Char) : Bool × List Char :=
  match text with
  | '^' :: rest => (true, skip verbose rest)
  | rest => (false, rest)

def closingFirst (negated : Bool) (items : List SetItem) (text : List Char) :
    Bool × List SetItem × List Char :=
  match items, text with
  | [], ']' :: rest => (negated, [.literal ⟨']', false⟩], skip verbose rest)
  | items, text => (negated, items, text)

def setStart? (text : List Char) : Option (Bool × List SetItem × List Char) :=
  (some (negation verbose (skip verbose text))).bind fun (negated, text) =>
    (some (leadingHyphens verbose text.length [] text)).bind fun (items, text) =>
      some (closingFirst verbose negated items text)

def filled? (start : Bool × List SetItem × List Char) : Option (Bool × List SetItem × List Char) :=
  match start with
  | (_, _, []) => none
  | (negated, items, c :: rest) => some (negated, items, c :: rest)

theorem filled_closingFirst {negated : Bool} {items : List SetItem} {text : List Char}
    {opened : Option (Bool × List SetItem × List Char)} (ends : text = [] → opened = none)
    (closes : ∀ rest, items = [] → text = ']' :: rest →
      opened = filled? (negated, [.literal ⟨']', false⟩], skip verbose rest))
    (keeps : text ≠ [] → (∀ rest, items = [] → text ≠ ']' :: rest) → opened = some (negated, items, text)) :
    opened = filled? (closingFirst verbose negated items text) := by
  unfold closingFirst
  split
  · exact closes _ rfl rfl
  · rename_i plain
    cases text with
    | nil => exact ends rfl
    | cons c rest => exact keeps (List.cons_ne_nil c rest) plain

theorem openSet_eq (text : List Char) : openSet? verbose text = (setStart? verbose text).bind filled? := by
  unfold openSet? setStart? negation
  generalize skip verbose text = settled
  cases settled with
  | nil => rfl
  | cons c rest =>
    by_cases caret : c = '^'
    · subst caret
      simp only [Option.bind_some]
      refine filled_closingFirst verbose (fun ended => ?_) (fun rest bare closed => ?_) fun filled plain => ?_
      · simp only [ended]
      · simp only [bare, closed]
        cases skip verbose rest <;> rfl
      · simp only
    · simp only [List.cons.injEq, caret, false_and, imp_self, implies_true, Option.bind_some]
      refine filled_closingFirst verbose (fun ended => ?_) (fun rest bare closed => ?_) fun filled plain => ?_
      · simp only [ended]
      · simp only [bare, closed]
        cases skip verbose rest <;> rfl
      · simp only

theorem openSet_bind {β : Type} {next : Bool × List SetItem × List Char → Option β}
    (stops : ∀ negated items, next (negated, items, []) = none) (text : List Char) :
    (openSet? verbose text).bind next = (setStart? verbose text).bind next := by
  rw [openSet_eq, Option.bind_assoc]
  refine congrArg (Option.bind _) (funext fun (negated, items, rest) => ?_)
  cases rest with
  | nil => exact (stops negated items).symm
  | cons => rfl

theorem readsOn_negation (text : List Char) : ReadsOn (fun text => some (negation verbose text)) text := by
  cases text with
  | nil => exact .within (false, []) rfl List.suffix_rfl fun _ => rfl
  | cons c rest =>
    by_cases caret : c = '^'
    · subst caret
      apply ReadsOn.head
      exact .settling verbose (true, ·) (fun _ _ => rfl) rest
    · have stays (rest : List Char) : negation verbose (c :: rest) = (false, c :: rest) := by
        simp only [negation, List.cons.injEq, caret, false_and, imp_self, implies_true]
      exact .within (false, c :: rest) (congrArg some (stays rest)) List.suffix_rfl fun _ =>
        congrArg some (stays _)

theorem readsOn_closingFirst (negated : Bool) (items : List SetItem) (text : List Char) :
    ReadsOn (fun text => some (closingFirst verbose negated items text)) text := by
  by_cases first : items = [] ∧ text.head? = some ']'
  · obtain ⟨rfl, bracket⟩ := first
    obtain ⟨rest, rfl⟩ : ∃ rest, text = ']' :: rest := List.head?_eq_some_iff.1 bracket
    apply ReadsOn.head
    exact .settling verbose (negated, [SetItem.literal ⟨']', false⟩], ·) (fun _ _ => rfl) rest
  · have stays (rest : List Char) (same : rest.head? = some ']' → text.head? = some ']') :
        closingFirst verbose negated items rest = (negated, items, rest) := by
      unfold closingFirst
      split
      · exact (first ⟨rfl, same rfl⟩).elim
      · rfl
    refine .within (negated, items, text) (congrArg some (stays text id)) List.suffix_rfl fun more =>
      congrArg some (stays _ fun bracket => ?_)
    cases text with
    | nil => exact nomatch bracket
    | cons c rest => exact bracket

theorem readsOn_setStart (text : List Char) : ReadsOn (setStart? verbose) text := by
  refine ReadsOn.andThen (ReadsOn.skipping verbose (readsOn_negation verbose) text) fun (negated, _) text => ?_
  refine ReadsOn.andThen (readsOn_hyphens verbose text) fun (items, _) text => ?_
  exact readsOn_closingFirst verbose negated items text

/-! ### Items and ranges -/

theorem lookPast_behind (comment : Bool) (text more : List Char) :
    lookPast comment (text ++ ')' :: more) = (lookPast comment text).or (some ')') := by
  induction text generalizing comment with
  | nil => cases comment <;> rfl
  | cons c rest ih =>
    rw [List.cons_append, lookPast, lookPast]
    split
    · exact ih comment
    · split
      · exact ih true
      · rfl

theorem head_of_lookPast {c : Char} {rest : List Char} (unseen : lookPast false (c :: rest) = none) :
    Text.isBlank c = true ∨ c = '#' := by
  rw [lookPast] at unseen
  split at unseen
  · exact .inl ‹_›
  · split at unseen
    · rename_i sign
      simp only [Bool.not_false, Bool.true_and, decide_eq_true_eq] at sign
      exact .inr sign
    · contradiction

/-- A hyphen is followed by a closing bracket or a hyphen of the text itself. -/
theorem following_behind {d : Char} (bracket : d = ']' ∨ d = '-') (text more : List Char) :
    following verbose (text ++ ')' :: more) = some d ↔ following verbose text = some d := by
  have other : ¬ some ')' = some d := by
    intro same
    obtain rfl := Option.some.inj same
    exact absurd bracket (by decide)
  unfold following
  cases verbose with
  | false =>
    cases text with
    | nil => exact iff_of_false other (nofun)
    | cons => rfl
  | true =>
    rw [if_pos rfl, if_pos rfl, lookPast_behind]
    cases seen : lookPast false text with
    | some => rfl
    | none =>
      refine iff_of_false other fun found => ?_
      cases text with
      | nil => contradiction
      | cons c rest =>
        obtain rfl := Option.some.inj found
        rcases head_of_lookPast seen with blank | rfl
        · rcases bracket with rfl | rfl <;> contradiction
        · exact absurd bracket (by decide)

def makesRange (text : List Char) : Bool :=
  !(following verbose text = some ']' || following verbose text = some '-')

theorem makesRange_behind (text more : List Char) :
    makesRange verbose (text ++ ')' :: more) = makesRange verbose text := by
  unfold makesRange
  simp only [following_behind verbose (.inl rfl), following_behind verbose (.inr rfl)]

section

variable {β : Type} [Leftover β] {next : Primitive × List Char → Option β}

theorem readsOn_setPrimitive (marks : ∀ mark text, next (.mark mark, text) = none)
    (reads : ∀ item text, ReadsOn (fun rest => next (item, rest)) text) (c : Char) (rest : List Char) :
    ReadsOn (fun rest => (setPrimitive? verbose (c :: rest)).bind next) rest := by
  by_cases slash : c = '\\'
  · subst slash
    change ReadsOn (fun rest => (escape? verbose rest).bind next) rest
    by_cases firm : Dangling verbose rest
    · obtain ⟨rest, rfl, blank⟩ := firm
      have refuses (text : List Char) : (escape? verbose ('b' :: text)).bind next = none := by
        change (boundaryEscape? verbose text).bind next = none
        cases found : boundaryEscape? verbose text with
        | none => rfl
        | some result =>
          obtain ⟨mark, marked⟩ := boundaryEscape_mark verbose found
          obtain ⟨item, rest⟩ := result
          obtain rfl := marked
          exact marks mark rest
      exact .failing (refuses _) fun _ => refuses _
    · exact (readsOn_escape verbose firm).andThen fun result text => reads result.1 text
  · have plain (rest : List Char) : setPrimitive? verbose (c :: rest) = some (.literal ⟨c, false⟩, rest) := by
      simp only [setPrimitive?]
    simp only [plain, Option.bind_some]
    exact reads _ rest

theorem overruns_setPrimitive (reads : ∀ item text, ReadsOn (fun rest => next (item, rest)) text) :
    Overruns (fun text => (setPrimitive? verbose text).bind next) [] := by
  intro more result found
  exact (reads (.literal ⟨')', false⟩) more).suffix found

end

def range? (first second : Primitive) : Option SetItem := do
  let low ← first.literal?
  let high ← second.literal?
  if low.char ≤ high.char then some (.range low high) else none

def rangeTo? (first : Primitive) (second : Primitive × List Char) : Option (SetItem × List Char) :=
  (range? first second.1).map (·, second.2)

def rangeFrom? (first : Primitive) : List Char → Option (SetItem × List Char)
  | [] => first.setItem?.map (·, [])
  | c :: rest =>
    if c = '-' ∧ makesRange verbose rest then (setPrimitive? verbose (skip verbose rest)).bind (rangeTo? first)
    else first.setItem?.map (·, c :: rest)

def setItem? (text : List Char) : Option (SetItem × List Char) :=
  (setPrimitive? verbose text).bind fun first => rangeFrom? verbose first.1 (skip verbose first.2)

theorem setRange_bind {β : Type} {next : SetItem × List Char → Option β}
    (stops : ∀ item, next (item, []) = none) (text : List Char) :
    (setRange? verbose text).bind next = (setItem? verbose text).bind next := by
  unfold setRange? setItem?
  refine (Option.bind_assoc ..).trans (Eq.trans ?_ (Option.bind_assoc ..).symm)
  refine congrArg (Option.bind _) (funext fun (first, rest) => ?_)
  have single (rest : List Char) : (do return (← first.setItem?, rest)) = first.setItem?.map (·, rest) := by
    cases first.setItem? <;> rfl
  simp only [single]
  cases skip verbose rest with
  | nil =>
    unfold rangeFrom?
    cases first.setItem? with
    | none => rfl
    | some item => exact (stops item).symm
  | cons c ahead =>
    rw [rangeFrom?]
    by_cases sign : c = '-'
    · subst sign
      have decided : (following verbose ahead = some ']' || following verbose ahead = some '-') =
          !makesRange verbose ahead := (Bool.not_not _).symm
      simp only [decided, true_and]
      cases makesRange verbose ahead with
      | false => rfl
      | true =>
        refine congrArg (Option.bind · next) (congrArg (Option.bind _) (funext fun (second, rest) => ?_))
        unfold rangeTo? range?
        cases first.literal? with
        | none => rfl
        | some low =>
          cases second.literal? with
          | none => rfl
          | some high =>
            by_cases ordered : low.char ≤ high.char
            · simp only [Option.bind_eq_bind, Option.bind_some, if_pos ordered]
              rfl
            · simp only [Option.bind_eq_bind, Option.bind_some, if_neg ordered]
              rfl
    · simp only [List.cons.injEq, sign, false_and, imp_self, implies_true, if_false]

theorem readsOn_rangeFrom (first : Primitive) (text : List Char) :
    ReadsOn (rangeFrom? verbose first) text := by
  have plain (text : List Char) : ReadsOn (fun text => first.setItem?.map fun item => (item, text)) text :=
    .giving (fun _ _ _ => rfl) text
  cases text with
  | nil =>
    refine (plain []).congr rfl fun more => ?_
    rw [List.nil_append, rangeFrom?, if_neg fun both => absurd both.1 (by decide)]
  | cons c rest =>
    by_cases range : c = '-' ∧ makesRange verbose rest = true
    · have known (item : Primitive) (text : List Char) :
          ReadsOn (fun rest => (range? first item).map fun range => (range, rest)) text :=
        .giving (fun _ _ _ => rfl) text
      have marks (mark : Mark) (text : List Char) : rangeTo? first (.mark mark, text) = none := by
        unfold rangeTo? range?
        cases first.literal? <;> rfl
      have second (text : List Char) :
          ReadsOn (fun text => (setPrimitive? verbose text).bind (rangeTo? first)) text := by
        cases text with
        | nil => exact .short rfl (overruns_setPrimitive verbose known)
        | cons c rest => exact (readsOn_setPrimitive verbose marks known c rest).head
      refine (ReadsOn.skipping verbose second rest).after (if_pos range) fun more => ?_
      rw [rangeFrom?, makesRange_behind, if_pos range]
    · refine (plain (c :: rest)).congr (if_neg range) fun more => ?_
      rw [List.cons_append, rangeFrom?, makesRange_behind, if_neg range]

/-! ### Whole sets -/

/-- An open set: the brackets around the innermost one, and what has been read between the brackets. -/
structure OpenSet where
  frames : List SetFrame
  pending : Option (SetOperation × SetPattern)
  items : List SetItem

namespace OpenSet

def add (set : OpenSet) (item : SetItem) : OpenSet := { set with items := item :: set.items }

def opened (set : OpenSet) (start : Bool × List SetItem × List Char) :
    Round (Bool × SetPattern × List Char) OpenSet :=
  .inr (⟨⟨set.items, set.pending, start.1⟩ :: set.frames, none, start.2.1⟩, start.2.2)

def deeper? (set : OpenSet) (text : List Char) : Option (Round (Bool × SetPattern × List Char) OpenSet) :=
  (setStart? verbose text).map set.opened

def closed? (set : OpenSet) (text : List Char) : Option (Round (Bool × SetPattern × List Char) OpenSet) :=
  let inner := joinPending set.pending set.items
  match set.frames with
  | [] => none
  | [frame] => some (.inl (frame.negated, inner, text))
  | frame :: frames =>
    some (.inr (⟨frames, frame.outerPending, .bracket frame.negated inner :: frame.outer⟩, text))

def item? (set : OpenSet) (text : List Char) : Option (Round (Bool × SetPattern × List Char) OpenSet) :=
  (setItem? verbose text).map fun read => .inr (set.add read.1, read.2)

def bracket? (set : OpenSet) : List Char → Option (Round (Bool × SetPattern × List Char) OpenSet)
  | [] => set.deeper? verbose []
  | c :: rest =>
    if c = ':' then
      (asciiClass? rest).elim (set.deeper? verbose (c :: rest)) fun read =>
        some (.inr (set.add read.1, read.2))
    else set.deeper? verbose (c :: rest)

end OpenSet

def setOperation? : Char → Option SetOperation
  | '&' => some .intersection
  | '-' => some .difference
  | '~' => some .symmetricDifference
  | _ => none

def operator? (c : Char) : List Char → Option (SetOperation × List Char)
  | [] => none
  | d :: rest => if d = c then (setOperation? c).map (·, rest) else none

/-- One round of reading a set. -/
def setRound (set : OpenSet) : List Char → Option (Round (Bool × SetPattern × List Char) OpenSet)
  | [] => none
  | c :: rest =>
    if c = '[' then set.bracket? verbose rest
    else if c = ']' then set.closed? rest
    else
      (operator? c rest).elim (set.item? verbose (c :: rest)) fun read =>
        some (.inr (⟨set.frames, some (read.1, joinPending set.pending set.items), []⟩, read.2))

theorem setLoop_nil (bound : Nat) (frames : List SetFrame) (pending : Option (SetOperation × SetPattern))
    (items : List SetItem) : setLoop? verbose bound frames pending items [] = none := by
  cases bound with
  | zero => rfl
  | succ bound => cases verbose <;> rfl

theorem setLoop_eq (bound : Nat) (set : OpenSet) (text : List Char) :
    setLoop? verbose bound set.frames set.pending set.items text =
      rounds (spaced verbose (setRound verbose)) bound set text := by
  induction bound generalizing set text with
  | zero => rfl
  | succ bound ih =>
    obtain ⟨frames, pending, items⟩ := set
    have deeper (rest : List Char) :
        ((openSet? verbose rest).bind fun start => setLoop? verbose bound
            (⟨items, pending, start.1⟩ :: frames) none start.2.1 start.2.2) =
          (OpenSet.deeper? verbose ⟨frames, pending, items⟩ rest).bind (Sum.elim some fun next =>
            rounds (spaced verbose (setRound verbose)) bound next.1 next.2) := by
      rw [openSet_bind verbose fun _ _ => setLoop_nil verbose bound _ _ _, OpenSet.deeper?, Option.bind_map]
      exact congrArg (Option.bind _) (funext fun start => ih ⟨_, _, _⟩ _)
    rw [setLoop?, rounds, spaced]
    generalize skip verbose text = settled
    simp only
    split
    · rfl
    · rw [setRound, if_pos rfl, OpenSet.bracket?, if_pos rfl]
      split
      · rename_i named
        rw [named]
        exact ih (OpenSet.add ⟨frames, pending, items⟩ _) _
      · rename_i named
        rw [named, Option.elim_none, ← deeper]
        cases openSet? verbose _ <;> rfl
    · rename_i rest unnamed
      have colon : OpenSet.bracket? verbose ⟨frames, pending, items⟩ rest =
          OpenSet.deeper? verbose ⟨frames, pending, items⟩ rest := by
        cases rest with
        | nil => rfl
        | cons c rest => exact if_neg fun colon => unnamed rest (by rw [colon])
      rw [setRound, if_pos rfl, colon, ← deeper]
      cases openSet? verbose rest <;> rfl
    · rename_i rest
      rw [setRound, if_neg (by decide), if_pos rfl, OpenSet.closed?]
      simp only
      split
      · rfl
      · rfl
      · rename_i frame frames several
        cases frames with
        | nil => exact (several rfl).elim
        | cons => exact ih ⟨_, _, _⟩ _
    · exact ih ⟨_, _, _⟩ _
    · exact ih ⟨_, _, _⟩ _
    · exact ih ⟨_, _, _⟩ _
    · rename_i filled _ unopened unclosed unjoined undivided unsplit
      have single : setRound verbose ⟨frames, pending, items⟩ settled =
          OpenSet.item? verbose ⟨frames, pending, items⟩ settled := by
        cases settled with
        | nil => exact (filled rfl).elim
        | cons c rest =>
          have plain : operator? c rest = none := by
            cases rest with
            | nil => rfl
            | cons d rest =>
              rw [operator?]
              split
              · rename_i twice
                subst twice
                unfold setOperation?
                split
                · exact (unjoined rest rfl).elim
                · exact (undivided rest rfl).elim
                · exact (unsplit rest rfl).elim
                · rfl
              · rfl
          rw [setRound, if_neg fun same => unopened rest (by rw [same]),
            if_neg fun same => unclosed rest (by rw [same]), plain, Option.elim_none]
      have read : ((setRange? verbose settled).bind fun read =>
            setLoop? verbose bound frames pending (read.1 :: items) read.2) =
          (OpenSet.item? verbose ⟨frames, pending, items⟩ settled).bind (Sum.elim some fun next =>
            rounds (spaced verbose (setRound verbose)) bound next.1 next.2) := by
        rw [setRange_bind verbose fun _ => setLoop_nil verbose bound _ _ _, OpenSet.item?, Option.bind_map]
        exact congrArg (Option.bind _) (funext fun read => ih ⟨_, _, _⟩ _)
      rw [single, ← read]
      cases setRange? verbose settled <;> rfl

theorem readsOn_setItem (c : Char) (rest : List Char) :
    ReadsOn (fun rest => setItem? verbose (c :: rest)) rest := by
  refine readsOn_setPrimitive verbose (fun mark text => ?_) (fun item text => ?_) c rest
  · rw [rangeFrom?.eq_def]
    split
    · rfl
    · split
      · exact Option.bind_fun_none _
      · rfl
  · exact ReadsOn.skipping verbose (readsOn_rangeFrom verbose item) text

theorem readsOn_deeper (set : OpenSet) (text : List Char) : ReadsOn (set.deeper? verbose) text :=
  .mapped (fun _ _ => rfl) (readsOn_setStart verbose text)

theorem readsOn_openBracket (set : OpenSet) (text : List Char) : ReadsOn (set.bracket? verbose) text := by
  cases text with
  | nil =>
    refine (readsOn_deeper verbose set []).congr rfl fun more => ?_
    rw [List.nil_append, OpenSet.bracket?, if_neg (by decide)]
  | cons c rest =>
    by_cases colon : c = ':'
    · cases named : asciiClass? rest with
      | none =>
        refine (readsOn_deeper verbose set (c :: rest)).congr ?_ fun more => ?_
        · rw [OpenSet.bracket?, if_pos colon, named, Option.elim_none]
        · rw [List.cons_append, OpenSet.bracket?, if_pos colon, asciiClass_behind, named]
          rfl
      | some read =>
        refine .within (.inr (set.add read.1, read.2)) ?_ ?_ fun more => ?_
        · rw [OpenSet.bracket?, if_pos colon, named, Option.elim_some]
        · exact (asciiClass_suffix named).trans (List.suffix_cons c rest)
        · rw [List.cons_append, OpenSet.bracket?, if_pos colon, asciiClass_behind, named]
          rfl
    · exact (readsOn_deeper verbose set (c :: rest)).congr (if_neg colon) fun more => if_neg colon

theorem readsOn_closed (set : OpenSet) (text : List Char) : ReadsOn set.closed? text := by
  unfold OpenSet.closed?
  split
  · exact .failing rfl fun _ => rfl
  · exact .returning (fun _ _ => rfl) text
  · exact .returning (fun _ _ => rfl) text

theorem operator_behind {c : Char} {rest : List Char} (single : operator? c rest = none) (more : List Char) :
    operator? c (rest ++ ')' :: more) = none := by
  cases rest with
  | nil =>
    rw [List.nil_append, operator?]
    split
    · rename_i same
      rw [← same]
      rfl
    · rfl
  | cons d rest =>
    rw [operator?] at single
    rw [List.cons_append, operator?]
    split at single
    · rw [if_pos ‹_›, Option.map_eq_none_iff.1 single]
      rfl
    · rw [if_neg ‹_›]

theorem readsOn_setRound (set : OpenSet) (c : Char) (rest : List Char) :
    ReadsOn (fun rest => setRound verbose set (c :: rest)) rest := by
  by_cases opens : c = '['
  · simp only [setRound, if_pos opens]
    exact readsOn_openBracket verbose set rest
  by_cases closes : c = ']'
  · simp only [setRound, if_neg opens, if_pos closes]
    exact readsOn_closed set rest
  have item : ReadsOn (fun rest => set.item? verbose (c :: rest)) rest :=
    .mapped (fun _ _ => rfl) (readsOn_setItem verbose c rest)
  cases joined : operator? c rest with
  | some operation =>
    cases rest with
    | nil => contradiction
    | cons d rest =>
      rw [operator?] at joined
      split at joined
      · rename_i twice
        obtain ⟨op, known, -⟩ := Option.map_eq_some_iff.1 joined
        apply ReadsOn.head
        simp only [setRound, if_neg opens, if_neg closes, operator?, if_pos twice, known, Option.map_some]
        exact .returning (fun _ _ => rfl) rest
      · contradiction
  | none =>
    refine item.congr ?_ fun more => ?_
    · rw [setRound, if_neg opens, if_neg closes, joined, Option.elim_none]
    · rw [setRound, if_neg opens, if_neg closes, operator_behind joined, Option.elim_none]

theorem overruns_setRound (set : OpenSet) : Overruns (setRound verbose set) [] := by
  intro more result found
  exact (readsOn_setRound verbose set ')' more).suffix found

def wholeSet? (start : Bool × List SetItem × List Char) : Option (Pattern × List Char) :=
  (readRounds (spaced verbose (setRound verbose)) ⟨[⟨[], none, start.1⟩], none, start.2.1⟩ start.2.2).map
    fun read => (.bracket read.1 read.2.1, read.2.2)

theorem bracket_eq (text : List Char) :
    bracket? verbose text = (setStart? verbose text).bind (wholeSet? verbose) := by
  have inside : wholeSet? verbose = fun start =>
      (setLoop? verbose (start.2.2.length + 1) [⟨[], none, start.1⟩] none start.2.1 start.2.2).map
        fun read => (.bracket read.1 read.2.1, read.2.2) :=
    funext fun start => congrArg (Option.map _) (setLoop_eq verbose _ ⟨[_], none, start.2.1⟩ start.2.2).symm
  rw [inside, ← openSet_bind verbose fun _ _ => congrArg (Option.map _) (setLoop_nil verbose _ _ _ _)]
  refine congrArg (Option.bind _) (funext fun start => ?_)
  exact (Option.map_eq_bind ..).symm

theorem readsOn_bracket (text : List Char) : ReadsOn (bracket? verbose) text := by
  have whole (start : Bool × List SetItem × List Char) (text : List Char) :
      ReadsOn (fun rest => wholeSet? verbose (start.1, start.2.1, rest)) text := by
    have inside := readsOn_spacedRounds verbose (readsOn_setRound verbose) (fun _ => rfl)
      (overruns_setRound verbose) ⟨[⟨[], none, start.1⟩], none, start.2.1⟩ text
    exact inside.mapped fun _ _ => rfl
  rw [funext (bracket_eq verbose)]
  exact (readsOn_setStart verbose text).andThen whole

end Weave.Regex
