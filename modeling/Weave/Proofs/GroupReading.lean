import Weave.Proofs.BracketedSets

/-! Flags, openings of groups and counts with more behind the text. None of them takes a closing
parenthesis, but for the one that ends a setting of flags. -/

namespace Weave.Regex

open Leftover

/-! ### Flags -/

/-- What a flag letter does: whether letters behind it are negated, whether another must follow, and the
change. -/
def flagItem? (negated : Bool) (change : FlagChange) (c : Char) : Option (Bool × Bool × FlagChange) :=
  let value := some !negated
  match c with
  | '-' => some (true, true, change)
  | 'i' => some (negated, false, { change with ignoreCase := value })
  | 'm' => some (negated, false, { change with multiLine := value })
  | 's' => some (negated, false, { change with dotAll := value })
  | 'U' => some (negated, false, { change with swapGreed := value })
  | 'u' => some (negated, false, { change with unicode := value })
  | 'R' => some (negated, false, { change with carriageReturn := value })
  | 'x' => some (negated, false, { change with verbose := value })
  | _ => none

theorem flagItems_cons (negated dangling : Bool) (seen : List Char) (change : FlagChange) (c : Char)
    (rest : List Char) : flagItems? negated dangling seen change (c :: rest) =
      if c = ':' || c = ')' then
        if dangling || (c = ')' && seen.isEmpty) then none else some (change, c, rest)
      else if seen.contains c then none
      else (flagItem? negated change c).bind fun item =>
        flagItems? item.1 item.2.1 (c :: seen) item.2.2 rest := by
  rw [flagItems?]
  split
  · rfl
  · split
    · rfl
    · unfold flagItem?
      split <;> simp_all

theorem readsOn_flagItems (negated dangling : Bool) (seen : List Char) (change : FlagChange)
    (text : List Char) : ReadsOn (flagItems? negated dangling seen change) text := by
  induction text generalizing negated dangling seen change with
  | nil =>
    refine .short rfl fun more result found => ?_
    rw [List.nil_append, flagItems_cons, if_pos (by decide)] at found
    split at found
    · contradiction
    · obtain rfl := Option.some.inj found
      exact List.suffix_rfl
  | cons c rest ih =>
    apply ReadsOn.head
    simp only [flagItems_cons]
    by_cases stop : (c = ':' || c = ')') = true
    · simp only [if_pos stop]
      by_cases refused : (dangling || (c = ')' && seen.isEmpty)) = true
      · simp only [if_pos refused]
        exact .failing rfl fun _ => rfl
      · simp only [if_neg refused]
        exact .returning (fun _ _ => rfl) rest
    · simp only [if_neg stop]
      by_cases again : seen.contains c = true
      · simp only [if_pos again]
        exact .failing rfl fun _ => rfl
      · simp only [if_neg again]
        cases flagItem? negated change c with
        | none => exact .failing rfl fun _ => rfl
        | some item => exact ih item.1 item.2.1 (c :: seen) item.2.2

/-! ### Names and openings of groups -/

def newName? (names : List String) (name : List Char) : Option String :=
  match name with
  | first :: others =>
    if isGroupNameChar true first && others.all (isGroupNameChar false) &&
        !names.contains (String.ofList name) then some (String.ofList name)
    else none
  | [] => none

theorem groupName_closed (names : List String) {name : List Char} (inside : '>' ∉ name) (rest : List Char) :
    groupName? names (name ++ '>' :: rest) = (newName? names name).map (·, rest) := by
  have passes (c : Char) (member : c ∈ name) : (decide (c ≠ '>')) = true := by
    rw [decide_eq_true_eq]
    rintro rfl
    exact inside member
  have taken : (name ++ '>' :: rest).takeWhile (· ≠ '>') = name := by
    rw [List.takeWhile_append_of_pos passes, List.takeWhile_cons_of_neg (by decide), List.append_nil]
  have dropped : (name ++ '>' :: rest).dropWhile (· ≠ '>') = '>' :: rest := by
    rw [List.dropWhile_append_of_pos passes, List.dropWhile_cons_of_neg (by decide)]
  unfold groupName? newName?
  rw [taken, dropped]
  cases name with
  | nil => rfl
  | cons first others =>
    simp only
    split <;> rfl

theorem groupName_left {names : List String} {text : List Char} {result : String × List Char}
    (found : groupName? names text = some result) : text.dropWhile (· ≠ '>') = '>' :: result.2 := by
  unfold groupName? at found
  simp only at found
  split at found
  · rename_i rest _ _ dropped _
    split at found
    · obtain rfl := Option.some.inj found
      exact dropped
    · contradiction
  · contradiction

theorem readsOn_groupName (names : List String) (text : List Char) : ReadsOn (groupName? names) text := by
  by_cases closed : '>' ∈ text
  · obtain ⟨name, rest, rfl, inside⟩ := List.eq_append_cons_of_mem closed
    have split := groupName_closed names inside
    cases known : newName? names name with
    | none =>
      simp only [known, Option.map_none] at split
      refine .failing (split rest) fun more => ?_
      rw [List.append_assoc, List.cons_append, split]
    | some written =>
      simp only [known, Option.map_some] at split
      refine .within (written, rest) (split rest) ?_ fun more => ?_
      · exact (List.suffix_cons '>' rest).trans (List.suffix_append _ _)
      · rw [List.append_assoc, List.cons_append, split]
        rfl
  · have passes (c : Char) (member : c ∈ text ++ [')']) : (decide (c ≠ '>')) = true := by
      rw [decide_eq_true_eq]
      rintro rfl
      rw [List.mem_append, List.mem_singleton] at member
      exact member.elim closed (by decide)
    have overruns : Overruns (groupName? names) text := by
      intro more result found
      have dropped := groupName_left found
      rw [List.append_cons, List.dropWhile_append_of_pos passes] at dropped
      have behind := List.dropWhile_suffix (l := more) (· ≠ '>')
      rw [dropped] at behind
      exact (List.suffix_cons '>' result.2).trans behind
    cases outcome : groupName? names text with
    | none => exact .short outcome overruns
    | some result =>
      have behind := List.dropWhile_suffix (l := text) (· ≠ '>')
      rw [groupName_left outcome] at behind
      exact (closed (behind.subset List.mem_cons_self)).elim

instance : Leftover Opening where
  left
    | .numbered _ rest | .plain _ rest | .setting _ rest => rest
  put
    | .numbered name _, rest => .numbered name rest
    | .plain change _, rest => .plain change rest
    | .setting change _, rest => .setting change rest
  left_put
    | .numbered .., _ | .plain .., _ | .setting .., _ => rfl
  put_left
    | .numbered .. | .plain .. | .setting .. => rfl
  put_put
    | .numbered .., _, _ | .plain .., _, _ | .setting .., _, _ => rfl

def flagOpening (read : FlagChange × Char × List Char) : Opening :=
  if read.2.1 = ':' then .plain read.1 read.2.2 else .setting read.1 read.2.2

def flagged? (text : List Char) : Option Opening := (flagItems? false false [] {} text).map flagOpening

def named? (names : List String) (text : List Char) : Option Opening :=
  (groupName? names text).map fun read => .numbered (some read.1) read.2

def angled? (names : List String) : List Char → Option Opening
  | [] => named? names []
  | c :: rest => if c = '=' ∨ c = '!' then none else named? names (c :: rest)

def lettered? (names : List String) : List Char → Option Opening
  | [] => none
  | c :: rest => if c = '<' then named? names rest else none

def special? (names : List String) : List Char → Option Opening
  | [] => flagged? []
  | c :: rest =>
    if c = '=' ∨ c = '!' then none
    else if c = '<' then angled? names rest
    else if c = 'P' then lettered? names rest
    else flagged? (c :: rest)

def openingFrom? (names : List String) : List Char → Option Opening
  | [] => some (.numbered none [])
  | c :: rest => if c = '?' then special? names rest else some (.numbered none (c :: rest))

theorem opening_eq (verbose : Bool) (names : List String) (text : List Char) :
    opening? verbose names text = openingFrom? names (skip verbose text) := by
  unfold opening?
  generalize skip verbose text = settled
  simp only
  split
  · rfl
  · rfl
  · rfl
  · rfl
  · rfl
  · rename_i rest behind before
    cases rest with
    | nil => rfl
    | cons c rest =>
      have name : ¬ (c = '=' ∨ c = '!') := by
        rintro (rfl | rfl)
        · exact behind rest rfl
        · exact before rest rfl
      exact (if_neg name).symm
  · rename_i rest plain inverted behind before letter angle
    have flags : special? names rest = flagged? rest := by
      cases rest with
      | nil => rfl
      | cons c rest =>
        have sign : ¬ (c = '=' ∨ c = '!') := by
          rintro (rfl | rfl)
          · exact plain rest rfl
          · exact inverted rest rfl
        rw [special?, if_neg sign, if_neg fun same => angle rest (by rw [same])]
        split
        · rename_i same
          subst same
          cases rest with
          | nil => rfl
          | cons d rest => exact if_neg fun same => letter rest (by rw [same])
        · rfl
    rw [openingFrom?, if_pos rfl, flags, flagged?]
    cases flagItems? false false [] {} rest with
    | none => rfl
    | some read =>
      obtain ⟨change, c, rest⟩ := read
      rw [Option.map_some, flagOpening]
      simp only
      split
      · rename_i found
        obtain ⟨rfl, rfl, rfl⟩ := found
        rfl
      · rename_i other found
        obtain ⟨rfl, rfl, rfl⟩ := found
        rw [if_neg other]
      · contradiction
  · rename_i plain
    cases settled with
    | nil => rfl
    | cons c rest => exact (if_neg fun same => plain rest (by rw [same])).symm

theorem readsOn_named (names : List String) (text : List Char) : ReadsOn (named? names) text :=
  .mapped (fun _ _ => rfl) (readsOn_groupName names text)

theorem readsOn_flagged (text : List Char) : ReadsOn flagged? text := by
  refine .mapped (fun read text => ?_) (readsOn_flagItems false false [] {} text)
  obtain ⟨change, c, rest⟩ := read
  change flagOpening (change, c, text) = put (flagOpening (change, c, rest)) text
  unfold flagOpening
  by_cases colon : c = ':'
  · rw [if_pos colon, if_pos colon]
    rfl
  · rw [if_neg colon, if_neg colon]
    rfl

theorem readsOn_angled (names : List String) (text : List Char) : ReadsOn (angled? names) text := by
  cases text with
  | nil =>
    refine (readsOn_named names []).congr rfl fun more => ?_
    rw [List.nil_append, angled?, if_neg (by decide)]
  | cons c rest =>
    by_cases sign : c = '=' ∨ c = '!'
    · exact .failing (if_pos sign) fun _ => if_pos sign
    · exact (readsOn_named names (c :: rest)).congr (if_neg sign) fun _ => if_neg sign

theorem readsOn_lettered (names : List String) (text : List Char) : ReadsOn (lettered? names) text := by
  cases text with
  | nil => exact .failing rfl fun _ => rfl
  | cons c rest =>
    by_cases angle : c = '<'
    · exact (readsOn_named names rest).cons fun _ => if_pos angle
    · exact .failing (if_neg angle) fun _ => if_neg angle

theorem readsOn_special (names : List String) (text : List Char) : ReadsOn (special? names) text := by
  cases text with
  | nil => exact (readsOn_flagged []).congr rfl fun _ => rfl
  | cons c rest =>
    by_cases sign : c = '=' ∨ c = '!'
    · exact .failing (if_pos sign) fun _ => if_pos sign
    by_cases angle : c = '<'
    · refine (readsOn_angled names rest).cons fun rest => ?_
      rw [special?, if_neg sign, if_pos angle]
    by_cases letter : c = 'P'
    · refine (readsOn_lettered names rest).cons fun rest => ?_
      rw [special?, if_neg sign, if_neg angle, if_pos letter]
    · refine (readsOn_flagged (c :: rest)).as fun rest => ?_
      rw [special?, if_neg sign, if_neg angle, if_neg letter]

theorem readsOn_opening (verbose : Bool) (names : List String) (text : List Char) :
    ReadsOn (opening? verbose names) text := by
  rw [funext (opening_eq verbose names)]
  refine ReadsOn.skipping verbose (fun text => ?_) text
  have numbered (text : List Char) : ReadsOn (fun text => some (Opening.numbered none text)) text :=
    .returning (fun _ _ => rfl) text
  cases text with
  | nil => exact (numbered []).congr rfl fun _ => rfl
  | cons c rest =>
    by_cases question : c = '?'
    · exact (readsOn_special names rest).cons fun _ => if_pos question
    · exact (numbered (c :: rest)).congr (if_neg question) fun _ => if_neg question

/-! ### Counts -/

theorem readsOn_trimLeft (text : List Char) : ReadsOn (fun text => some (Text.trimLeft text)) text := by
  refine .within (Text.trimLeft text) rfl (List.dropWhile_suffix _) fun more => congrArg some ?_
  change (text ++ ')' :: more).dropWhile Text.isBlank = text.dropWhile Text.isBlank ++ ')' :: more
  induction text with
  | nil => rfl
  | cons c rest ih =>
    rw [List.cons_append, List.dropWhile_cons, List.dropWhile_cons]
    split
    · exact ih
    · rfl

def digitAfter? (value : Option Nat) (c : Char) : Option (Option Nat) :=
  if c.isDigit then some (some (10 * value.getD 0 + (c.toNat - 48))) else none

theorem digits_eq (verbose : Bool) {bound : Nat} (value : Option Nat) {text : List Char}
    (enough : text.length < bound) : rounds (runRound verbose digitAfter?) bound value text =
      some (decimal?.digits verbose bound value text) := by
  induction bound generalizing value text with
  | zero => exact nomatch enough
  | succ bound ih =>
    cases text with
    | nil => rfl
    | cons c rest =>
      rw [rounds, runRound, digitAfter?, decimal?.digits]
      split
      · have shorter := (skip_suffix verbose rest).length_le
        exact ih _ (Nat.lt_of_le_of_lt shorter (Nat.lt_of_succ_lt_succ enough))
      · rfl

theorem decimal_eq (verbose : Bool) (text : List Char) : some (decimal? verbose text) =
    (some (Text.trimLeft text)).bind fun text =>
      (readRounds (runRound verbose digitAfter?) none text).bind fun read =>
        (some (Text.trimLeft read.2)).map fun rest => (read.1.filter (· < UInt32.size), rest) := by
  rw [Option.bind_some, readRounds, digits_eq verbose none (Nat.lt_succ_self _)]
  rfl

theorem readsOn_decimal (verbose : Bool) (text : List Char) :
    ReadsOn (fun text => some (decimal? verbose text)) text := by
  simp only [decimal_eq]
  refine (readsOn_trimLeft text).andThen fun _ text => ?_
  refine (readsOn_run verbose digitAfter? (fun _ => rfl) none text).andThen fun read text => ?_
  have ends : ReadsOn (fun text => (some (Text.trimLeft text)).map fun rest =>
      (read.1.filter (· < UInt32.size), rest)) text :=
    .mapped (fun _ _ => rfl) (readsOn_trimLeft text)
  exact ends

def bounds? (least most : Option Nat) : List Char → Option (Nat × Option Nat × List Char)
  | [] => none
  | c :: rest =>
    if c = '\x7d' then
      (least.bind fun least => most.bind fun most =>
        if least ≤ most then some (least, most) else none).map fun bounds => (bounds.1, some bounds.2, rest)
    else none

def upTo? (verbose : Bool) (least : Option Nat) : List Char → Option (Nat × Option Nat × List Char)
  | [] => none
  | c :: rest =>
    if c = '\x7d' then least.map fun least => (least, none, rest)
    else (some (decimal? verbose (c :: rest))).bind fun read => bounds? least read.1 read.2

def countsEnd? (verbose : Bool) (least : Option Nat) : List Char → Option (Nat × Option Nat × List Char)
  | [] => none
  | c :: rest =>
    if c = ',' then upTo? verbose least (skip verbose rest)
    else if c = '\x7d' then least.map fun least => (least, some least, rest)
    else none

theorem bounds_closing (least most : Option Nat) (rest : List Char) :
    bounds? least most ('\x7d' :: rest) = match least, most with
      | some least, some most => if least ≤ most then some (least, some most, rest) else none
      | _, _ => none := by
  cases least with
  | none => rfl
  | some least =>
    cases most with
    | none => rfl
    | some most =>
      by_cases ordered : least ≤ most
      · simp only [bounds?, Option.bind_some, if_pos ordered]
        rfl
      · simp only [bounds?, Option.bind_some, if_neg ordered]
        rfl

theorem counts_eq (verbose : Bool) (text : List Char) : counts? verbose text =
    (some (decimal? verbose (skip verbose text))).bind fun read => countsEnd? verbose read.1 read.2 := by
  unfold counts?
  generalize skip verbose text = settled
  rw [Option.bind_some]
  cases settled with
  | nil => rfl
  | cons c rest =>
    simp only
    obtain ⟨least, rest⟩ := decimal? verbose (c :: rest)
    dsimp only
    split
    · rename_i rest
      rw [countsEnd?, if_pos rfl]
      cases skip verbose rest with
      | nil => cases least <;> rfl
      | cons c rest =>
        split
        · rename_i same
          obtain ⟨rfl, rfl⟩ := List.cons.inj same
          rfl
        · rename_i other
          rw [upTo?, if_neg fun same => other rest (by rw [same]), Option.bind_some]
          obtain ⟨most, rest⟩ := decimal? verbose (c :: rest)
          dsimp only
          split
          · rename_i rest
            exact (bounds_closing (some _) (some _) rest).symm
          · rename_i unclosed
            cases rest with
            | nil => rfl
            | cons d rest =>
              by_cases brace : d = '\x7d'
              · subst brace
                rw [bounds_closing]
                split
                · exact (unclosed _ _ _ rfl rfl rfl).elim
                · rfl
              · exact (if_neg brace).symm
    · rfl
    · rename_i separated closed
      cases rest with
      | nil => rfl
      | cons d rest =>
        rw [countsEnd?, if_neg fun same => separated rest (by rw [same]),
          if_neg fun same => closed rest (by rw [same])]

theorem readsOn_bounds (least most : Option Nat) (text : List Char) : ReadsOn (bounds? least most) text := by
  cases text with
  | nil => exact .failing rfl fun _ => rfl
  | cons c rest =>
    by_cases brace : c = '\x7d'
    · apply ReadsOn.head
      simp only [bounds?, if_pos brace]
      exact .giving (fun _ _ _ => rfl) rest
    · exact .failing (if_neg brace) fun _ => if_neg brace

theorem readsOn_upTo (verbose : Bool) (least : Option Nat) (text : List Char) :
    ReadsOn (upTo? verbose least) text := by
  cases text with
  | nil => exact .failing rfl fun _ => rfl
  | cons c rest =>
    by_cases brace : c = '\x7d'
    · apply ReadsOn.head
      simp only [upTo?, if_pos brace]
      exact .giving (fun _ _ _ => rfl) rest
    · have bounded : ReadsOn (fun text => (some (decimal? verbose text)).bind fun read =>
          bounds? least read.1 read.2) (c :: rest) :=
        .andThen (readsOn_decimal verbose (c :: rest)) fun read text => readsOn_bounds least read.1 text
      exact bounded.congr (if_neg brace) fun _ => if_neg brace

theorem readsOn_countsEnd (verbose : Bool) (least : Option Nat) (text : List Char) :
    ReadsOn (countsEnd? verbose least) text := by
  cases text with
  | nil => exact .failing rfl fun _ => rfl
  | cons c rest =>
    by_cases comma : c = ','
    · exact (ReadsOn.skipping verbose (readsOn_upTo verbose least) rest).cons fun _ => if_pos comma
    by_cases brace : c = '\x7d'
    · apply ReadsOn.head
      simp only [countsEnd?, if_neg comma, if_pos brace]
      exact .giving (fun _ _ _ => rfl) rest
    · have fails (rest : List Char) : countsEnd? verbose least (c :: rest) = none := by
        rw [countsEnd?, if_neg comma, if_neg brace]
      exact .failing (fails rest) fun _ => fails _

theorem readsOn_counts (verbose : Bool) (text : List Char) : ReadsOn (counts? verbose) text := by
  rw [funext (counts_eq verbose)]
  exact .andThen (ReadsOn.skipping verbose (readsOn_decimal verbose) text) fun read text =>
    readsOn_countsEnd verbose read.1 text

end Weave.Regex
