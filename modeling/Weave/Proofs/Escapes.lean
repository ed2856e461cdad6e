import Weave.Proofs.Lookahead

/-! Escapes and layout with more behind the text. All that a backslash introduces is read to its own end,
with one exception: a boundary before an opening brace looks behind the brace for the name of a boundary. -/

namespace Weave.Regex

open Leftover

variable (verbose : Bool)

/-! ### Layout -/

theorem skipLayout_suffix (comment : Bool) (text : List Char) : skipLayout comment text <:+ text := by
  induction text generalizing comment with
  | nil => exact List.nil_suffix
  | cons c rest ih =>
    unfold skipLayout
    split
    · exact (ih _).trans (List.suffix_cons c rest)
    · split
      · exact (ih _).trans (List.suffix_cons c rest)
      · split
        · exact (ih _).trans (List.suffix_cons c rest)
        · exact List.suffix_rfl

theorem skip_suffix (text : List Char) : skip verbose text <:+ text := by
  cases verbose with
  | false => exact List.suffix_rfl
  | true => exact skipLayout_suffix false text

theorem readsOn_skipLayout (comment : Bool) (text : List Char) :
    ReadsOn (fun text => some (skipLayout comment text)) text := by
  induction text generalizing comment with
  | nil =>
    cases comment with
    | false => exact .within [] rfl List.suffix_rfl fun _ => rfl
    | true =>
      refine .drained [] rfl rfl rfl fun more result found => ?_
      obtain rfl := Option.some.inj found
      exact skipLayout_suffix true more
  | cons c rest ih =>
    by_cases commented : comment = true
    · exact (ih (c ≠ '\n')).cons fun rest => by rw [skipLayout, if_pos commented]
    by_cases blank : Text.isBlank c = true
    · exact (ih false).cons fun rest => by rw [skipLayout, if_neg commented, if_pos blank]
    by_cases sign : c = '#'
    · exact (ih true).cons fun rest => by rw [skipLayout, if_neg commented, if_neg blank, if_pos sign]
    · have stays (rest : List Char) : skipLayout comment (c :: rest) = c :: rest := by
        rw [skipLayout, if_neg commented, if_neg blank, if_neg sign]
      exact .within (c :: rest) (congrArg some (stays rest)) List.suffix_rfl fun more =>
        congrArg some (stays _)

theorem readsOn_skip (text : List Char) : ReadsOn (fun text => some (skip verbose text)) text := by
  cases verbose with
  | false => exact .within text rfl List.suffix_rfl fun _ => rfl
  | true => exact readsOn_skipLayout false text

section

variable {β : Type} [Leftover β]

theorem ReadsOn.skipping {read : List Char → Option β} (reads : ∀ text, ReadsOn read text)
    (text : List Char) : ReadsOn (fun text => read (skip verbose text)) text :=
  (readsOn_skip verbose text).andThen fun _ => reads

theorem ReadsOn.settling (result : List Char → β)
    (same : ∀ text other, put (result text) other = result other) (text : List Char) :
    ReadsOn (fun text => some (result (skip verbose text))) text :=
  skipping verbose (returning same) text

def settle {α : Type} (result : α × List Char) : α × List Char := (result.1, skip verbose result.2)

theorem ReadsOn.settled {α : Type} {read : List Char → Option (α × List Char)} {text : List Char}
    (reads : ReadsOn read text) : ReadsOn (fun text => (read text).map (settle verbose)) text := by
  have same : (fun text => (read text).map (settle verbose)) =
      fun text => (read text).bind fun result => some (settle verbose result) :=
    funext fun text => (Option.map_eq_bind ..)
  rw [same]
  refine reads.bind (fun result _ => ?_) fun result after found => ?_
  · exact settling verbose (result.1, ·) (fun _ _ => rfl) _
  · obtain rfl := Option.some.inj found
    exact skip_suffix verbose _

def spaced {γ σ : Type} (step : σ → List Char → Option (Round γ σ)) (state : σ) (text : List Char) :
    Option (Round γ σ) :=
  step state (skip verbose text)

theorem readsOn_spacedRounds {σ : Type} {step : σ → List Char → Option (Round β σ)}
    (heads : ∀ state c rest, ReadsOn (fun rest => step state (c :: rest)) rest)
    (stops : ∀ state, step state [] = none) (passes : ∀ state, Overruns (step state) [])
    (state : σ) (text : List Char) : ReadsOn (readRounds (spaced verbose step) state) text := by
  have round (state : σ) (text : List Char) : ReadsOn (step state) text := by
    cases text with
    | nil => exact .short (stops state) (passes state)
    | cons c rest => exact (heads state c rest).head
  have advances : Advances (spaced verbose step) := by
    intro state text next found
    unfold spaced at found
    have settled := (skip_suffix verbose text).length_le
    cases ahead : skip verbose text with
    | nil =>
      rw [ahead, stops state] at found
      contradiction
    | cons c rest =>
      rw [ahead] at found settled
      have shorter := ((heads state c rest).suffix found).length_le
      change next.2.length ≤ rest.length at shorter
      rw [List.length_cons] at settled
      omega
  exact readsOn_rounds advances (fun state => ReadsOn.skipping verbose (round state)) state text

end

def runRound {σ : Type} (next? : σ → Char → Option σ) (state : σ) :
    List Char → Option (Round (σ × List Char) σ)
  | [] => some (.inl (state, []))
  | c :: rest =>
    some ((next? state c).elim (.inl (state, c :: rest)) fun after => .inr (after, skip verbose rest))

theorem readsOn_run {σ : Type} (next? : σ → Char → Option σ) (stops : ∀ state, next? state ')' = none)
    (state : σ) (text : List Char) : ReadsOn (readRounds (runRound verbose next?) state) text := by
  refine readsOn_rounds (fun state text after found => ?_) (fun state text => ?_) state text
  · cases text with
    | nil => exact nomatch found
    | cons c rest =>
      have shorter := (skip_suffix verbose rest).length_le
      have outcome := Option.some.inj found
      cases further : next? state c with
      | none =>
        rw [further] at outcome
        contradiction
      | some next =>
        rw [further] at outcome
        obtain rfl := Sum.inr.inj outcome
        exact Nat.lt_succ_of_le shorter
  · cases text with
    | nil =>
      refine .within (.inl (state, [])) rfl List.suffix_rfl fun more => ?_
      rw [List.nil_append, runRound, stops]
      rfl
    | cons c rest =>
      cases further : next? state c with
      | none =>
        have ends (rest : List Char) :
            runRound verbose next? state (c :: rest) = some (.inl (state, c :: rest)) := by
          rw [runRound, further]
          rfl
        exact .within (.inl (state, c :: rest)) (ends rest) List.suffix_rfl fun _ => ends _
      | some after =>
        have goes := ReadsOn.settling verbose
          (fun text => (Sum.inr (after, text) : Round (σ × List Char) σ)) (fun _ _ => rfl) rest
        refine goes.cons fun rest => ?_
        rw [runRound, further]
        rfl

theorem skipLayout_skipLayout (comment : Bool) (text : List Char) :
    skipLayout false (skipLayout comment text) = skipLayout comment text := by
  induction text generalizing comment with
  | nil => rfl
  | cons c rest ih =>
    rw [skipLayout]
    split
    · exact ih _
    · split
      · exact ih _
      · split
        · exact ih _
        · rename_i blank sign
          rw [skipLayout, if_neg Bool.false_ne_true, if_neg blank, if_neg sign]

def Settled (c : Char) : Prop := ∀ rest, skip verbose (c :: rest) = c :: rest

theorem settled_of_skip {text : List Char} {c : Char} {rest : List Char}
    (ahead : skip verbose text = c :: rest) : Settled verbose c := by
  cases verbose with
  | false => exact fun _ => rfl
  | true =>
    change skipLayout false text = c :: rest at ahead
    have again : skipLayout false (c :: rest) = c :: rest := by rw [← ahead, skipLayout_skipLayout]
    have stays : ¬ Text.isBlank c = true ∧ ¬ c = '#' := by
      constructor
      · intro blank
        rw [skipLayout, if_neg Bool.false_ne_true, if_pos blank] at again
        have shorter := (skipLayout_suffix false rest).length_le
        rw [again, List.length_cons] at shorter
        omega
      · intro sign
        rw [sign, skipLayout, if_neg Bool.false_ne_true, if_neg (by decide), if_pos rfl] at again
        have shorter := (skipLayout_suffix true rest).length_le
        rw [again, List.length_cons] at shorter
        omega
    intro other
    change skipLayout false (c :: other) = _
    rw [skipLayout, if_neg Bool.false_ne_true, if_neg stays.1, if_neg stays.2]

section

variable {β : Type} [Leftover β] {read : List Char → Option β}

theorem ReadsOn.behindLayout (skips : ∀ text, read (skip verbose text) = read text) (ends : ReadsOn read [])
    (heads : ∀ c, Settled verbose c → ∀ rest, ReadsOn read (c :: rest)) (text : List Char) :
    ReadsOn read text := by
  have reads (text : List Char) : ReadsOn read (skip verbose text) := by
    cases ahead : skip verbose text with
    | nil => exact ends
    | cons c rest => exact heads c (settled_of_skip verbose ahead) rest
  have whole : ReadsOn (fun text => (some (skip verbose text)).bind read) text := by
    refine (readsOn_skip verbose text).bind (fun result found => ?_) fun result after found => ?_
    · obtain rfl := Option.some.inj found
      exact reads text
    · rw [← skips] at found
      exact ((reads result).suffix found).trans (skip_suffix verbose result)
  exact whole.congr (skips text).symm fun more => (skips _).symm

theorem ReadsOn.as {other : List Char → Option β} {c : Char} {text : List Char}
    (reads : ReadsOn read (c :: text)) (same : ∀ rest, other (c :: rest) = read (c :: rest)) :
    ReadsOn other (c :: text) :=
  reads.congr (same text) fun _ => same _

end

theorem ReadsOn.valued {α γ δ : Type} {read : List Char → Option (α × List Char)} {text : List Char}
    (value? : α → Option γ) (result : γ → δ) (reads : ReadsOn read text) :
    ReadsOn (fun text => do
      let (found, rest) ← read text
      return (result (← value? found), rest)) text := by
  refine reads.andThen fun found text => ?_
  change ReadsOn (fun rest => (value? found.1).bind fun value => some (result value, rest)) text
  cases value? found.1 with
  | none => exact .failing rfl fun _ => rfl
  | some value => exact .returning (fun _ _ => rfl) text

theorem settled_closing : Settled verbose ')' := by
  cases verbose with
  | false => exact fun _ => rfl
  | true => exact fun _ => rfl

/-! ### Hexadecimal digits and names in braces -/

theorem readsOn_hexDigits (count value : Nat) (text : List Char) :
    ReadsOn (hexDigits? verbose count value) text := by
  induction count generalizing value text with
  | zero => exact .returning (fun _ _ => rfl) text
  | succ count ih =>
    cases text with
    | nil => exact .failing rfl fun _ => rfl
    | cons c rest =>
      apply ReadsOn.head
      simp only [hexDigits?]
      cases hexValue? c with
      | none => exact .failing rfl fun _ => rfl
      | some digit => exact ReadsOn.skipping verbose (ih (16 * value + digit)) rest

def hexRound (value : Option Nat) : List Char → Option (Round (Nat × List Char) (Option Nat))
  | [] => none
  | c :: rest =>
    if c = '\x7d' then value.map fun n => .inl (n, rest)
    else (hexValue? c).map fun digit => .inr (some (16 * value.getD 0 + digit), rest)

def nameRound (name : List Char) : List Char → Option (Round (String × List Char) (List Char))
  | [] => none
  | c :: rest =>
    if c = '\x7d' then some (.inl (String.ofList name.reverse, rest)) else some (.inr (c :: name, rest))

theorem hexBraced_eq (bound : Nat) (value : Option Nat) (text : List Char) :
    hexBraced? verbose bound value text =
      (rounds (spaced verbose hexRound) bound value text).map (settle verbose) := by
  induction bound generalizing value text with
  | zero => rfl
  | succ bound ih =>
    rw [hexBraced?, rounds, spaced]
    generalize skip verbose text = settled
    split
    · rw [hexRound, if_pos rfl]
      cases value with
      | none => rfl
      | some => rfl
    · rename_i c rest other
      rw [hexRound, if_neg other]
      cases hexValue? c with
      | none => rfl
      | some digit => exact ih _ rest
    · rfl

theorem bracedName_eq (bound : Nat) (name text : List Char) :
    bracedName? verbose bound name text = rounds (spaced verbose nameRound) bound name text := by
  induction bound generalizing name text with
  | zero => rfl
  | succ bound ih =>
    rw [bracedName?, rounds, spaced]
    generalize skip verbose text = settled
    split
    · rw [nameRound, if_pos rfl]
      rfl
    · rename_i c rest other
      rw [nameRound, if_neg other]
      exact ih _ rest
    · rfl

theorem readsOn_hexBraced (text : List Char) :
    ReadsOn (fun text => hexBraced? verbose (text.length + 1) none text) text := by
  simp only [hexBraced_eq]
  refine (readsOn_spacedRounds verbose (fun value c rest => ?_) (fun _ => rfl)
    (fun _ => overruns_of_none fun _ => rfl) none text).settled verbose
  by_cases brace : c = '\x7d'
  · simp only [hexRound, if_pos brace]
    exact .giving (fun _ _ _ => rfl) rest
  · simp only [hexRound, if_neg brace]
    exact .giving (fun _ _ _ => rfl) rest

theorem readsOn_bracedName (text : List Char) :
    ReadsOn (fun text => bracedName? verbose (text.length + 1) [] text) text := by
  simp only [bracedName_eq]
  refine readsOn_spacedRounds verbose (fun name c rest => ?_) (fun _ => rfl)
    (fun name more result found => ?_) [] text
  · by_cases brace : c = '\x7d'
    · simp only [nameRound, if_pos brace]
      exact .returning (fun _ _ => rfl) rest
    · simp only [nameRound, if_neg brace]
      exact .returning (fun _ _ => rfl) rest
  · obtain rfl := Option.some.inj found
    exact List.suffix_rfl

/-! ### Escapes -/

theorem skip_skip (text : List Char) : skip verbose (skip verbose text) = skip verbose text := by
  cases verbose with
  | false => rfl
  | true => exact skipLayout_skipLayout false text

theorem readsOn_hexEscape (digits : Nat) (text : List Char) : ReadsOn (hexEscape? verbose digits) text := by
  have braced (rest : List Char) :=
    (readsOn_hexBraced verbose rest).valued scalar? fun c => Primitive.literal ⟨c, false⟩
  have plain (text : List Char) :=
    (readsOn_hexDigits verbose digits 0 text).valued scalar? fun c => Primitive.literal ⟨c, digits = 2⟩
  refine .behindLayout verbose (fun text => by rw [hexEscape?, skip_skip]; rfl) ?_
    (fun c settled rest => ?_) text
  · refine (plain []).congr (by cases verbose <;> rfl) fun more => ?_
    simp only [hexEscape?, List.nil_append, settled_closing verbose more]
    rfl
  · by_cases brace : c = '\x7b'
    · subst brace
      refine (braced rest).cons fun rest => ?_
      simp only [hexEscape?, settled rest]
    · refine (plain (c :: rest)).as fun rest => ?_
      simp only [hexEscape?, settled rest, List.cons.injEq, brace, false_and, imp_self, implies_true]

theorem readsOn_propertyEscape (negated : Bool) (text : List Char) :
    ReadsOn (propertyEscape? verbose negated) text := by
  have braced (rest : List Char) := (readsOn_bracedName verbose rest).valued some fun name =>
    Primitive.property (PropertyName.ofText name) negated
  have plain (c : Char) (rest : List Char) :
      ReadsOn (fun rest => some (Primitive.property (.named c.toString) negated, skip verbose rest)) rest :=
    .settling verbose (Primitive.property (.named c.toString) negated, ·) (fun _ _ => rfl) rest
  refine .behindLayout verbose (fun text => by rw [propertyEscape?, skip_skip]; rfl) ?_
    (fun c settled rest => ?_) text
  · refine .short (by cases verbose <;> rfl) fun more result found => ?_
    simp only [propertyEscape?, List.nil_append, settled_closing verbose more] at found
    obtain rfl := Option.some.inj found
    exact skip_suffix verbose more
  · by_cases brace : c = '\x7b'
    · subst brace
      refine (braced rest).cons fun rest => ?_
      simp only [propertyEscape?, settled rest]
      rfl
    by_cases slash : c = '\\'
    · subst slash
      have fails (rest : List Char) : propertyEscape? verbose negated ('\\' :: rest) = none := by
        simp only [propertyEscape?, settled rest]
      exact .failing (fails rest) fun _ => fails _
    · refine (plain c rest).cons fun rest => ?_
      simp only [propertyEscape?, settled rest]

def boundaryMark? : String → Option Mark
  | "start" => some .wordStart
  | "end" => some .wordEnd
  | "start-half" => some .wordStartHalf
  | "end-half" => some .wordEndHalf
  | _ => none

theorem skip_behind {text : List Char} {c : Char} {ahead : List Char}
    (found : skip verbose text = c :: ahead) (more : List Char) :
    skip verbose (text ++ ')' :: more) = c :: (ahead ++ ')' :: more) := by
  cases readsOn_skip verbose text with
  | within result alone _ behind =>
    obtain rfl := Option.some.inj alone
    rw [Option.some.inj (behind more), found]
    rfl
  | drained result alone emptied _ _ =>
    obtain rfl := Option.some.inj alone
    exact nomatch found.symm.trans emptied
  | short alone _ => contradiction

theorem boundaryEscape_braced {rest : List Char} {c : Char} {ahead : List Char}
    (found : skip verbose rest = c :: ahead) :
    boundaryEscape? verbose ('\x7b' :: rest) = if isBoundaryNameChar c then do
      let (name, rest) ← bracedName? verbose (rest.length + 1) [] rest
      return (Primitive.mark (← boundaryMark? name), rest)
    else some (.mark .boundary, '\x7b' :: rest) := by
  simp only [boundaryEscape?, found]
  split
  · congr 1
    funext ⟨name, rest⟩
    unfold boundaryMark?
    dsimp only
    split <;> simp_all
  · rfl

inductive EscapeKind where
  | single (item : Primitive)
  | hexadecimal (digits : Nat)
  | property (negated : Bool)
  | boundary
  | unknown

def escapeKind (c : Char) : EscapeKind :=
  let char (d : Char) : EscapeKind := .single (.literal ⟨d, false⟩)
  if isEscapable c then char c
  else
    match c with
    | 'x' => .hexadecimal 2
    | 'u' => .hexadecimal 4
    | 'U' => .hexadecimal 8
    | 'p' => .property false
    | 'P' => .property true
    | 'd' => .single (.letter .digit false)
    | 'D' => .single (.letter .digit true)
    | 's' => .single (.letter .blank false)
    | 'S' => .single (.letter .blank true)
    | 'w' => .single (.letter .word false)
    | 'W' => .single (.letter .word true)
    | 'a' => char '\x07'
    | 'f' => char '\x0c'
    | 't' => char '\t'
    | 'n' => char '\n'
    | 'r' => char '\r'
    | 'v' => char '\x0b'
    | 'A' => .single (.mark .textStart)
    | 'z' => .single (.mark .textEnd)
    | 'b' => .boundary
    | 'B' => .single (.mark .notBoundary)
    | '<' => .single (.mark .wordStart)
    | '>' => .single (.mark .wordEnd)
    | _ => .unknown

def EscapeKind.read? (text : List Char) : EscapeKind → Option (Primitive × List Char)
  | single item => some (item, text)
  | hexadecimal digits => hexEscape? verbose digits text
  | property negated => propertyEscape? verbose negated text
  | boundary => boundaryEscape? verbose text
  | unknown => none

theorem escape_cons (c : Char) (rest : List Char) :
    escape? verbose (c :: rest) = (escapeKind c).read? verbose rest := by
  by_cases escapable : isEscapable c = true
  · simp only [escape?, escapeKind, if_pos escapable]
    rfl
  · simp only [escape?, escapeKind, if_neg escapable]
    split <;> simp_all [EscapeKind.read?]

theorem escapeKind_boundary {c : Char} (kind : escapeKind c = .boundary) : c = 'b' := by
  unfold escapeKind at kind
  split at kind
  · contradiction
  · split at kind <;> first | rfl | contradiction

/-- A boundary before an opening brace and no more than layout behind it. -/
def Dangling (text : List Char) : Prop := ∃ rest, text = 'b' :: '\x7b' :: rest ∧ skip verbose rest = []

theorem readsOn_boundaryEscape {text : List Char} (firm : ¬ Dangling verbose ('b' :: text)) :
    ReadsOn (boundaryEscape? verbose) text := by
  have named (rest : List Char) := (readsOn_bracedName verbose rest).valued boundaryMark? Primitive.mark
  cases text with
  | nil => exact .within (.mark .boundary, []) rfl List.suffix_rfl fun _ => rfl
  | cons c rest =>
    by_cases brace : c = '\x7b'
    · subst brace
      cases ahead : skip verbose rest with
      | nil => exact (firm ⟨rest, rfl, ahead⟩).elim
      | cons d others =>
        have alone := boundaryEscape_braced verbose ahead
        have behind (more : List Char) := boundaryEscape_braced verbose (skip_behind verbose ahead more)
        by_cases name : isBoundaryNameChar d = true
        · rw [if_pos name] at alone
          refine (named rest).after alone fun more => ?_
          rw [behind, if_pos name]
        · rw [if_neg name] at alone
          refine .within (.mark .boundary, '\x7b' :: rest) alone List.suffix_rfl fun more => ?_
          exact (behind more).trans (if_neg name)
    · have stays (rest : List Char) :
          boundaryEscape? verbose (c :: rest) = some (.mark .boundary, c :: rest) := by
        simp only [boundaryEscape?, List.cons.injEq, brace, false_and, imp_self, implies_true]
      exact .within (.mark .boundary, c :: rest) (stays rest) List.suffix_rfl fun _ => stays _

theorem readsOn_escape {text : List Char} (firm : ¬ Dangling verbose text) :
    ReadsOn (escape? verbose) text := by
  cases text with
  | nil =>
    refine .short rfl fun more result found => ?_
    obtain rfl := Option.some.inj found
    exact List.suffix_rfl
  | cons c rest =>
    suffices reads : ReadsOn (fun rest => (escapeKind c).read? verbose rest) rest from
      reads.cons fun rest => escape_cons verbose c rest
    cases kind : escapeKind c with
    | single item => exact .returning (fun _ _ => rfl) rest
    | hexadecimal digits => exact readsOn_hexEscape verbose digits rest
    | property negated => exact readsOn_propertyEscape verbose negated rest
    | boundary =>
      obtain rfl := escapeKind_boundary kind
      exact readsOn_boundaryEscape verbose firm
    | unknown => exact .failing rfl fun _ => rfl

theorem boundaryEscape_mark {text : List Char} {result : Primitive × List Char}
    (found : boundaryEscape? verbose text = some result) : ∃ mark, result.1 = .mark mark := by
  unfold boundaryEscape? at found
  split at found
  · split at found
    · contradiction
    · split at found
      · obtain ⟨named, -, marked⟩ := Option.bind_eq_some_iff.1 found
        dsimp only at marked
        split at marked
        all_goals first
          | contradiction
          | exact ⟨_, (congrArg Prod.fst (Option.some.inj marked)).symm⟩
      · exact ⟨_, (congrArg Prod.fst (Option.some.inj found)).symm⟩
  · exact ⟨_, (congrArg Prod.fst (Option.some.inj found)).symm⟩

/-- With more behind it, a boundary that dangles leaves its brace, if it does not take the parenthesis
along. -/
theorem escape_dangling {rest : List Char} (blank : skip verbose rest = []) :
    escape? verbose ('b' :: '\x7b' :: rest) = none ∧
      ∀ more result, escape? verbose ('b' :: '\x7b' :: rest ++ ')' :: more) = some result →
        result.2 = '\x7b' :: rest ++ ')' :: more ∨ result.2 <:+ more := by
  constructor
  · change boundaryEscape? verbose ('\x7b' :: rest) = none
    simp only [boundaryEscape?, blank]
  · intro more result found
    change boundaryEscape? verbose ('\x7b' :: (rest ++ ')' :: more)) = _ at found
    cases ahead : skip verbose (rest ++ ')' :: more) with
    | nil =>
      simp only [boundaryEscape?, ahead] at found
      contradiction
    | cons d others =>
      rw [boundaryEscape_braced verbose ahead] at found
      by_cases name : isBoundaryNameChar d = true
      · rw [if_pos name] at found
        have reads := (readsOn_bracedName verbose rest).valued boundaryMark? Primitive.mark
        have missing : bracedName? verbose (rest.length + 1) [] rest = none := by
          simp only [bracedName?, blank]
        cases reads with
        | within _ alone _ _ => exact nomatch (missing ▸ alone :)
        | drained _ alone _ _ _ => exact nomatch (missing ▸ alone :)
        | short _ overruns => exact .inr (overruns more result found)
      · rw [if_neg name] at found
        obtain rfl := Option.some.inj found
        exact .inl rfl

end Weave.Regex
