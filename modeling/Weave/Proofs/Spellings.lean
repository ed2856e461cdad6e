import Weave.Proofs.ExecutionTexts

/-! Spellings of an execution expression. Words in front of the name say what the method returns, a
parameter list may stand behind it, the whole may be put inside `execution( )`, and blanks may be
spread around everything that they do not part. None of this is seen in the rules that are read. -/

namespace Weave

namespace Execution

open Text

abbrev opening : List Char := "execution(".toList

theorem opening_isWord : IsWord opening := ⟨by decide, by decide⟩

abbrev Blanks := { text : List Char // AllBlank text }

/-- A word in front of the name, with the blanks that part it from what follows. -/
structure ReturnWord where
  word : List Char
  gap : List Char
  isWord : IsWord word
  closed : '(' ∉ word
  parted : gap ≠ []
  blank : AllBlank gap

/-- All that may be written around the name of a method. -/
structure Spelling where
  before : Blanks
  /-- The blanks next to the parentheses of `execution( )`, if the text is put inside them. -/
  wrapping : Option (Blanks × Blanks)
  returns : List ReturnWord
  parameters : Option { text : List Char // Solid text }
  behind : Blanks

namespace Spelling

def front (spelling : Spelling) : List Char := spelling.returns.flatMap fun entry => entry.word ++ entry.gap

def parameterList (spelling : Spelling) : List Char :=
  match spelling.parameters with
  | none => []
  | some inside => '(' :: (inside.val ++ [')'])

def signature (spelling : Spelling) (name : List Char) : List Char :=
  spelling.front ++ (name ++ spelling.parameterList)

def text (spelling : Spelling) (name : List Char) : List Char :=
  let signature := spelling.signature name
  let inner :=
    match spelling.wrapping with
    | none => signature
    | some (ahead, after) => opening ++ ((ahead.val ++ (signature ++ after.val)) ++ [')'])
  spelling.before.val ++ (inner ++ spelling.behind.val)

variable (spelling : Spelling) {name : List Char}

theorem isParameterList : ParameterList spelling.parameterList := by
  rw [parameterList]
  cases spelling.parameters with
  | none => exact .absent
  | some inside => exact .enclosed inside.val

theorem isWord_listed (named : IsWord name) : IsWord (name ++ spelling.parameterList) := by
  apply named.append
  rw [parameterList]
  cases spelling.parameters with
  | none => exact List.forall_mem_nil _
  | some inside =>
    have enclosed : Solid (inside.val ++ [')']) :=
      List.forall_mem_append.2 ⟨inside.property, List.forall_mem_singleton.2 (by decide)⟩
    exact List.forall_mem_cons.2 ⟨by decide, enclosed⟩

theorem words_signature (named : IsWord name) :
    words (spelling.signature name) =
      spelling.returns.map (·.word) ++ [name ++ spelling.parameterList] := by
  rw [signature, front]
  induction spelling.returns with
  | nil => exact words_isWord (spelling.isWord_listed named)
  | cons entry others ih =>
    rw [List.flatMap_cons, List.append_assoc, List.append_assoc,
      words_between entry.word entry.parted entry.blank, words_isWord entry.isWord, ih]
    rfl

theorem framed_signature (named : IsWord name) : Framed (spelling.signature name) := by
  have listed : Framed (name ++ spelling.parameterList) := (spelling.isWord_listed named).framed
  rw [signature, front]
  cases spelling.returns with
  | nil => exact listed
  | cons entry others =>
    rw [List.flatMap_cons, List.append_assoc, List.append_assoc, ← List.append_assoc entry.gap]
    exact entry.isWord.framed.around listed _

theorem front_closed : '(' ∉ spelling.front := by
  rw [front, List.mem_flatMap]
  rintro ⟨entry, -, inside⟩
  rcases List.mem_append.1 inside with word | gap
  · exact entry.closed word
  · exact absurd (entry.blank _ gap) (by decide)

theorem front_foreign (returning : spelling.returns ≠ []) : ∃ c ∈ spelling.front, c ∉ opening := by
  obtain ⟨entry, member⟩ := List.exists_mem_of_ne_nil _ returning
  obtain ⟨c, gap⟩ := List.exists_mem_of_ne_nil _ entry.parted
  refine ⟨c, List.mem_flatMap.2 ⟨entry, member, List.mem_append_right _ gap⟩, fun inside => ?_⟩
  have solid : isBlank c = false := opening_isWord.solid c inside
  exact Bool.false_ne_true (solid.symm.trans (entry.blank c gap))

/-- A signature cannot begin with `execution(` if it has no parameter list, or has a character of another
kind in front of the list. -/
theorem unopened (closed : '(' ∉ name)
    (told : spelling.parameters = none ∨ ∃ c ∈ spelling.front ++ name, c ∉ opening) :
    ¬ opening <+: spelling.signature name := by
  have parenthesis : '(' ∈ opening := by decide
  have unread : '(' ∉ spelling.front ++ name := List.not_mem_append spelling.front_closed closed
  rw [signature, ← List.append_assoc]
  intro starts
  rcases told with plain | ⟨c, inside, foreign⟩
  · rw [parameterList, plain, List.append_nil] at starts
    exact unread (starts.subset parenthesis)
  · rcases List.prefix_or_prefix_of_prefix starts (List.prefix_append _ _) with within | beyond
    · exact unread (within.subset parenthesis)
    · exact foreign (beyond.subset inside)

section
variable (named : IsWord name)
  (bare : spelling.wrapping = none → ¬ opening <+: spelling.signature name)
include named bare

/-- Inside `execution( )` or bare, the body is what is written there without the blanks around it. A bare
text must not look as if it were inside. -/
theorem body_text : body (spelling.text name) = .ok (spelling.signature name) := by
  have framed := spelling.framed_signature named
  cases wrapping : spelling.wrapping with
  | none =>
    have trimmed : trim (spelling.text name) = spelling.signature name := by
      simp only [text, wrapping]
      exact trim_framed spelling.before.property spelling.behind.property framed
    have unopened : ¬ opening.isPrefixOf (spelling.signature name) = true :=
      mt List.isPrefixOf_iff_prefix.1 (bare wrapping)
    simp only [body, trimmed, if_neg unopened]
  | some sides =>
    obtain ⟨ahead, after⟩ := sides
    have closing : IsWord [')'] := ⟨by decide, by decide⟩
    have trimmed : trim (spelling.text name) =
        opening ++ ((ahead.val ++ (spelling.signature name ++ after.val)) ++ [')']) := by
      simp only [text, wrapping]
      exact trim_framed spelling.before.property spelling.behind.property
        (opening_isWord.framed.around closing.framed _)
    have opened : opening.isPrefixOf (trim (spelling.text name)) = true := by
      rw [trimmed]
      exact List.isPrefixOf_iff_prefix.2 (List.prefix_append opening _)
    rw [body]
    simp only [if_pos opened]
    rw [trimmed, List.drop_left, List.getLast?_concat, if_pos rfl, List.dropLast_concat,
      trim_framed ahead.property after.property framed]

theorem lastWord?_text :
    lastWord? (spelling.text name) = some (name ++ spelling.parameterList) := by
  rw [lastWord?, spelling.body_text named bare]
  change (words (spelling.signature name)).getLast? = _
  rw [spelling.words_signature named, List.getLast?_concat]

theorem read_text {typeRule : Option (List Char)} {methodRule : List Char} (closed : '(' ∉ name)
    (halves : Halves name typeRule methodRule) :
    read (spelling.text name) = .ok (typeRule, methodRule) := by
  refine read_eq_ok.2
    ⟨⟨name, spelling.parameterList, typeRule, methodRule, ?_, closed, ?_, halves⟩, rfl, rfl⟩
  · exact spelling.lastWord?_text named bare
  · exact spelling.isParameterList

end

end Spelling

/-! ### Names of methods -/

/-- A word that can be a type rule, in front of either separator. -/
structure IsTypeRule (text : List Char) : Prop extends IsWord text where
  closed : '(' ∉ text
  uncoloned : ':' ∉ text

/-- A word that can be a method rule, behind either separator. -/
structure IsMethodRule (text : List Char) : Prop extends IsTypeRule text where
  undotted : '.' ∉ text

theorem not_infix_colons {text : List Char} (plain : ':' ∉ text) : ¬ [':', ':'] <:+: text :=
  fun within => plain (within.subset (List.mem_cons_self ..))

inductive Separator where
  | dot
  | colons

theorem IsMethodRule.halves {methodRule : List Char} (named : IsMethodRule methodRule) :
    Halves methodRule none methodRule :=
  .whole named.nonempty (not_infix_colons named.uncoloned) named.undotted

namespace Separator

def text : Separator → List Char
  | dot => ['.']
  | colons => [':', ':']

def join (separator : Separator) (typeRule methodRule : List Char) : List Char :=
  typeRule ++ (separator.text ++ methodRule)

variable (separator : Separator) {typeRule methodRule : List Char}

theorem text_isWord : IsWord separator.text := by
  cases separator <;> exact ⟨by decide, by decide⟩

theorem text_closed : '(' ∉ separator.text := by
  cases separator <;> decide

theorem join_isWord (typed : IsTypeRule typeRule) (named : IsMethodRule methodRule) :
    IsWord (separator.join typeRule methodRule) :=
  typed.toIsWord.append (List.forall_mem_append.2 ⟨separator.text_isWord.solid, named.solid⟩)

theorem join_closed (typed : IsTypeRule typeRule) (named : IsMethodRule methodRule) :
    '(' ∉ separator.join typeRule methodRule :=
  List.not_mem_append typed.closed (List.not_mem_append separator.text_closed named.closed)

theorem join_foreign (typeRule methodRule : List Char) :
    ∃ c ∈ separator.join typeRule methodRule, c ∉ opening := by
  cases separator with
  | dot => exact ⟨'.', by simp [join, text], by decide⟩
  | colons => exact ⟨':', by simp [join, text], by decide⟩

theorem join_halves (typed : IsTypeRule typeRule) (named : IsMethodRule methodRule) :
    Halves (separator.join typeRule methodRule) (some typeRule) methodRule := by
  cases separator with
  | dot =>
    have uncoloned : ':' ∉ typeRule ++ ('.' :: methodRule) :=
      List.not_mem_append typed.uncoloned
        (List.not_mem_cons_of_ne_of_not_mem (by decide) named.uncoloned)
    exact .dot typed.nonempty named.nonempty (not_infix_colons uncoloned) named.undotted
  | colons =>
    refine .colons typed.nonempty named.nonempty fun within => ?_
    rcases List.infix_cons_iff.1 within with front | later
    · have second : [':'] <+: methodRule := (List.cons_prefix_cons.1 front).2
      exact named.uncoloned (second.subset (List.mem_singleton_self _))
    · exact not_infix_colons named.uncoloned later

end Separator

end Execution

namespace Expression

open Execution

/-- However a method of a type is spelled, its type rule and its method rule are read. So is a method rule
alone, except that outside of `execution( )` it needs a word in front of it if there is a parameter list. -/
theorem spelling_read (spelling : Spelling) (separator : Separator) (typeRule methodRule : String)
    (typed : IsTypeRule typeRule.toList) (named : IsMethodRule methodRule.toList) :
    ofExecution (String.ofList (spelling.text (separator.join typeRule.toList methodRule.toList))) =
        .ok (.execution typeRule methodRule) ∧
      ((spelling.wrapping = none → spelling.parameters = none ∨ spelling.returns ≠ []) →
        ofExecution (String.ofList (spelling.text methodRule.toList)) =
          .ok (.methodPattern methodRule)) := by
  constructor
  · obtain ⟨c, inside, foreign⟩ := separator.join_foreign typeRule.toList methodRule.toList
    have closed := separator.join_closed typed named
    have unopened := spelling.unopened closed (.inr ⟨c, List.mem_append_right _ inside, foreign⟩)
    have read := spelling.read_text (separator.join_isWord typed named) (fun _ => unopened) closed
      (separator.join_halves typed named)
    rw [ofExecution_of_read read, ofRules, String.ofList_toList, String.ofList_toList]
  · intro told
    have unopened : spelling.wrapping = none → ¬ opening <+: spelling.signature methodRule.toList := by
      intro bare
      apply spelling.unopened named.closed
      refine (told bare).imp_right fun returning => ?_
      obtain ⟨c, inside, foreign⟩ := spelling.front_foreign returning
      exact ⟨c, List.mem_append_left _ inside, foreign⟩
    have read := spelling.read_text named.toIsWord unopened named.closed named.halves
    rw [ofExecution_of_read read, ofRules, String.ofList_toList]

/-- Without a word in front, a method of this name would be taken for the word itself. -/
example : ofExecution "execution(u64)" = .ok (.methodPattern "u64") := rfl

def placing : Spelling where
  before := ⟨[' '], by decide⟩
  wrapping := some (⟨['\t'], by decide⟩, ⟨[' ', ' '], by decide⟩)
  returns := [⟨"Result<u64>".toList, [' ', '\n'], ⟨by decide, by decide⟩, by decide, by decide, by decide⟩]
  parameters := some ⟨"u64,(u8)".toList, by decide⟩
  behind := ⟨['\n'], by decide⟩

theorem placing_spelled :
    IsTypeRule "net.Shop".toList ∧ IsMethodRule "place_*".toList ∧
      ofExecution " execution(\tResult<u64> \nnet.Shop::place_*(u64,(u8))  )\n" =
        .ok (.execution "net.Shop" "place_*") ∧
      ofExecution " execution(\tResult<u64> \nplace_*(u64,(u8))  )\n" = .ok (.methodPattern "place_*") := by
  have typed : IsTypeRule "net.Shop".toList := ⟨⟨by decide, by decide⟩, by decide, by decide⟩
  have named : IsMethodRule "place_*".toList := ⟨⟨⟨by decide, by decide⟩, by decide, by decide⟩, by decide⟩
  have returning : placing.returns ≠ [] := List.cons_ne_nil _ _
  have read := spelling_read placing .colons "net.Shop" "place_*" typed named
  exact ⟨typed, named, read.1, read.2 fun _ => .inr returning⟩

end Expression

end Weave
