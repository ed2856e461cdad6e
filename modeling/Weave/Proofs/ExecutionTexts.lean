import Mathlib.Data.List.Infix
import Mathlib.Data.Option.Basic
import Weave.Pointcut.Expression
import Weave.Proofs.Words

/-! Execution expressions and the rules that are read from them. One method can be written down in many
ways: with words in front of its name for what it returns, with a parameter list behind it, inside
`execution( )` or bare, and with blanks wherever they part words. All of them are read alike. What the
last word does not open and close by itself is not seen to belong to a parameter list, so that a list
with blanks in it, or a closing parenthesis alone, is read as part of a name. -/

namespace Weave

namespace Execution

open Text

/-! ### The last separator -/

theorem splitLast_eq_none {separator : List Char} (nonempty : separator ≠ []) (text : List Char) :
    splitLast separator text = none ↔ ¬ separator <:+: text := by
  induction text with
  | nil => simp [splitLast, nonempty]
  | cons c rest ih =>
    rw [splitLast, List.infix_cons_iff, not_or, ← ih, ← List.isPrefixOf_iff_prefix]
    cases splitLast separator rest with
    | some => simp
    | none => by_cases starts : separator.isPrefixOf (c :: rest) = true <;> simp [starts]

theorem splitLast_append {separator after : List Char} (nonempty : separator ≠ [])
    (last : ¬ separator <:+: (separator ++ after).tail) (before : List Char) :
    splitLast separator (before ++ (separator ++ after)) = some (before, after) := by
  induction before with
  | nil =>
    obtain ⟨c, others, rfl⟩ := List.exists_cons_of_ne_nil nonempty
    have starts : (c :: others).isPrefixOf (c :: (others ++ after)) = true :=
      List.isPrefixOf_iff_prefix.2 (List.prefix_append (c :: others) after)
    have further : splitLast (c :: others) (others ++ after) = none :=
      (splitLast_eq_none nonempty _).2 last
    rw [List.nil_append, List.cons_append, splitLast, further, if_pos starts, ← List.cons_append,
      List.drop_left]
  | cons d before ih => rw [List.cons_append, splitLast, ih]

/-- A text is split where the separator occurs for the last time: there is no occurrence that begins
behind the first character of this one. -/
theorem splitLast_eq_some {separator : List Char} (nonempty : separator ≠ [])
    {text before after : List Char} :
    splitLast separator text = some (before, after) ↔
      text = before ++ (separator ++ after) ∧ ¬ separator <:+: (separator ++ after).tail := by
  constructor
  · intro found
    induction text generalizing before with
    | nil => contradiction
    | cons c rest ih =>
      rw [splitLast] at found
      cases further : splitLast separator rest with
      | some place =>
        obtain ⟨front, back⟩ := place
        rw [further] at found
        obtain ⟨rfl, rfl⟩ := found
        obtain ⟨same, last⟩ := ih further
        exact ⟨congrArg (c :: ·) same, last⟩
      | none =>
        rw [further] at found
        by_cases starts : separator.isPrefixOf (c :: rest) = true
        · rw [if_pos starts] at found
          obtain ⟨rfl, rfl⟩ := found
          have same := List.prefix_iff_eq_append.1 (List.isPrefixOf_iff_prefix.1 starts)
          refine ⟨same.symm, ?_⟩
          rw [same]
          exact (splitLast_eq_none nonempty rest).1 further
        · rw [if_neg starts] at found
          contradiction
  · rintro ⟨rfl, last⟩
    exact splitLast_append nonempty last before

/-- How a name falls into a type rule and a method rule: at its last double colon, or at its last dot if
it has no double colon. Without either the whole name is the method rule. -/
inductive Halves : List Char → Option (List Char) → List Char → Prop
  | colons {typeRule methodRule : List Char} (typed : typeRule ≠ []) (named : methodRule ≠ [])
      (last : ¬ [':', ':'] <:+: ':' :: methodRule) :
      Halves (typeRule ++ ([':', ':'] ++ methodRule)) (some typeRule) methodRule
  | dot {typeRule methodRule : List Char} (typed : typeRule ≠ []) (named : methodRule ≠ [])
      (plain : ¬ [':', ':'] <:+: typeRule ++ ('.' :: methodRule)) (last : '.' ∉ methodRule) :
      Halves (typeRule ++ ('.' :: methodRule)) (some typeRule) methodRule
  | whole {methodRule : List Char} (named : methodRule ≠ []) (plain : ¬ [':', ':'] <:+: methodRule)
      (undotted : '.' ∉ methodRule) : Halves methodRule none methodRule

theorem parts_split {name before after : List Char}
    (place : (splitLast [':', ':'] name <|> splitLast ['.'] name) = some (before, after))
    (typed : before ≠ []) (named : after ≠ []) : parts name = .ok (some before, after) := by
  simp [parts, place, typed, named]

theorem parts_whole {name : List Char}
    (place : (splitLast [':', ':'] name <|> splitLast ['.'] name) = none) (named : name ≠ []) :
    parts name = .ok (none, name) := by
  simp [parts, place, named]

theorem parts_eq_ok {name : List Char} {typeRule : Option (List Char)} {methodRule : List Char} :
    parts name = .ok (typeRule, methodRule) ↔ Halves name typeRule methodRule := by
  have colons : [':', ':'] ≠ [] := List.cons_ne_nil _ _
  have dot : ['.'] ≠ [] := List.cons_ne_nil _ _
  constructor
  · intro read
    rw [parts] at read
    split at read
    · next before after place =>
      split at read
      · contradiction
      · next full =>
        obtain ⟨rfl, rfl⟩ := read
        simp only [Bool.or_eq_true, List.isEmpty_iff, not_or] at full
        rcases (Option.orElse_eq_some _ _ _).1 place with byColons | ⟨plain, byDot⟩
        · obtain ⟨rfl, last⟩ := (splitLast_eq_some colons).1 byColons
          exact .colons full.1 full.2 last
        · obtain ⟨rfl, last⟩ := (splitLast_eq_some dot).1 byDot
          rw [List.singleton_append, List.tail_cons, List.singleton_infix_iff] at last
          exact .dot full.1 full.2 ((splitLast_eq_none colons _).1 plain) last
    · next place =>
      split at read
      · contradiction
      · next full =>
        obtain ⟨rfl, rfl⟩ := read
        obtain ⟨plain, undotted⟩ := (Option.orElse_eq_none _ _).1 place
        rw [splitLast_eq_none dot, List.singleton_infix_iff] at undotted
        exact .whole (mt List.isEmpty_iff.2 full) ((splitLast_eq_none colons _).1 plain) undotted
  · rintro (⟨typed, named, last⟩ | ⟨typed, named, plain, last⟩ | ⟨named, plain, undotted⟩)
    · refine parts_split ?_ typed named
      rw [splitLast_append colons last]
      rfl
    · refine parts_split ?_ typed named
      rw [(splitLast_eq_none colons _).2 plain]
      exact splitLast_append dot (mt (List.singleton_infix_iff _ _).1 last) _
    · refine parts_whole ?_ named
      rw [(splitLast_eq_none colons _).2 plain]
      exact (splitLast_eq_none dot _).2 (mt (List.singleton_infix_iff _ _).1 undotted)

/-! ### The last word -/

/-- What may stand behind a name: nothing, or any text in parentheses. -/
inductive ParameterList : List Char → Prop
  | absent : ParameterList []
  | enclosed (inside : List Char) : ParameterList ('(' :: (inside ++ [')']))

theorem takeWhile_opening {name : List Char} (closed : '(' ∉ name) (rest : List Char) :
    (name ++ '(' :: rest).takeWhile (· ≠ '(') = name := by
  have before : ∀ c ∈ name, decide (c ≠ '(') = true := fun c inside =>
    decide_eq_true (ne_of_mem_of_not_mem inside closed)
  rw [List.takeWhile_append_of_pos before, List.takeWhile_cons_of_neg (by simp), List.append_nil]

theorem getLast?_opening (name inside : List Char) (c : Char) :
    (name ++ '(' :: (inside ++ [c])).getLast? = some c := by
  rw [← List.cons_append, ← List.append_assoc, List.getLast?_concat]

/-- The name is what the last word has in front of its first opening parenthesis; from there on the word
must be a parameter list. -/
theorem qualifiedName_eq_ok {body name : List Char} :
    qualifiedName body = .ok name ↔
      ∃ list, ParameterList list ∧ '(' ∉ name ∧ (words body).getLast? = some (name ++ list) := by
  constructor
  · intro read
    rw [qualifiedName] at read
    split at read
    · contradiction
    · next word last =>
      rw [last]
      by_cases opened : '(' ∈ word
      · rw [if_pos (List.contains_iff_mem.2 opened)] at read
        split at read
        · next closing =>
          obtain ⟨front, rest, rfl, closed⟩ := List.eq_append_cons_of_mem opened
          rw [takeWhile_opening closed] at read
          obtain rfl := Except.ok.inj read
          rcases List.eq_nil_or_concat' rest with rfl | ⟨inside, c, rfl⟩
          · simp at closing
          · rw [getLast?_opening] at closing
            obtain rfl := Option.some.inj closing
            exact ⟨_, .enclosed inside, closed, rfl⟩
        · contradiction
      · rw [if_neg (mt List.contains_iff_mem.1 opened)] at read
        obtain rfl := Except.ok.inj read
        exact ⟨[], .absent, opened, by rw [List.append_nil]⟩
  · rintro ⟨list, parameters, closed, last⟩
    simp only [qualifiedName, last]
    cases parameters with
    | absent => simp [closed]
    | enclosed inside => rw [getLast?_opening, takeWhile_opening closed]; simp

def lastWord? (text : List Char) : Option (List Char) :=
  (body text).toOption.bind fun body => (words body).getLast?

/-- A text taken apart as it is read: its last word alone is looked at, a name with perhaps a parameter
list behind it, and the rules are the halves of the name. -/
structure Reading (text : List Char) where
  name : List Char
  list : List Char
  typeRule : Option (List Char)
  methodRule : List Char
  word : lastWord? text = some (name ++ list)
  closed : '(' ∉ name
  parameters : ParameterList list
  halves : Halves name typeRule methodRule

theorem read_eq_ok {text : List Char} {typeRule : Option (List Char)} {methodRule : List Char} :
    read text = .ok (typeRule, methodRule) ↔
      ∃ reading : Reading text, reading.typeRule = typeRule ∧ reading.methodRule = methodRule := by
  constructor
  · intro done
    rw [read] at done
    cases whole : body text with
    | error flaw => rw [whole] at done; contradiction
    | ok body =>
      rw [whole] at done
      change (qualifiedName body >>= parts) = _ at done
      cases named : qualifiedName body with
      | error flaw => rw [named] at done; contradiction
      | ok name =>
        rw [named] at done
        obtain ⟨list, parameters, closed, last⟩ := qualifiedName_eq_ok.1 named
        have word : lastWord? text = some (name ++ list) := by rw [lastWord?, whole]; exact last
        exact ⟨⟨name, list, _, _, word, closed, parameters, parts_eq_ok.1 done⟩, rfl, rfl⟩
  · rintro ⟨reading, rfl, rfl⟩
    have word := reading.word
    rw [lastWord?] at word
    rw [read]
    cases whole : body text with
    | error flaw => rw [whole] at word; contradiction
    | ok body =>
      rw [whole] at word
      change (qualifiedName body >>= parts) = _
      rw [qualifiedName_eq_ok.2 ⟨reading.list, reading.parameters, reading.closed, word⟩]
      exact parts_eq_ok.2 reading.halves

/-! ### What is left in the rules -/

theorem Halves.nonempty {name methodRule : List Char} {typeRule : Option (List Char)}
    (halves : Halves name typeRule methodRule) : ∀ rule ∈ methodRule :: typeRule.toList, rule ≠ [] := by
  cases halves with
  | colons typed named => simp [typed, named]
  | dot typed named => simp [typed, named]
  | whole named => simp [named]

theorem Halves.subset {name methodRule : List Char} {typeRule : Option (List Char)}
    (halves : Halves name typeRule methodRule) : ∀ rule ∈ methodRule :: typeRule.toList, rule ⊆ name := by
  cases halves with
  | colons | dot =>
    intro rule member c inside
    rcases List.mem_cons.1 member with rfl | typed
    · simp [inside]
    · rw [Option.toList_some, List.mem_singleton] at typed
      exact List.mem_append_left _ (typed ▸ inside)
  | whole =>
    intro rule member
    rw [List.mem_singleton.1 member]
    exact List.Subset.refl _

theorem Halves.mem_iff {name methodRule : List Char} {typeRule : Option (List Char)}
    (halves : Halves name typeRule methodRule) {c : Char} (other : c ∉ [':', '.']) :
    c ∈ name ↔ ∃ rule ∈ methodRule :: typeRule.toList, c ∈ rule := by
  simp only [List.mem_cons, List.not_mem_nil, or_false, not_or] at other
  cases halves with
  | colons => simp [other, or_comm]
  | dot => simp [other, or_comm]
  | whole => simp

namespace Reading

variable {text : List Char} (reading : Reading text)

def rules : List (List Char) := reading.methodRule :: reading.typeRule.toList

theorem isWord : IsWord (reading.name ++ reading.list) := by
  obtain ⟨body, -, last⟩ := Option.bind_eq_some_iff.1 reading.word
  exact mem_words (List.mem_of_getLast? last)

theorem rule_plain {rule : List Char} (member : rule ∈ reading.rules) :
    rule ≠ [] ∧ ∀ c ∈ rule, isBlank c = false ∧ c ≠ '(' := by
  refine ⟨reading.halves.nonempty rule member, fun c inside => ?_⟩
  have named : c ∈ reading.name := reading.halves.subset rule member inside
  exact ⟨reading.isWord.solid c (List.mem_append_left _ named), ne_of_mem_of_not_mem named reading.closed⟩

theorem closing_iff : (∀ rule ∈ reading.rules, ')' ∉ rule) ↔ ')' ∉ reading.name := by
  rw [reading.halves.mem_iff (by decide), not_exists]
  exact forall_congr' fun rule => not_and.symm

end Reading

end Execution

namespace Expression

def ofRules : Option (List Char) → List Char → Expression
  | some typeRule, methodRule => .execution (String.ofList typeRule) (String.ofList methodRule)
  | none, methodRule => .methodPattern (String.ofList methodRule)

theorem ofExecution_eq_ok {text : String} {expression : Expression} :
    ofExecution text = .ok expression ↔
      ∃ typeRule methodRule, Execution.read text.toList = .ok (typeRule, methodRule) ∧
        expression = ofRules typeRule methodRule := by
  rw [ofExecution]
  constructor
  · intro accepted
    split at accepted
    · next typeRule methodRule read => exact ⟨_, _, read, (Except.ok.inj accepted).symm⟩
    · next methodRule read => exact ⟨_, _, read, (Except.ok.inj accepted).symm⟩
    · contradiction
  · rintro ⟨typeRule, methodRule, read, rfl⟩
    cases typeRule <;> rw [read] <;> rfl

theorem ofExecution_of_read {text : List Char} {typeRule : Option (List Char)} {methodRule : List Char}
    (read : Execution.read text = .ok (typeRule, methodRule)) :
    ofExecution (String.ofList text) = .ok (ofRules typeRule methodRule) :=
  ofExecution_eq_ok.2 ⟨_, _, by rw [String.toList_ofList, read], rfl⟩

/-- The rules of an accepted text are the halves of a name in its last word. They are not empty, and have no
blanks and no opening parenthesis. A closing one is left in them exactly if the name has one, because the
last word begins within a parameter list, or closes a parenthesis that was not opened. -/
theorem accepted_reading {text : String} {expression : Expression}
    (accepted : ofExecution text = .ok expression) :
    ∃ reading : Execution.Reading text.toList,
      expression = ofRules reading.typeRule reading.methodRule ∧
        (∀ rule ∈ reading.rules, rule ≠ [] ∧ ∀ c ∈ rule, Text.isBlank c = false ∧ c ≠ '(') ∧
        ((∀ rule ∈ reading.rules, ')' ∉ rule) ↔ ')' ∉ reading.name) := by
  obtain ⟨typeRule, methodRule, read, rfl⟩ := ofExecution_eq_ok.1 accepted
  obtain ⟨reading, rfl, rfl⟩ := Execution.read_eq_ok.1 read
  exact ⟨reading, rfl, fun rule => reading.rule_plain, reading.closing_iff⟩

theorem placing_read :
    ofExecution "execution(* Shop.place(u64,u64))" = .ok (.execution "Shop" "place") ∧
      ∃ reading : Execution.Reading "execution(* Shop.place(u64,u64))".toList,
        Expression.execution "Shop" "place" = ofRules reading.typeRule reading.methodRule ∧
          (∀ rule ∈ reading.rules, rule ≠ [] ∧ ∀ c ∈ rule, Text.isBlank c = false ∧ c ≠ '(') ∧
          ((∀ rule ∈ reading.rules, ')' ∉ rule) ↔ ')' ∉ reading.name) := by
  have accepted : ofExecution "execution(* Shop.place(u64,u64))" = .ok (.execution "Shop" "place") := rfl
  exact ⟨accepted, accepted_reading accepted⟩

/-- A list with a blank in it leaves its last type as the name of a method, and a closing parenthesis alone
is kept. -/
theorem parameter_read_as_name :
    ofExecution "* Shop.place(u64, String)" = .ok (.methodPattern "String)") ∧
      ofExecution "Shop.place)" = .ok (.execution "Shop" "place)") ∧
      ')' ∈ "String)".toList ∧ ')' ∈ "place)".toList := by
  refine ⟨rfl, rfl, ?_⟩
  decide

/-- Nothing shows where the name comes from if the last type has a list of its own. -/
example : ofExecution "* Shop.place(u64, Option(String))" = .ok (.methodPattern "Option") := rfl

end Expression

end Weave
