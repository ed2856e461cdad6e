import Weave.Regex.Pattern
import Weave.Regex.Property

/-! Reading a pattern from its text. Groups and bracketed sets are kept on explicit stacks, so each
round of a loop takes at least one character and the length of the text bounds the rounds. Of all
flags only the one for verbose patterns matters here: under it layout between tokens is skipped. -/

namespace Weave.Regex

def skipLayout (comment : Bool) : List Char → List Char
  | [] => []
  | c :: rest =>
    if comment then skipLayout (c ≠ '\n') rest
    else if Text.isBlank c then skipLayout false rest
    else if c = '#' then skipLayout true rest
    else c :: rest

def skip (verbose : Bool) (text : List Char) : List Char :=
  if verbose then skipLayout false text else text

/-- Looks past blanks and one number sign. -/
def lookPast (comment : Bool) : List Char → Option Char
  | [] => none
  | c :: rest =>
    if Text.isBlank c then lookPast comment rest
    else if !comment && c = '#' then lookPast true rest
    else some c

/-- What a hyphen in brackets is followed by. The text of a comment is looked at as well. -/
def following (verbose : Bool) (text : List Char) : Option Char :=
  if verbose then (lookPast false text).or text.head? else text.head?

def isMeta (c : Char) : Bool := c ∈ "\\.+*?()|[]\x7b\x7d^$#&-~".toList

def isEscapable (c : Char) : Bool :=
  isMeta c || (Text.isAscii c && !c.isAlphanum && c ≠ '<' && c ≠ '>')

/-- One item of a pattern that is not an operator. -/
inductive Primitive where
  | literal (written : Literal)
  | letter (name : LetterClass) (negated : Bool)
  | property (name : PropertyName) (negated : Bool)
  | dot
  | mark (mark : Mark)

def Primitive.pattern : Primitive → Pattern
  | literal written => .literal written
  | letter name negated => .letter name negated
  | property name negated => .property name negated
  | dot => .dot
  | mark written => .mark written

def Primitive.setItem? : Primitive → Option SetItem
  | literal written => some (.literal written)
  | letter name negated => some (.letter name negated)
  | property name negated => some (.property name negated)
  | _ => none

def Primitive.literal? : Primitive → Option Literal
  | literal written => some written
  | _ => none

/-! ### Escapes -/

def hexValue? (c : Char) : Option Nat :=
  if c.isDigit then some (c.toNat - 48)
  else if 'a' ≤ c && c ≤ 'f' then some (c.toNat - 87)
  else if 'A' ≤ c && c ≤ 'F' then some (c.toNat - 55)
  else none

def scalar? (n : Nat) : Option Char := if n.isValidChar then some (Char.ofNat n) else none

def hexDigits? (verbose : Bool) : Nat → Nat → List Char → Option (Nat × List Char)
  | 0, value, text => some (value, text)
  | count + 1, value, c :: rest => do
    let digit ← hexValue? c
    hexDigits? verbose count (16 * value + digit) (skip verbose rest)
  | _ + 1, _, [] => none

def hexBraced? (verbose : Bool) : Nat → Option Nat → List Char → Option (Nat × List Char)
  | 0, _, _ => none
  | bound + 1, value, text =>
    match skip verbose text with
    | '\x7d' :: rest => value.map fun n => (n, skip verbose rest)
    | c :: rest => do
      let digit ← hexValue? c
      hexBraced? verbose bound (some (16 * value.getD 0 + digit)) rest
    | [] => none

def hexEscape? (verbose : Bool) (digits : Nat) (text : List Char) :
    Option (Primitive × List Char) :=
  match skip verbose text with
  | '\x7b' :: rest => do
    let (value, rest) ← hexBraced? verbose (rest.length + 1) none rest
    return (.literal ⟨← scalar? value, false⟩, rest)
  | rest => do
    let (value, rest) ← hexDigits? verbose digits 0 rest
    return (.literal ⟨← scalar? value, digits = 2⟩, rest)

def bracedName? (verbose : Bool) : Nat → List Char → List Char → Option (String × List Char)
  | 0, _, _ => none
  | bound + 1, name, text =>
    match skip verbose text with
    | '\x7d' :: rest => some (String.ofList name.reverse, rest)
    | c :: rest => bracedName? verbose bound (c :: name) rest
    | [] => none

def splitAtText (separator : List Char) : List Char → Option (List Char × List Char)
  | [] => none
  | c :: rest =>
    if separator.isPrefixOf (c :: rest) then some ([], (c :: rest).drop separator.length)
    else (splitAtText separator rest).map fun (before, after) => (c :: before, after)

def PropertyName.ofText (name : String) : PropertyName :=
  let chars := name.toList
  let pair (parts : List Char × List Char) (differs : Bool) : PropertyName :=
    .valued (String.ofList parts.1) (String.ofList parts.2) differs
  match splitAtText ['!', '='] chars with
  | some parts => pair parts true
  | none =>
    match (splitAtText [':'] chars).or (splitAtText ['='] chars) with
    | some parts => pair parts false
    | none => .named name

def propertyEscape? (verbose negated : Bool) (text : List Char) : Option (Primitive × List Char) :=
  match skip verbose text with
  | '\x7b' :: rest => do
    let (name, rest) ← bracedName? verbose (rest.length + 1) [] rest
    return (.property (PropertyName.ofText name) negated, rest)
  | '\\' :: _ | [] => none
  | c :: rest => some (.property (.named c.toString) negated, skip verbose rest)

def isBoundaryNameChar (c : Char) : Bool := c.isAlpha || c = '-'

def boundaryEscape? (verbose : Bool) (text : List Char) : Option (Primitive × List Char) :=
  match text with
  | '\x7b' :: rest =>
    match skip verbose rest with
    | [] => none
    | c :: _ =>
      if isBoundaryNameChar c then do
        let (name, rest) ← bracedName? verbose (rest.length + 1) [] rest
        match name with
        | "start" => pure (.mark .wordStart, rest)
        | "end" => pure (.mark .wordEnd, rest)
        | "start-half" => pure (.mark .wordStartHalf, rest)
        | "end-half" => pure (.mark .wordEndHalf, rest)
        | _ => none
      else some (.mark .boundary, text)
  | _ => some (.mark .boundary, text)

def escape? (verbose : Bool) : List Char → Option (Primitive × List Char)
  | [] => none
  | c :: rest =>
    let char (d : Char) : Option (Primitive × List Char) := some (.literal ⟨d, false⟩, rest)
    if isEscapable c then char c
    else
      match c with
      | 'x' => hexEscape? verbose 2 rest
      | 'u' => hexEscape? verbose 4 rest
      | 'U' => hexEscape? verbose 8 rest
      | 'p' => propertyEscape? verbose false rest
      | 'P' => propertyEscape? verbose true rest
      | 'd' => some (.letter .digit false, rest)
      | 'D' => some (.letter .digit true, rest)
      | 's' => some (.letter .blank false, rest)
      | 'S' => some (.letter .blank true, rest)
      | 'w' => some (.letter .word false, rest)
      | 'W' => some (.letter .word true, rest)
      | 'a' => char '\x07'
      | 'f' => char '\x0c'
      | 't' => char '\t'
      | 'n' => char '\n'
      | 'r' => char '\r'
      | 'v' => char '\x0b'
      | 'A' => some (.mark .textStart, rest)
      | 'z' => some (.mark .textEnd, rest)
      | 'b' => boundaryEscape? verbose rest
      | 'B' => some (.mark .notBoundary, rest)
      | '<' => some (.mark .wordStart, rest)
      | '>' => some (.mark .wordEnd, rest)
      | _ => none

/-! ### Bracketed sets -/

/-- An open bracket: the items around it so far, last first, an operation around it that waits for
its right side, and whether the bracket is negated. -/
structure SetFrame where
  outer : List SetItem
  outerPending : Option (SetOperation × SetPattern)
  negated : Bool

def joinPending (pending : Option (SetOperation × SetPattern)) (items : List SetItem) :
    SetPattern :=
  match pending with
  | some (op, left) => .operation op left (.items items.reverse)
  | none => .items items.reverse

/-- `[:name:]` inside brackets, negated by a caret; anything else is no such class. -/
def asciiClass? (text : List Char) : Option (SetItem × List Char) := do
  let (negated, rest) :=
    match text with
    | '^' :: rest => (true, rest)
    | rest => (false, rest)
  let (name, rest) ← splitAtText [':'] rest
  let name := String.ofList name
  match rest with
  | ']' :: rest => if (Property.ascii? name).isSome then some (.ascii name negated, rest) else none
  | _ => none

def hyphen : SetItem := .literal ⟨'-', false⟩

def leadingHyphens (verbose : Bool) : Nat → List SetItem → List Char → List SetItem × List Char
  | bound + 1, items, '-' :: rest =>
    leadingHyphens verbose bound (hyphen :: items) (skip verbose rest)
  | _, items, text => (items, text)

/-- After an opening bracket: negation, then hyphens or a closing bracket that stand for
themselves because they come first. -/
def openSet? (verbose : Bool) (text : List Char) : Option (Bool × List SetItem × List Char) :=
  let text := skip verbose text
  let (negated, text) :=
    match text with
    | '^' :: rest => (true, skip verbose rest)
    | rest => (false, rest)
  let (items, text) := leadingHyphens verbose text.length [] text
  match items, text with
  | _, [] => none
  | [], ']' :: rest =>
    match skip verbose rest with
    | [] => none
    | rest => some (negated, [.literal ⟨']', false⟩], rest)
  | items, text => some (negated, items, text)

def setPrimitive? (verbose : Bool) : List Char → Option (Primitive × List Char)
  | [] => none
  | '\\' :: rest => escape? verbose rest
  | c :: rest => some (.literal ⟨c, false⟩, rest)

/-- One item or a range of two characters. A hyphen before a closing bracket or another hyphen
makes no range. -/
def setRange? (verbose : Bool) (text : List Char) : Option (SetItem × List Char) := do
  let (first, rest) ← setPrimitive? verbose text
  match skip verbose rest with
  | [] => none
  | '-' :: after =>
    if following verbose after = some ']' || following verbose after = some '-' then
      return (← first.setItem?, '-' :: after)
    else
      let (second, rest) ← setPrimitive? verbose (skip verbose after)
      let low ← first.literal?
      let high ← second.literal?
      if low.char ≤ high.char then pure (.range low high, rest) else none
  | rest => return (← first.setItem?, rest)

/-- Reads to the end of the outermost bracket. `items` are those of the operand being collected,
last first. -/
def setLoop? (verbose : Bool) : Nat → List SetFrame → Option (SetOperation × SetPattern) →
    List SetItem → List Char → Option (Bool × SetPattern × List Char)
  | 0, _, _, _, _ => none
  | bound + 1, frames, pending, items, text =>
    let deeper (rest : List Char) : Option (Bool × SetPattern × List Char) :=
      match openSet? verbose rest with
      | some (negated, start, rest) =>
        setLoop? verbose bound (⟨items, pending, negated⟩ :: frames) none start rest
      | none => none
    let operator (op : SetOperation) (rest : List Char) :
        Option (Bool × SetPattern × List Char) :=
      setLoop? verbose bound frames (some (op, joinPending pending items)) [] rest
    match skip verbose text with
    | [] => none
    | '[' :: ':' :: rest =>
      match asciiClass? rest with
      | some (item, rest) => setLoop? verbose bound frames pending (item :: items) rest
      | none => deeper (':' :: rest)
    | '[' :: rest => deeper rest
    | ']' :: rest =>
      let closed := joinPending pending items
      match frames with
      | [] => none
      | [frame] => some (frame.negated, closed, rest)
      | frame :: frames =>
        setLoop? verbose bound frames frame.outerPending
          (.bracket frame.negated closed :: frame.outer) rest
    | '&' :: '&' :: rest => operator .intersection rest
    | '-' :: '-' :: rest => operator .difference rest
    | '~' :: '~' :: rest => operator .symmetricDifference rest
    | text =>
      match setRange? verbose text with
      | some (item, rest) => setLoop? verbose bound frames pending (item :: items) rest
      | none => none

def bracket? (verbose : Bool) (text : List Char) : Option (Pattern × List Char) := do
  let (negated, start, rest) ← openSet? verbose text
  let frames := [⟨[], none, negated⟩]
  let (negated, inner, rest) ← setLoop? verbose (rest.length + 1) frames none start rest
  pure (.bracket negated inner, rest)

/-! ### Groups, alternatives and repetition -/

def flagItems? : Bool → Bool → List Char → FlagChange → List Char →
    Option (FlagChange × Char × List Char)
  | _, _, _, _, [] => none
  | negated, dangling, seen, change, c :: rest =>
    if c = ':' || c = ')' then
      if dangling || (c = ')' && seen.isEmpty) then none else some (change, c, rest)
    else if seen.contains c then none
    else
      let value := some !negated
      match c with
      | '-' => flagItems? true true (c :: seen) change rest
      | 'i' => flagItems? negated false (c :: seen) { change with ignoreCase := value } rest
      | 'm' => flagItems? negated false (c :: seen) { change with multiLine := value } rest
      | 's' => flagItems? negated false (c :: seen) { change with dotAll := value } rest
      | 'U' => flagItems? negated false (c :: seen) { change with swapGreed := value } rest
      | 'u' => flagItems? negated false (c :: seen) { change with unicode := value } rest
      | 'R' => flagItems? negated false (c :: seen) { change with carriageReturn := value } rest
      | 'x' => flagItems? negated false (c :: seen) { change with verbose := value } rest
      | _ => none

def isGroupNameChar (first : Bool) (c : Char) : Bool :=
  c = '_' || Text.isAlphabetic c ||
    (!first && (c = '.' || c = '[' || c = ']' || Text.isAlphanumeric c))

def groupName? (names : List String) (text : List Char) : Option (String × List Char) :=
  let name := text.takeWhile (· ≠ '>')
  match text.dropWhile (· ≠ '>'), name with
  | '>' :: rest, first :: others =>
    let written := String.ofList name
    if isGroupNameChar true first && others.all (isGroupNameChar false) &&
        !names.contains written then
      some (written, rest)
    else none
  | _, _ => none

/-- What an opening parenthesis begins: a group, numbered and perhaps named or with flags of its
own, or a setting of flags for the rest of the group around it. -/
inductive Opening where
  | numbered (name : Option String) (rest : List Char)
  | plain (change : FlagChange) (rest : List Char)
  | setting (change : FlagChange) (rest : List Char)

def opening? (verbose : Bool) (names : List String) (text : List Char) : Option Opening :=
  let named (rest : List Char) : Option Opening :=
    (groupName? names rest).map fun (name, rest) => .numbered (some name) rest
  match skip verbose text with
  | '?' :: '=' :: _ | '?' :: '!' :: _ | '?' :: '<' :: '=' :: _ | '?' :: '<' :: '!' :: _ => none
  | '?' :: 'P' :: '<' :: rest => named rest
  | '?' :: '<' :: rest => named rest
  | '?' :: rest =>
    match flagItems? false false [] {} rest with
    | some (change, ':', rest) => some (.plain change rest)
    | some (change, _, rest) => some (.setting change rest)
    | none => none
  | rest => some (.numbered none rest)

def decimal? (verbose : Bool) (text : List Char) : Option Nat × List Char :=
  let text := Text.trimLeft text
  let rec digits : Nat → Option Nat → List Char → Option Nat × List Char
    | 0, value, text => (value, text)
    | bound + 1, value, c :: rest =>
      if c.isDigit then digits bound (some (10 * value.getD 0 + (c.toNat - 48))) (skip verbose rest)
      else (value, c :: rest)
    | _ + 1, value, [] => (value, [])
  let (value, rest) := digits (text.length + 1) none text
  (value.filter (· < UInt32.size), Text.trimLeft rest)

def counts? (verbose : Bool) (text : List Char) : Option (Nat × Option Nat × List Char) :=
  match skip verbose text with
  | [] => none
  | text =>
    let (least, rest) := decimal? verbose text
    match rest with
    | ',' :: rest =>
      match skip verbose rest with
      | '\x7d' :: rest => least.map fun least => (least, none, rest)
      | rest =>
        let (most, rest) := decimal? verbose rest
        match least, most, rest with
        | some least, some most, '\x7d' :: rest =>
          if least ≤ most then some (least, some most, rest) else none
        | _, _, _ => none
    | '\x7d' :: rest => least.map fun least => (least, some least, rest)
    | _ => none

def greediness : List Char → Bool × List Char
  | '?' :: rest => (false, rest)
  | rest => (true, rest)

def sequenceOfParts : List Pattern → Pattern
  | [] => .empty
  | [part] => part
  | parts => .sequence parts.reverse

def choiceOfBranches : List Pattern → Pattern
  | [] => .empty
  | [branch] => branch
  | branches => .choice branches.reverse

/-- A group being read: its finished branches and the parts of the last one, both last first. -/
structure Level where
  branches : List Pattern := []
  parts : List Pattern := []
  verbose : Bool := false

namespace Level

def push (level : Level) (part : Pattern) : Level := { level with parts := part :: level.parts }

def bar (level : Level) : Level :=
  { level with branches := sequenceOfParts level.parts :: level.branches, parts := [] }

def pattern (level : Level) : Pattern := choiceOfBranches level.bar.branches

def repeatLast? (level : Level) (least : Nat) (most : Option Nat) (greedy : Bool) :
    Option Level :=
  match level.parts with
  | [] | .flags _ :: _ => none
  | last :: before => some { level with parts := .repeated last least most greedy :: before }

end Level

/-- What has been read: the open groups with the levels around them, the number of groups, and the
names in use. -/
structure Progress where
  level : Level := {}
  outer : List (GroupKind × Level) := []
  groups : Nat := 0
  names : List String := []

namespace Progress

def push (progress : Progress) (part : Pattern) : Progress :=
  { progress with level := progress.level.push part }

def enter (progress : Progress) (kind : GroupKind) (verbose : Bool) : Progress :=
  { progress with level := { verbose }, outer := (kind, progress.level) :: progress.outer }

def leave? (progress : Progress) : Option Progress :=
  match progress.outer with
  | [] => none
  | (kind, level) :: outer =>
    some { progress with level := level.push (.group kind progress.level.pattern), outer }

def openGroup (progress : Progress) : Opening → Progress × List Char
  | .numbered name rest =>
    let index := progress.groups + 1
    let names := name.toList ++ progress.names
    ({ progress with groups := index, names }.enter (.numbered index) progress.level.verbose, rest)
  | .plain change rest =>
    (progress.enter (.plain change) (change.verbose.getD progress.level.verbose), rest)
  | .setting change rest =>
    let level := progress.level.push (.flags change)
    ({ progress with level := { level with verbose := change.verbose.getD level.verbose } }, rest)

def finish? (progress : Progress) : Option Pattern :=
  if progress.outer.isEmpty then some progress.level.pattern else none

end Progress

def patternLoop? : Nat → Progress → List Char → Option Pattern
  | 0, _, _ => none
  | bound + 1, progress, text =>
    let verbose := progress.level.verbose
    let item (primitive : Primitive) (rest : List Char) : Option Pattern :=
      patternLoop? bound (progress.push primitive.pattern) rest
    let repetition (least : Nat) (most : Option Nat) (rest : List Char) : Option Pattern :=
      let (greedy, rest) := greediness rest
      match progress.level.repeatLast? least most greedy with
      | some level => patternLoop? bound { progress with level } rest
      | none => none
    match skip verbose text with
    | [] => progress.finish?
    | '(' :: rest =>
      match opening? verbose progress.names rest with
      | some opening =>
        let (progress, rest) := progress.openGroup opening
        patternLoop? bound progress rest
      | none => none
    | ')' :: rest =>
      match progress.leave? with
      | some progress => patternLoop? bound progress rest
      | none => none
    | '|' :: rest => patternLoop? bound { progress with level := progress.level.bar } rest
    | '[' :: rest =>
      match bracket? verbose rest with
      | some (pattern, rest) => patternLoop? bound (progress.push pattern) rest
      | none => none
    | '?' :: rest => repetition 0 (some 1) rest
    | '*' :: rest => repetition 0 none rest
    | '+' :: rest => repetition 1 none rest
    | '\x7b' :: rest =>
      match counts? verbose rest with
      | some (least, most, rest) => repetition least most (skip verbose rest)
      | none => none
    | '\\' :: rest =>
      match escape? verbose rest with
      | some (primitive, rest) => item primitive rest
      | none => none
    | '.' :: rest => item .dot rest
    | '^' :: rest => item (.mark .lineStart) rest
    | '$' :: rest => item (.mark .lineEnd) rest
    | c :: rest => item (.literal ⟨c, false⟩) rest

def Pattern.read? (text : String) : Option Pattern :=
  let chars := text.toList
  patternLoop? (chars.length + 1) {} chars

end Weave.Regex
