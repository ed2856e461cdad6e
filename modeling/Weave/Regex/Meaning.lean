import Weave.Regex.Build
import Weave.Regex.Pattern
import Weave.Regex.Property

/-! What a written pattern matches. Flags hold from where they are set to the end of their group,
across alternatives. Without the flag for Unicode a class is a set of bytes; one with bytes above
the ASCII range does not describe text and is refused. -/

namespace Weave.Regex

open Text

structure Flags where
  ignoreCase : Bool := false
  multiLine : Bool := false
  dotAll : Bool := false
  swapGreed : Bool := false
  unicode : Bool := true
  carriageReturn : Bool := false
deriving DecidableEq, Repr

def Flags.change (flags : Flags) (change : FlagChange) : Flags where
  ignoreCase := change.ignoreCase.getD flags.ignoreCase
  multiLine := change.multiLine.getD flags.multiLine
  dotAll := change.dotAll.getD flags.dotAll
  swapGreed := change.swapGreed.getD flags.swapGreed
  unicode := change.unicode.getD flags.unicode
  carriageReturn := change.carriageReturn.getD flags.carriageReturn

/-! ### Sets -/

def smallLetters : Charset := Charset.range 97 122

def capitals : Charset := Charset.range 65 90

def closeUnderAsciiCase (set : Charset) : Charset :=
  let raised := (set.inter smallLetters).ranges.map fun (low, high) => (low - 32, high - 32)
  let lowered := (set.inter capitals).ranges.map fun (low, high) => (low + 32, high + 32)
  (set.union ⟨raised⟩).union ⟨lowered⟩

def Flags.fold (flags : Flags) (set : Charset) : Charset :=
  if flags.ignoreCase then
    if flags.unicode then set.closeUnderCase else closeUnderAsciiCase set
  else set

/-- The complement of a set, if it is negated. A complement of bytes is never ASCII. -/
def Flags.negate? (flags : Flags) (negated : Bool) (set : Charset) : Option Charset :=
  if negated then if flags.unicode then some set.complement else none else some set

/-- Case first, then negation. -/
def Flags.finish? (flags : Flags) (negated : Bool) (set : Charset) : Option Charset :=
  flags.negate? negated (flags.fold set)

def LetterClass.chars (unicode : Bool) : LetterClass → Charset
  | digit => if unicode then Trait.digits else Charset.ofText "30-39"
  | blank => if unicode then Trait.blanks else Charset.ofText "9-d 20"
  | word => if unicode then Trait.wordChars else Charset.ofText "30-39 41-5a 5f 61-7a"

/-- The classes that one letter names; they are closed under case by themselves. -/
def LetterClass.chars? (flags : Flags) (negated : Bool) (letter : LetterClass) : Option Charset :=
  flags.negate? negated (letter.chars flags.unicode)

def PropertyName.chars? (flags : Flags) (negated : Bool) (name : PropertyName) : Option Charset :=
  if flags.unicode then
    match name with
    | named name => (Property.named? name).bind (flags.finish? negated)
    | valued property value differs =>
      (Property.valued? property value).bind (flags.finish? (negated != differs))
  else none

def Literal.point? (flags : Flags) (written : Literal) : Option Nat :=
  if flags.unicode || isAscii written.char then some written.char.toNat else none

def SetOperation.apply : SetOperation → Charset → Charset → Charset
  | intersection => Charset.inter
  | difference => Charset.diff
  | symmetricDifference => Charset.symmDiff

mutual

def SetPattern.chars? (flags : Flags) : SetPattern → Option Charset
  | .items items => SetItem.charsOfAll? flags Charset.empty items
  | .operation op left right => do
    let left ← left.chars? flags
    let right ← right.chars? flags
    pure (op.apply (flags.fold left) (flags.fold right))

def SetItem.chars? (flags : Flags) : SetItem → Option Charset
  | .literal written => (written.point? flags).map fun point => Charset.range point point
  | .range low high => return Charset.range (← low.point? flags) (← high.point? flags)
  | .ascii name negated => (Property.ascii? name).bind (flags.finish? negated)
  | .letter name negated => name.chars? flags negated
  | .property name negated => name.chars? flags negated
  | .bracket negated inner => (inner.chars? flags).bind (flags.finish? negated)

def SetItem.charsOfAll? (flags : Flags) (found : Charset) : List SetItem → Option Charset
  | [] => some found
  | item :: rest => do
    let chars ← item.chars? flags
    SetItem.charsOfAll? flags (found.union chars) rest

end

/-! ### Patterns -/

def Literal.regex? (flags : Flags) (written : Literal) : Option Regex :=
  let c := written.char
  if !flags.unicode && written.byByte && !isAscii c then none
  else if !flags.unicode && !isAscii c then some (.literal [c])
  else some (ofSet (flags.fold (Charset.single c)))

def dot? (flags : Flags) : Option Regex :=
  if !flags.unicode then none
  else if flags.dotAll then some (.set Charset.all)
  else if flags.carriageReturn then some (.set ((Charset.ofText "a d").complement))
  else some (.set ((Charset.ofText "a").complement))

def Mark.look (flags : Flags) : Mark → Look
  | lineStart => if flags.multiLine then .lineStart flags.carriageReturn else .textStart
  | lineEnd => if flags.multiLine then .lineEnd flags.carriageReturn else .textEnd
  | textStart => .textStart
  | textEnd => .textEnd
  | boundary => .wordBoundary flags.unicode false
  | notBoundary => .wordBoundary flags.unicode true
  | wordStart => .wordStart flags.unicode false
  | wordEnd => .wordEnd flags.unicode false
  | wordStartHalf => .wordStart flags.unicode true
  | wordEndHalf => .wordEnd flags.unicode true

mutual

def Pattern.regex? (flags : Flags) : Pattern → Option (Regex × Flags)
  | .empty => some (.empty, flags)
  | .flags change => some (.empty, flags.change change)
  | .literal written => (written.regex? flags).map (·, flags)
  | .dot => (dot? flags).map (·, flags)
  | .mark written => some (.look (written.look flags), flags)
  | .letter name negated => (name.chars? flags negated).map fun chars => (ofSet chars, flags)
  | .property name negated => (name.chars? flags negated).map fun chars => (ofSet chars, flags)
  | .bracket negated inner => do
    let chars ← inner.chars? flags
    pure (ofSet (← flags.finish? negated chars), flags)
  | .repeated body least most greedy => do
    let (body, flags) ← body.regex? flags
    pure (times body least most (greedy != flags.swapGreed), flags)
  | .group (.numbered index) body => do
    let (body, _) ← body.regex? flags
    pure (.group index body, flags)
  | .group (.plain change) body => do
    let (body, _) ← body.regex? (flags.change change)
    pure (body, flags)
  | .sequence parts => do
    let (parts, flags) ← Pattern.regexes? flags parts
    pure (sequenceOf parts, flags)
  | .choice branches => do
    let (branches, flags) ← Pattern.regexes? flags branches
    pure (choiceOf branches, flags)

def Pattern.regexes? (flags : Flags) : List Pattern → Option (List Regex × Flags)
  | [] => some ([], flags)
  | part :: rest => do
    let (first, flags) ← part.regex? flags
    let (others, flags) ← Pattern.regexes? flags rest
    pure (first :: others, flags)

end

end Weave.Regex
