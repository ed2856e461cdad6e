/-! Patterns as they are written: what a text says before flags have given it a meaning. -/

namespace Weave.Regex

/-- What a setting of flags changes; a flag that is not mentioned stays as it is. -/
structure FlagChange where
  ignoreCase : Option Bool := none
  multiLine : Option Bool := none
  dotAll : Option Bool := none
  swapGreed : Option Bool := none
  unicode : Option Bool := none
  carriageReturn : Option Bool := none
  verbose : Option Bool := none
deriving DecidableEq, Repr

/-- A character; two hexadecimal digits after `\x` may also stand for a byte. -/
structure Literal where
  char : Char
  byByte : Bool := false
deriving DecidableEq, Repr

inductive LetterClass where
  | digit | blank | word
deriving DecidableEq, Repr

inductive PropertyName where
  | named (name : String)
  | valued (property value : String) (differs : Bool)
deriving DecidableEq, Repr

inductive SetOperation where
  | intersection | difference | symmetricDifference
deriving DecidableEq, Repr

mutual

/-- What stands between brackets: items side by side, or an operation on two such sets. -/
inductive SetPattern where
  | items (items : List SetItem)
  | operation (op : SetOperation) (left right : SetPattern)

inductive SetItem where
  | literal (literal : Literal)
  | range (low high : Literal)
  | ascii (name : String) (negated : Bool)
  | letter (letter : LetterClass) (negated : Bool)
  | property (name : PropertyName) (negated : Bool)
  | bracket (negated : Bool) (set : SetPattern)

end

inductive Mark where
  | lineStart | lineEnd | textStart | textEnd
  | boundary | notBoundary | wordStart | wordEnd | wordStartHalf | wordEndHalf
deriving DecidableEq, Repr

/-- Whether a group is numbered, or else which flags it sets. -/
inductive GroupKind where
  | numbered (index : Nat)
  | plain (change : FlagChange)
deriving DecidableEq, Repr

inductive Pattern where
  | empty
  | flags (change : FlagChange)
  | literal (literal : Literal)
  | dot
  | mark (mark : Mark)
  | letter (letter : LetterClass) (negated : Bool)
  | property (name : PropertyName) (negated : Bool)
  | bracket (negated : Bool) (set : SetPattern)
  | repeated (body : Pattern) (least : Nat) (most : Option Nat) (greedy : Bool)
  | group (kind : GroupKind) (body : Pattern)
  | sequence (parts : List Pattern)
  | choice (branches : List Pattern)

/-! ### Nesting

Each bracket, each operation and each list of items of a set is a level, and so is each repetition,
group, sequence and choice. -/

mutual

def SetPattern.depth : SetPattern → Nat
  | .items [] => 0
  | .items [item] => item.depth
  | .items (item :: other :: rest) => 1 + max item.depth (max other.depth (SetItem.depthOfAll rest))
  | .operation _ left right => 1 + max left.depth right.depth

def SetItem.depth : SetItem → Nat
  | .bracket _ set => 1 + set.depth
  | _ => 0

def SetItem.depthOfAll : List SetItem → Nat
  | [] => 0
  | item :: rest => max item.depth (SetItem.depthOfAll rest)

end

mutual

def Pattern.depth : Pattern → Nat
  | .bracket _ set => 1 + set.depth
  | .repeated body _ _ _ | .group _ body => 1 + body.depth
  | .sequence parts | .choice parts => 1 + Pattern.depthOfAll parts
  | _ => 0

def Pattern.depthOfAll : List Pattern → Nat
  | [] => 0
  | part :: rest => max part.depth (Pattern.depthOfAll rest)

end

def deepestNesting : Nat := 250

end Weave.Regex
