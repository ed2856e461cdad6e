import Weave.Declaration.Token

/-! Readers of tokens. Each takes what it needs from the front and leaves the rest. What is nested
in something else is read by readers of a lower level, which every reader has at hand. -/

namespace Weave.Declaration

abbrev Scan : Type → Type := StateT (List Token) Option

/-- What attributes in front of an expression make of its leftmost operand: most operands just
follow them, a range is put in parentheses, and an operand that is kept as it is written loses
them. -/
inductive OperandKind where
  | plain | range | verbatim
deriving DecidableEq, Repr

/-- The tokens of an expression as it is spelled: its leftmost operand and the rest. -/
structure Phrase where
  kind : OperandKind := .plain
  operand : List Token
  rest : List Token := []

namespace Phrase

def tokens (phrase : Phrase) : List Token := phrase.operand ++ phrase.rest

/-- The tokens of an expression behind attributes. -/
def behind (attributes : List Token) (phrase : Phrase) : List Token :=
  match phrase.kind with
  | .plain => attributes ++ phrase.tokens
  | .verbatim => phrase.tokens
  | .range =>
    if attributes.isEmpty then phrase.tokens
    else attributes ++ .group .round phrase.operand :: phrase.rest

end Phrase

inductive ItemPlace where
  | module | foreign | interface | implementation
deriving DecidableEq, Repr

/-- Readers for nested parts: expressions and operands, in which names may or may not be followed by
fields in braces, expressions with blocks, patterns without alternatives, the statements of a block
and the items that stand in another one. -/
structure Nested where
  expression : (fields : Bool) → Scan Phrase
  operand : (fields : Bool) → Scan Phrase
  blockForm : Scan (List Token)
  pattern : Scan (List Token)
  statements : Scan (List Token)
  items : ItemPlace → Scan (List Token)

abbrev Reader : Type → Type := ReaderT Nested Scan

def splitAttributes : List Token → List Token × List Token
  | .mark '#' joint :: .group .square content :: rest =>
    let (more, left) := splitAttributes rest
    (.mark '#' joint :: .group .square content :: more, left)
  | tokens => ([], tokens)

namespace Reader

/-! ### Nested parts -/

def nestedExpression (fields : Bool) : Reader (List Token) := fun nested => do
  return (← nested.expression fields).tokens

def nestedOperand (fields : Bool) : Reader Phrase := fun nested => nested.operand fields

def nestedBlockForm : Reader (List Token) := fun nested => nested.blockForm

def nestedPattern : Reader (List Token) := fun nested => nested.pattern

def nestedStatements : Reader (List Token) := fun nested => nested.statements

def nestedItems (place : ItemPlace) : Reader (List Token) := fun nested => nested.items place

/-! ### Single tokens -/

def peek : Reader (Option Token) := do return (← get).head?

def skip : Reader Unit := modify List.tail

def isMark (symbol : Char) : Token → Bool
  | .mark c _ => c == symbol
  | _ => false

def isWord (text : String) : Token → Bool
  | .word w => w == text
  | _ => false

def accept (check : Token → Bool) : Reader Bool := do
  if (← peek).any check then
    skip
    return true
  else return false

def acceptMark (symbol : Char) : Reader Bool := accept (isMark symbol)

def acceptWord (text : String) : Reader Bool := accept (isWord text)

def expectMark (symbol : Char) : Reader Unit := do guard (← acceptMark symbol)

def word : Reader String := do
  match ← peek with
  | some (.word text) =>
    skip
    return text
  | _ => failure

def lifetime? : Reader (Option String) := do
  match ← peek with
  | some (.lifetime text) =>
    skip
    return some text
  | _ => return none

def optionalWord (text : String) : Reader (List Token) := do
  return if ← acceptWord text then [.word text] else []

def optionalMark (symbol : Char) : Reader (List Token) := do
  return if ← acceptMark symbol then [.single symbol] else []

def atEnd : Reader Bool := do return (← get).isEmpty

/-! ### Operators -/

def joinedMarks : List Token → List Char
  | .mark c true :: rest => c :: joinedMarks rest
  | .mark c false :: _ => [c]
  | _ => []

/-- Whether an operator comes next; what is joined to it does not matter. -/
def atOperator (operator : String) (tokens : List Token) : Bool :=
  operator.toList.isPrefixOf (joinedMarks tokens)

def operatorTokens : List Char → List Token
  | [] => []
  | [last] => [.single last]
  | c :: rest => .mark c true :: operatorTokens rest

def acceptOperator (operator : String) : Reader Bool := do
  let tokens ← get
  if atOperator operator tokens then
    set (tokens.drop operator.length)
    return true
  else return false

def atDoubleColon (tokens : List Token) : Bool := atOperator "::" tokens

def acceptDoubleColon : Reader Bool := acceptOperator "::"

def acceptArrow : Reader Bool := acceptOperator "->"

def acceptEllipsis : Reader Bool := acceptOperator "..."

/-! ### Groups and lists -/

def within {α : Type} (content : List Token) (reader : Reader α) : Reader α :=
  fun nested tokens =>
    match reader nested content with
    | some (result, []) => some (result, tokens)
    | _ => none

def grouped (delimiter : Delimiter) (reader : Reader (List Token)) : Reader (List Token) := do
  match ← get with
  | .group found content :: rest => do
    guard (found = delimiter)
    set rest
    return [.group delimiter (← within content reader)]
  | _ => failure

def anyGroup : Reader (List Token) := do
  match ← get with
  | .group delimiter content :: rest => do
    set rest
    return [.group delimiter content]
  | _ => failure

def atGroup (delimiter : Delimiter) (tokens : List Token) : Bool :=
  match tokens with
  | .group found _ :: _ => found = delimiter
  | _ => false

def commaSeparated {α : Type} (item : Reader α) : Nat → Reader (List α × Bool)
  | 0 => failure
  | bound + 1 => do
    if ← atEnd then return ([], true)
    let first ← item
    if ← atEnd then return ([first], false)
    expectMark ','
    let (rest, trailing) ← commaSeparated item bound
    return (first :: rest, trailing)

def untilEnd (item : Reader (List Token)) : Nat → Reader (List Token)
  | 0 => failure
  | bound + 1 => do
    if ← atEnd then return []
    return (← item) ++ (← untilEnd item bound)

def bound : Reader Nat := do return (← get).length + 1

def commaTokens (item : Reader (List Token)) : Reader (List Token) := do
  let spaced : Reader (List Token) := do
    let first ← item
    if ← atEnd then return first
    expectMark ','
    return first ++ [.single ',']
  untilEnd spaced (← bound)

def taken (before after : List Token) : List Token := before.take (before.length - after.length)

/-! ### Attributes -/

def plainPath : Nat → Reader (List Token)
  | 0 => failure
  | bound + 1 => do
    let name ← word
    if ← acceptDoubleColon then
      return .word name :: Token.doubleColon ++ (← plainPath bound)
    else return [.word name]

def rootedPath : Reader (List Token) := do
  let root := if ← acceptDoubleColon then Token.doubleColon else []
  return root ++ (← plainPath (← bound))

/-- A sign in front of a number is a token of its own. -/
def literal? : Reader (Option (List Token)) := do
  match ← get with
  | .literal text :: rest => do
    set rest
    return some [.literal text]
  | .mark '-' _ :: .literal text :: rest => do
    set rest
    return some [.single '-', .literal text]
  | .word text :: rest => do
    if text = "true" || text = "false" then
      set rest
      return some [.word text]
    else return none
  | _ => return none

/-- What an attribute says: a name, perhaps with arguments, which are kept as they are written, or
with a value. -/
def attributeBody : Reader (List Token) := do
  let path ← rootedPath
  if ← atEnd then return path
  else if ← acceptMark '=' then
    return path ++ .single '=' :: (← nestedExpression true)
  else return path ++ (← anyGroup)

def attributesFrom : Nat → Reader (List Token)
  | 0 => failure
  | bound + 1 => do
    match ← get with
    | .mark '#' _ :: .group .square content :: rest => do
      set rest
      let body ← within content attributeBody
      return .single '#' :: .group .square body :: (← attributesFrom bound)
    | _ => return []

def attributes : Reader (List Token) := do attributesFrom (← bound)

def innerAttributesFrom : Nat → Reader (List Token)
  | 0 => failure
  | bound + 1 => do
    match ← get with
    | .mark '#' _ :: .mark '!' _ :: .group .square content :: rest => do
      set rest
      let body ← within content attributeBody
      return .single '#' :: .single '!' :: .group .square body :: (← innerAttributesFrom bound)
    | _ => return []

def innerAttributes : Reader (List Token) := do innerAttributesFrom (← bound)

end Reader

end Weave.Declaration
