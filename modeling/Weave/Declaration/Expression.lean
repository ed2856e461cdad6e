import Weave.Declaration.PatternReader

/-! Expressions inside types, which are kept as tokens. They are read as expressions all the same:
each operator is spelled as a unit, whatever it was written next to, and only what is passed to an
expansion or to an attribute, and a few forms besides, stay as they were written. How strongly
operators bind does not show in the tokens. -/

namespace Weave.Declaration

namespace Reader

def value : Reader (List Token) := nestedExpression true

def condition : Reader (List Token) := nestedExpression false

def block : Reader (List Token) := grouped .brace nestedStatements

/-! ### Where operands begin and end -/

def binaryOperators : List String :=
  ["+=", "-=", "*=", "/=", "%=", "^=", "&=", "|=", "<<=", ">>=", "&&", "||", "<<", ">>", "==", "<=",
    "!=", ">=", "+", "-", "*", "/", "%", "^", "&", "|", "<", ">"]

def assignments : List String :=
  ["=", "+=", "-=", "*=", "/=", "%=", "^=", "&=", "|=", "<<=", ">>="]

def operator? (tokens : List Token) : Option String :=
  (binaryOperators.find? (atOperator · tokens)).or
    (if atOperator "=" tokens && !atOperator "=>" tokens then some "=" else none)

def atPoint (tokens : List Token) : Bool := atOperator "." tokens && !atOperator ".." tokens

def endsRange (fields : Bool) (tokens : List Token) : Bool :=
  match tokens with
  | [] => true
  | .word text :: _ => text = "as"
  | .group .brace _ :: _ => !fields
  | tokens =>
    atPoint tokens || [",", ";", "?", "=", "+", "/", "%", "^", ">", "<=", "!=", "-=", "*=", "&=",
      "|=", "<<="].any (atOperator · tokens)

def opensOperand (tokens : List Token) : Bool :=
  match tokens with
  | [] => false
  | .word text :: _ => text ≠ "as"
  | .mark _ _ :: _ =>
    ["!", "-", "*", "|", "&", "..", "<", "::", "#"].any (atOperator · tokens) &&
      ["!=", "-=", "->", "*=", "|=", "&=", "<=", "<<="].all (!atOperator · tokens)
  | _ => true

def atClosure (tokens : List Token) : Bool :=
  match tokens with
  | .mark '|' _ :: _ | .word "move" :: _ | .word "static" :: _ => true
  | .word "for" :: .mark '<' _ :: .lifetime _ :: _ => true
  | .word "for" :: .mark '<' _ :: .mark '>' _ :: _ => true
  | .word "const" :: rest => !atGroup .brace rest
  | .word "async" :: .word "move" :: rest => !atGroup .brace rest
  | .word "async" :: .mark '|' _ :: _ => true
  | _ => false

def atBlockLike (tokens : List Token) : Bool :=
  match tokens with
  | .word text :: rest =>
    ["if", "while", "loop", "match", "unsafe"].contains text ||
      (text = "for" && !atClosure tokens) ||
      (["try", "const"].contains text && atGroup .brace rest)
  | .lifetime _ :: _ => true
  | tokens => atGroup .brace tokens

/-! ### Behind an operand -/

def fieldNumbers : List String → List Token
  | [] => []
  | [""] => []
  | [last] => [.literal (fieldNumber last)]
  | part :: rest => .literal (fieldNumber part) :: .single '.' :: fieldNumbers rest

def callArguments : Reader (List Token) := grouped .round (commaTokens value)

def fieldOrMethod : Reader (List Token) := do
  match ← get with
  | .literal text :: rest => do
    set rest
    return [.literal (fieldNumber text)]
  | _ =>
    let name ← word
    let arguments ← turbofish?
    return .word name :: arguments

/-- What stands behind a point. A number with a fraction is two fields, one with a bare point is
followed by another field. -/
def behindPoint : Reader (List Token) := do
  match ← get with
  | .literal text :: rest =>
    if text.contains '.' then
      set rest
      let numbers := fieldNumbers (text.splitOn ".")
      if text.endsWith "." then return numbers ++ (← fieldOrMethod) else return numbers
    else fieldOrMethod
  | _ => fieldOrMethod

def trailersFrom : Nat → Reader (List Token)
  | 0 => failure
  | bound + 1 => do
    let tokens ← get
    if atGroup .round tokens then return (← callArguments) ++ (← trailersFrom bound)
    else if atGroup .square tokens then
      return (← grouped .square value) ++ (← trailersFrom bound)
    else if atPoint tokens then
      skip
      return .single '.' :: (← behindPoint) ++ (← trailersFrom bound)
    else if atOperator "?" tokens then
      skip
      return .single '?' :: (← trailersFrom bound)
    else return []

def trailers : Reader (List Token) := do trailersFrom (← bound)

/-! ### Sequences of operands -/

/-- Adds tokens to the right. They belong to the leftmost operand if that is a range; but a range to
the right of an assignment is none of its left operand. -/
def extend (phrase : Phrase) (tokens : List Token) : Phrase :=
  match phrase.kind with
  | .range => { phrase with operand := phrase.operand ++ tokens }
  | _ => { phrase with rest := phrase.rest ++ tokens }

def rangeMarks (fields : Bool) : Reader (List Token × Bool) := do
  if ← acceptOperator "..=" then return (operatorTokens "..=".toList, false)
  else
    guard (← acceptOperator "..")
    return (operatorTokens "..".toList, endsRange fields (← get))

def continueFrom (fields : Bool) : Nat → (assigned : Bool) → Phrase → Reader Phrase
  | 0, _, _ => failure
  | bound + 1, assigned, left => do
    let tokens ← get
    match operator? tokens with
    | some operator => do
      set (tokens.drop operator.length)
      let right ← nestedOperand fields
      let assigned := assigned || assignments.contains operator
      continueFrom fields bound assigned
        (extend left (operatorTokens operator.toList ++ right.tokens))
    | none =>
      if atOperator ".." tokens && !atOperator "..." tokens then
        let (marks, upperless) ← rangeMarks fields
        let range := if assigned then extend left marks else ⟨.range, left.tokens ++ marks, []⟩
        if upperless then return range
        else
          let right ← nestedOperand fields
          continueFrom fields bound assigned (extend range right.tokens)
      else if ← acceptWord "as" then
        let type ← type (← depth) false
        continueFrom fields bound assigned (extend left (.word "as" :: type.tokens))
      else return left

def continueExpression (fields : Bool) (first : Phrase) : Reader Phrase := do
  continueFrom fields (← bound) false first

def expression (fields : Bool) : Reader Phrase := do
  continueExpression fields (← nestedOperand fields)

/-! ### Forms with blocks -/

def branches : Nat → Reader (List Token)
  | 0 => failure
  | bound + 1 => do
    guard (← acceptWord "if")
    let lead := .word "if" :: (← condition)
    let lead := lead ++ (← block)
    if ← acceptWord "else" then
      if atGroup .brace (← get) then return lead ++ .word "else" :: (← block)
      else return lead ++ .word "else" :: (← branches bound)
    else return lead

/-- An expression up to where a statement or an arm may end: behind a block that stands first only
a field, a method or a question mark goes on with it. -/
def boundedExpression : Reader Phrase := do
  let attributes ← attributes
  if atBlockLike (← get) then
    let first ← nestedBlockForm
    let tokens ← get
    if atPoint tokens || atOperator "?" tokens then
      continueExpression true { operand := attributes ++ first ++ (← trailers) }
    else return { operand := attributes ++ first }
  else
    let first ← nestedOperand true
    let kind := if attributes.isEmpty || first.kind ≠ .range then first.kind else .plain
    continueExpression true { kind, operand := first.behind attributes }

def arm : Reader (List Token) := do
  let lead := (← attributes) ++ (← anyPattern)
  let guarded ← if ← acceptWord "if" then do pure (.word "if" :: (← value)) else pure []
  guard (← acceptOperator "=>")
  let body ← boundedExpression
  let comma ← optionalMark ','
  return lead ++ guarded ++ operatorTokens "=>".toList ++ body.tokens ++ comma

def arms : Reader (List Token) := do
  let all : Reader (List Token) := do
    let inner ← innerAttributes
    return inner ++ (← untilEnd arm (← bound))
  grouped .brace all

def blockForm : Reader (List Token) := do
  match ← get with
  | .lifetime name :: .mark ':' _ :: rest => do
    set rest
    return .lifetime name :: .single ':' :: (← nestedBlockForm)
  | .word "if" :: _ => branches (← bound)
  | .word "while" :: rest => do
    set rest
    let lead := .word "while" :: (← condition)
    return lead ++ (← block)
  | .word "for" :: rest => do
    set rest
    let pattern ← anyPattern
    guard (← acceptWord "in")
    let lead := .word "for" :: pattern ++ .word "in" :: (← condition)
    return lead ++ (← block)
  | .word "match" :: rest => do
    set rest
    let lead := .word "match" :: (← condition)
    return lead ++ (← arms)
  | .word text :: rest => do
    guard (["loop", "unsafe", "try", "const"].contains text)
    set rest
    return .word text :: (← block)
  | _ => block

/-! ### Operands -/

def closureParameter : Reader (List Token) := do
  let attributes ← attributes
  let pattern ← nestedPattern
  if ← acceptMark ':' then return attributes ++ pattern ++ .single ':' :: (← typeTokens)
  else return attributes ++ pattern

def closureParameters : Nat → Reader (List Token)
  | 0 => failure
  | bound + 1 => do
    if ← acceptMark '|' then return []
    let first ← closureParameter
    if ← acceptMark '|' then return first
    expectMark ','
    return first ++ .single ',' :: (← closureParameters bound)

def closure (fields : Bool) : Reader (List Token) := do
  let lead := (← binder (← depth)) ++ (← optionalWord "const") ++ (← optionalWord "static") ++
    (← optionalWord "async") ++ (← optionalWord "move")
  expectMark '|'
  let parameters ← closureParameters (← bound)
  let lead := lead ++ .single '|' :: parameters ++ [.single '|']
  if ← acceptArrow then
    let output ← typeTokens
    return lead ++ Token.arrow ++ output ++ (← block)
  else return lead ++ (← nestedExpression fields)

def fieldValue : Reader (List Token) := do
  if ← acceptOperator ".." then
    if ← atEnd then return operatorTokens "..".toList
    else return operatorTokens "..".toList ++ (← value)
  else
    let attributes ← attributes
    let member ← member
    if ← acceptMark ':' then return attributes ++ member :: .single ':' :: (← value)
    else return attributes ++ [member]

def pathOperand (fields : Bool) : Reader (List Token) := do
  let (path, _) ← valuePath
  match ← expansionBody? with
  | some body => return path ++ body
  | none =>
    if fields && atGroup .brace (← get) then
      return path ++ (← grouped .brace (commaTokens fieldValue))
    else return path

def arrayItems : Reader (List Token) := do
  if ← atEnd then return []
  let first ← value
  if ← acceptMark ';' then return first ++ .single ';' :: (← value)
  else if ← acceptMark ',' then return first ++ .single ',' :: (← commaTokens value)
  else return first

def optionalOperand (fields : Bool) : Reader (List Token) := do
  let tokens ← get
  if opensOperand tokens && (fields || !atGroup .brace tokens) then nestedExpression fields
  else return []

def openRange (fields : Bool) : Reader (List Token) := do
  let (marks, upperless) ← rangeMarks fields
  if upperless then return marks else return marks ++ (← nestedExpression fields)

def wordOperand (fields : Bool) (text : String) (rest : List Token) : Reader (List Token) := do
  match text with
  | "_" => do
    set rest
    return [.word "_"]
  | "async" => do
    set rest
    let captures ← optionalWord "move"
    return .word "async" :: captures ++ (← block)
  | "break" => do
    set rest
    let label := (← lifetime?).map Token.lifetime
    return .word "break" :: label.toList ++ (← optionalOperand fields)
  | "continue" => do
    set rest
    return .word "continue" :: ((← lifetime?).map Token.lifetime).toList
  | "return" | "yield" => do
    set rest
    return .word text :: (← optionalOperand fields)
  | "let" => do
    set rest
    let pattern ← anyPattern
    expectMark '='
    return .word "let" :: pattern ++ .single '=' :: (← nestedExpression fields)
  | "true" | "false" => do
    set rest
    return [.word text]
  | _ => pathOperand fields

def atom (fields : Bool) : Reader Phrase := do
  let tokens ← get
  match tokens with
  | .word "become" :: rest => do
    set rest
    let _ ← value
    return ⟨.verbatim, taken tokens (← get), []⟩
  | .word "builtin" :: .mark '#' _ :: .word _ :: .group .round _ :: rest => do
    set rest
    return ⟨.verbatim, taken tokens rest, []⟩
  | .mark '.' _ :: _ => return ⟨.range, ← openRange fields, []⟩
  | .literal text :: rest => do
    set rest
    return { operand := [.literal text] }
  | .group .round _ :: _ => return { operand := ← callArguments }
  | .group .square _ :: _ => return { operand := ← grouped .square arrayItems }
  | _ =>
    if atClosure tokens then return { operand := ← closure fields }
    else if atBlockLike tokens then return { operand := ← nestedBlockForm }
    else
      match tokens with
      | .word text :: rest => return { operand := ← wordOperand fields text rest }
      | _ => return { operand := ← pathOperand fields }

def referenceMarks : Reader (List Token) := do
  match ← get with
  | .word "raw" :: .word "const" :: rest => do
    set rest
    return [.single '&', .word "raw", .word "const"]
  | .word "raw" :: .word "mut" :: rest => do
    set rest
    return [.single '&', .word "raw", .word "mut"]
  | _ => return .single '&' :: (← optionalWord "mut")

/-- An operand with the attributes and marks in front of it and all that follows it. One that is
kept as it is written keeps its attributes in the same way. -/
def operand (fields : Bool) : Reader Phrase := do
  let start ← get
  let attributes ← attributes
  match ← get with
  | .mark '&' _ :: rest => do
    set rest
    let marks ← referenceMarks
    return { operand := attributes ++ marks ++ (← nestedOperand fields).tokens }
  | .mark '*' _ :: rest => do
    set rest
    return { operand := attributes ++ .single '*' :: (← nestedOperand fields).tokens }
  | .mark '-' _ :: rest => do
    set rest
    return { operand := attributes ++ .single '-' :: (← nestedOperand fields).tokens }
  | .mark '!' _ :: rest => do
    set rest
    return { operand := attributes ++ .single '!' :: (← nestedOperand fields).tokens }
  | _ =>
    let first ← atom fields
    let more ← trailers
    if !more.isEmpty then return { operand := attributes ++ first.operand ++ more }
    else if first.kind = .verbatim then return ⟨.verbatim, taken start (← get), []⟩
    else return { first with operand := attributes ++ first.operand }

end Reader

end Weave.Declaration
